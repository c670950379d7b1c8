import GoScaffold.Proofs.Flow.Normalization
import GoScaffold.Proofs.Flow.Outline
import Mathlib.Data.List.Induction

/-! The scopes of the variables in a flow's code. Code is well scoped if it assigns only to
variables that an open block declares, and defines only variables that the innermost block does not
declare yet. The lowering keeps one set of names for all blocks, so the operators need not fit the
blocks; a flow's code is well scoped exactly when the places at which the flow writes a name fit. -/

namespace GoScaffold.Flow

/-- An open block: the variables of its header and the names declared in it. -/
structure Scope where
  bound : List String
  names : List String

def enter (scopes : List Scope) : Item Op → List Scope
  | .line _ => scopes
  | .write .assign _ => scopes
  | .write .define w =>
    scopes.modifyHead fun scope => { scope with names := w.names ++ scope.names }
  | .opens bound => ⟨bound, []⟩ :: scopes
  | .closes => scopes.tail

def namesAt (kind : Scope → List String) (scopes : List Scope) (k : Nat) : List String :=
  (scopes[k]?.map kind).getD []

def isAllowed (scopes : List Scope) : Item Op → Bool
  | .write .define w => !(namesAt Scope.names scopes 0).contains w.name
  | .write .assign w => scopes.any fun scope => (scope.names ++ scope.bound).contains w.name
  | _ => true

def isScoped : List Scope → List (Item Op) → Bool
  | _, [] => true
  | scopes, item :: rest => isAllowed scopes item && isScoped (enter scopes item) rest

def results : List String := ["resp", "err"]

def methodScope : Scope := ⟨[], results⟩

/-! Where a flow writes a name. -/

section

variable (before : List (Item Writer))

/-- The name is among those that the flow has declared, in whatever block. -/
def Known (name : String) : Prop :=
  name ∈ results ∨ ∃ how w, Item.write how w ∈ before ∧ how ≠ .hidden ∧ w.name = name

def Introduces (how : Writer) (w : Write) : Prop := how = .tracked → ¬Known before w.name

/-- One of the items has the property, given those before it, and stands in a block that is still
open, around `k` others. -/
def OpenAt (k : Nat) (P : List (Item Writer) → Item Writer → Prop) : Prop :=
  ∃ pre item mid, before = pre ++ item :: mid ∧ P pre item ∧ level? mid 0 = some k

def Declares (name : String) (pre : List (Item Writer)) (item : Item Writer) : Prop :=
  ∃ how w, item = .write how w ∧ Introduces pre how w ∧ name ∈ w.names

def Binds (name : String) (item : Item Writer) : Prop :=
  ∃ bound, item = .opens bound ∧ name ∈ bound

def DeclaredAt (k : Nat) (name : String) : Prop :=
  (name ∈ results ∧ level? before 0 = some k) ∨ OpenAt before k (Declares name)

def BoundAt (k : Nat) (name : String) : Prop := OpenAt before k fun _ => Binds name

end

/-! What the operators depend on. -/

theorem mem_declare {declared : Declared} {item : Item Writer} {name : String} :
    name ∈ item.declare declared ↔
      name ∈ declared ∨ ∃ how w, item = .write how w ∧ how ≠ .hidden ∧ w.name = name := by
  cases item with
  | line l => simp [Item.declare]
  | opens bound => simp [Item.declare]
  | closes => simp [Item.declare]
  | write how w =>
    by_cases hhow : how = .hidden
    · subst hhow
      simp [Item.declare]
    · rw [Item.declare_write hhow]
      by_cases hknown : w.name ∈ declared
      · simp only [List.contains_iff_mem, hknown, if_true]
        refine ⟨.inl, ?_⟩
        rintro (h | ⟨_, _, heq, _, rfl⟩)
        · exact h
        · cases heq
          exact hknown
      · simp [hknown, hhow, eq_comm, or_comm]

theorem mem_declareAll_results {before : List (Item Writer)} {name : String} :
    name ∈ declareAll results before ↔ Known before name := by
  induction before using List.reverseRecOn with
  | nil => simp [declareAll, Known]
  | append_singleton before item ih =>
    rw [declareAll, List.foldl_append]
    show name ∈ item.declare (declareAll results before) ↔ _
    rw [mem_declare, ih]
    simp only [Known, List.mem_append, List.mem_singleton]
    grind

section

variable {before : List (Item Writer)} {how : Writer} {w : Write}

theorem resolve_of_introduces (h : Introduces before how w) :
    (Item.write how w).resolve (declareAll results before) = .write .define w := by
  cases how with
  | tracked =>
    have hnew : w.name ∉ declareAll results before :=
      fun hmem => h rfl (mem_declareAll_results.1 hmem)
    simp [Item.resolve, Writer.op, hnew]
  | fresh => rfl
  | hidden => rfl

theorem resolve_of_not_introduces (h : ¬Introduces before how w) :
    (Item.write how w).resolve (declareAll results before) = .write .assign w := by
  obtain ⟨rfl, hknown⟩ := Classical.not_imp.1 h
  have hmem : w.name ∈ declareAll results before := mem_declareAll_results.2 (not_not.1 hknown)
  simp [Item.resolve, Writer.op, hmem]

end

/-! The open blocks after some items, and the items that fill them. -/

section

variable {before : List (Item Writer)} {item : Item Writer} {k : Nat}

theorem level?_concat {n : Nat} : level? (before ++ [item]) n = some k ↔
    ∃ j, level? before n = some j ∧ item.level? j = some k := by
  rw [level?_append, Option.bind_eq_some_iff]
  simp [level?]

theorem openAt_concat {P : List (Item Writer) → Item Writer → Prop} :
    OpenAt (before ++ [item]) k P ↔
      (∃ j, OpenAt before j P ∧ item.level? j = some k) ∨ (k = 0 ∧ P before item) := by
  constructor
  · rintro ⟨pre, found, mid, heq, hfound, hlevel⟩
    -- the item found is the last one, or stands before it
    rcases List.eq_nil_or_concat mid with rfl | ⟨mid, last, rfl⟩
    · obtain ⟨rfl, hlast⟩ := List.append_inj' heq rfl
      cases hlast
      cases hlevel
      exact .inr ⟨rfl, hfound⟩
    · rw [List.concat_eq_append, ← List.cons_append, ← List.append_assoc] at heq
      obtain ⟨rfl, hlast⟩ := List.append_inj' heq rfl
      cases hlast
      obtain ⟨j, hmid, hitem⟩ := level?_concat.1 (List.concat_eq_append ▸ hlevel)
      exact .inl ⟨j, ⟨pre, found, mid, rfl, hfound, hmid⟩, hitem⟩
  · rintro (⟨j, ⟨pre, found, mid, rfl, hfound, hlevel⟩, hitem⟩ | ⟨rfl, hitem⟩)
    · refine ⟨pre, found, mid ++ [item], by simp, hfound, level?_concat.2 ⟨j, hlevel, hitem⟩⟩
    · exact ⟨before, item, [], rfl, hitem, rfl⟩

def scopesAfter (before : List (Item Writer)) : List Scope :=
  (resolve results before).foldl enter [methodScope]

theorem scopesAfter_concat : scopesAfter (before ++ [item]) =
    enter (scopesAfter before) (item.resolve (declareAll results before)) := by
  rw [scopesAfter, resolve_append, List.foldl_append]
  rfl

theorem length_enter {scopes : List Scope} {item : Item Op} {j : Nat}
    (hscopes : scopes.length = j + 1)
    (hitem : item.level? j = some k) : (enter scopes item).length = k + 1 := by
  cases item with
  | line l =>
    cases hitem
    exact hscopes
  | write op w =>
    cases hitem
    cases op with
    | assign => exact hscopes
    | define => rw [enter, List.length_modifyHead, hscopes]
  | opens bound =>
    cases hitem
    exact congrArg (· + 1) hscopes
  | closes =>
    cases j with
    | zero => cases hitem
    | succ j =>
      cases hitem
      rw [enter, List.length_tail, hscopes]
      rfl

theorem length_scopesAfter (h : level? before 0 = some k) :
    (scopesAfter before).length = k + 1 := by
  induction before using List.reverseRecOn generalizing k with
  | nil =>
    cases h
    rfl
  | append_singleton before item ih =>
    obtain ⟨j, hbefore, hitem⟩ := level?_concat.1 h
    rw [scopesAfter_concat]
    exact length_enter (ih hbefore) ((Item.level?_resolve _ item j).trans hitem)

def added (kind : Scope → List String) : Item Op → List String
  | .write .define w => kind ⟨[], w.names⟩
  | .opens bound => kind ⟨bound, []⟩
  | _ => []

section

variable {kind : Scope → List String} {name : String} (hkind : ∀ bound more names,
  name ∈ kind ⟨bound, more ++ names⟩ ↔ name ∈ kind ⟨[], more⟩ ∨ name ∈ kind ⟨bound, names⟩)
include hkind

/-- A block keeps its names while it is open, and the innermost one takes new names. -/
theorem mem_namesAt_enter {scopes : List Scope} (hscopes : scopes ≠ []) {item : Item Op} :
    name ∈ namesAt kind (enter scopes item) k ↔
      (∃ j, name ∈ namesAt kind scopes j ∧ item.level? j = some k) ∨
        (k = 0 ∧ name ∈ added kind item) := by
  obtain ⟨scope, scopes, rfl⟩ := List.exists_cons_of_ne_nil hscopes
  cases item with
  | line l => simp [enter, Item.level?, added]
  | write op w =>
    cases op with
    | assign => simp [enter, Item.level?, added]
    | define =>
      cases k with
      | zero => simp [enter, Item.level?, namesAt, added, hkind, or_comm]
      | succ k => simp [enter, Item.level?, namesAt]
  | opens bound =>
    cases k with
    | zero => simp [enter, Item.level?, namesAt, added]
    | succ k => simp [enter, Item.level?, namesAt]
  | closes =>
    -- the block around the innermost one takes its place
    have hlevel : ∀ j, (Item.closes : Item Op).level? j = some k ↔ j = k + 1 := by
      intro j
      cases j <;> simp [Item.level?]
    simp [enter, hlevel, namesAt, added]

theorem mem_namesAt_scopesAfter {n : Nat} (h : level? before 0 = some n) :
    name ∈ namesAt kind (scopesAfter before) k ↔
      (name ∈ kind methodScope ∧ level? before 0 = some k) ∨
        OpenAt before k fun pre item => name ∈
        added kind (item.resolve (declareAll results pre)) := by
  induction before using List.reverseRecOn generalizing k n with
  | nil =>
    rw [or_iff_left (by simp [OpenAt])]
    cases k <;> simp [scopesAfter, resolve, namesAt, level?]
  | append_singleton before item ih =>
    obtain ⟨m, hbefore, -⟩ := level?_concat.1 h
    have hne : scopesAfter before ≠ [] := by
      rw [← List.length_pos_iff, length_scopesAfter hbefore]
      exact Nat.succ_pos m
    -- the last item moves all open blocks by its level, and adds to the innermost one
    rw [scopesAfter_concat, mem_namesAt_enter hkind hne, openAt_concat, level?_concat]
    simp only [ih hbefore, Item.level?_resolve]
    grind

end

theorem mem_added_names {pre : List (Item Writer)} {name : String} :
    name ∈ added Scope.names (item.resolve (declareAll results pre)) ↔ Declares name pre item := by
  cases item with
  | line l => simp [Item.resolve, added, Declares]
  | opens bound => simp [Item.resolve, added, Declares]
  | closes => simp [Item.resolve, added, Declares]
  | write how w =>
    by_cases h : Introduces pre how w
    · rw [resolve_of_introduces h]
      simp [added, Declares, h]
    · rw [resolve_of_not_introduces h]
      simp [added, Declares, h]

theorem mem_added_bound {pre : List (Item Writer)} {name : String} :
    name ∈ added Scope.bound (item.resolve (declareAll results pre)) ↔ Binds name item := by
  cases item with
  | line l => simp [Item.resolve, added, Binds]
  | opens bound => simp [Item.resolve, added, Binds]
  | closes => simp [Item.resolve, added, Binds]
  | write how w =>
    rw [Item.resolve]
    cases how.op (!(declareAll results pre).contains w.name) <;> simp [added, Binds]

theorem mem_names_scopesAfter {name : String} {n : Nat} (h : level? before 0 = some n) :
    name ∈ namesAt Scope.names (scopesAfter before) k ↔ DeclaredAt before k name := by
  rw [mem_namesAt_scopesAfter (by simp) h]
  simp only [mem_added_names]
  rfl

theorem mem_bound_scopesAfter {name : String} {n : Nat} (h : level? before 0 = some n) :
    name ∈ namesAt Scope.bound (scopesAfter before) k ↔ BoundAt before k name := by
  rw [mem_namesAt_scopesAfter (by simp) h]
  simp [mem_added_bound, BoundAt, methodScope]

theorem isScoped_resolve_iff {scopes : List Scope} {declared : Declared}
    {items : List (Item Writer)} :
    isScoped scopes (resolve declared items) = true ↔
      ∀ before item after, items = before ++ item :: after →
        isAllowed ((resolve declared before).foldl enter scopes)
          (item.resolve (declareAll declared before)) = true := by
  induction items generalizing scopes declared with
  | nil => simp [resolve, isScoped]
  | cons first items ih =>
    rw [resolve, isScoped, Bool.and_eq_true, ih]
    constructor
    · rintro ⟨hfirst, hrest⟩ before item after heq
      cases before with
      | nil =>
        cases heq
        exact hfirst
      | cons _ before =>
        cases heq
        exact hrest before item after rfl
    · intro h
      exact ⟨h [] first items rfl, fun before item after heq =>
        h (first :: before) item after (congrArg (List.cons first) heq)⟩

theorem exists_mem_namesAt {kind : Scope → List String} {scopes : List Scope} {name : String} :
    (∃ k, name ∈ namesAt kind scopes k) ↔ ∃ scope ∈ scopes, name ∈ kind scope := by
  constructor
  · rintro ⟨k, hk⟩
    cases hscope : scopes[k]? with
    | none => simp [namesAt, hscope] at hk
    | some scope => exact ⟨scope, List.mem_of_getElem? hscope, by simpa [namesAt, hscope] using hk⟩
  · rintro ⟨scope, hmem, hname⟩
    obtain ⟨k, hscope⟩ := List.mem_iff_getElem?.1 hmem
    exact ⟨k, by simpa [namesAt, hscope] using hname⟩

/-- The place of a name that is written after the items: if it is introduced, the innermost block
has not declared it, and otherwise an open block has, in its header or in it. -/
def Fits (before : List (Item Writer)) (how : Writer) (w : Write) : Prop :=
  (Introduces before how w → ¬DeclaredAt before 0 w.name) ∧
  (¬Introduces before how w → ∃ k, DeclaredAt before k w.name ∨ BoundAt before k w.name)

theorem isAllowed_write_iff {how : Writer} {w : Write} {n : Nat} (h : level? before 0 = some n) :
    isAllowed (scopesAfter before) ((Item.write how w).resolve (declareAll results before)) = true ↔
      Fits before how w := by
  by_cases hintro : Introduces before how w
  · rw [resolve_of_introduces hintro]
    simp [isAllowed, Fits, hintro, mem_names_scopesAfter h]
  · rw [resolve_of_not_introduces hintro]
    simp only [isAllowed, List.any_eq_true, List.contains_iff_mem, List.mem_append, and_or_left,
      exists_or, ← exists_mem_namesAt, mem_names_scopesAfter h, mem_bound_scopesAfter h]
    simp [Fits, hintro, exists_or]

end

/-! The names that outlines write without keeping them. -/

def helperNames : List String := ["_off", "_lim", "_start", "_end"]

/-- Names that are written along with others are results, and names that are not kept are
helpers. -/
def Item.Keeps : Item Writer → Prop
  | .write how w => (∀ name ∈ w.companions, name ∈ results) ∧ (how = .hidden → w.name ∈ helperNames)
  | _ => True

def AllKeep (items : List (Item Writer)) : Prop := ∀ item ∈ items, item.Keeps

section

variable {items more : List (Item Writer)}

theorem AllKeep.append (h : AllKeep items) (hmore : AllKeep more) : AllKeep (items ++ more) :=
  List.forall_mem_append.2 ⟨h, hmore⟩

theorem AllKeep.cons_line (h : AllKeep items) (l : CodeLine) : AllKeep (.line l :: items) :=
  List.forall_mem_cons.2 ⟨trivial, h⟩

theorem allKeep_nil : AllKeep [] := List.forall_mem_nil _

theorem allKeep_lines (ls : List CodeLine) : AllKeep (ls.map .line) := by
  intro item hitem
  obtain ⟨l, -, rfl⟩ := List.mem_map.1 hitem
  trivial

theorem AllKeep.block (h : AllKeep items) (bound : List String) : AllKeep (block bound items) :=
  List.forall_mem_cons.2 ⟨trivial, h.append (List.forall_mem_singleton.2 trivial)⟩

theorem AllKeep.needed (h : AllKeep items) (texts : List String) :
    AllKeep (needed texts items) := by
  unfold Flow.needed
  split
  · exact allKeep_nil
  · exact h

theorem allKeep_unless (h : AllKeep items) (isEmpty : Bool) :
    AllKeep (if isEmpty then [] else items) := by
  cases isEmpty
  · exact h
  · exact allKeep_nil

theorem AllKeep.cons_write (h : AllKeep items) {how : Writer} {w : Write} (hhow : how ≠ .hidden)
    (hw : ∀ name ∈ w.companions, name ∈ results) : AllKeep (.write how w :: items) :=
  List.forall_mem_cons.2 ⟨⟨hw, fun heq => absurd heq hhow⟩, h⟩

end

theorem allKeep_flatten {β : Type} {bs : List β} {outline : β → List (Item Writer)}
    (h : ∀ b ∈ bs, AllKeep (outline b)) : AllKeep (bs.map outline).flatten := by
  intro item hitem
  obtain ⟨b, hb, hitem⟩ := List.mem_flatMap.1 (List.flatMap_def ▸ hitem)
  exact h b hb item hitem

theorem allKeep_paginateOutline (s : Step) : AllKeep (paginateOutline s) := by
  refine AllKeep.needed ?_ _
  simp [AllKeep, Item.Keeps, helperNames]

theorem allKeep_outlineStep (ret : String) (s : Step) : AllKeep (outlineStep ret s) := by
  induction s using Step.branches_induction with
  | step s hbranch hcase =>
    have hchoice : ∀ cond yes no, AllKeep (ifElseOutline cond
        ((s.branch yes).map (outlineStep ret)) ((s.branch no).map (outlineStep ret))) := by
      intro cond yes no
      have hyes := (allKeep_flatten (hbranch yes)).block []
      have hno := (allKeep_flatten (hbranch no)).block []
      exact ((hyes.cons_line _).append (allKeep_unless (hno.cons_line _) _)).append
        (allKeep_lines [_])
    rw [outlineStep, Step.fold_eq, stepOutline]
    cases Action.ofName? s.action with
    | none => exact allKeep_nil
    | some action =>
      cases action with
      | check => exact allKeep_lines _
      | fetch method =>
        simp only [fetchOutline]
        split
        · exact allKeep_lines _
        · exact ((allKeep_lines _).cons_write (by decide) (by simp [results])).needed _
      | store method => exact allKeep_lines _
      | assign =>
        simp only [assignOutline]
        split
        · exact (allKeep_nil.cons_write (by decide) (by simp)).needed _
        · exact allKeep_lines _
      | conditional => exact (hchoice _ _ _).needed _
      | upsert => exact (hchoice _ _ _).needed _
      | switch =>
        have hdefault := (allKeep_flatten (hbranch Step.defaultKey)).block []
        refine AllKeep.needed ?_ _
        rw [switchOutline, List.flatMap_map, List.flatMap_def]
        refine ((AllKeep.cons_line (allKeep_flatten fun b hb => ?_) _).append
          (allKeep_unless (hdefault.cons_line _) _)).append (allKeep_lines [_])
        exact ((allKeep_flatten (hcase b hb)).block []).cons_line _
      | each =>
        have hbody := allKeep_flatten (hbranch Step.doKey)
        exact (((hbody.block _).cons_line _).append (allKeep_lines [_])).needed _
      | block => exact allKeep_flatten (hbranch _)
      | filter => exact ((allKeep_lines _).cons_write (by decide) (by simp)).needed _
      | paginate => exact allKeep_paginateOutline s
      | append => exact allKeep_lines _
      | sort => exact ((allKeep_lines _).cons_write (by decide) (by simp)).needed _
      | normalize => exact (allKeep_nil.cons_write (by decide) (by simp)).needed _
      | publish => exact allKeep_lines _

/-- A name that is not known has been declared, if at all, as a helper. -/
theorem not_declaredAt_of_not_known {before : List (Item Writer)} {k : Nat} {name : String}
    (hkeep : AllKeep before) (hnew : ¬Known before name) (hname : name ∉ helperNames) :
    ¬DeclaredAt before k name := by
  rintro (⟨hresult, -⟩ | ⟨pre, -, mid, rfl, ⟨how, w, rfl, -, hw⟩, -⟩)
  · exact hnew (.inl hresult)
  · have hmem : Item.write how w ∈ pre ++ .write how w :: mid :=
      List.mem_append_right _ List.mem_cons_self
    obtain ⟨hcompanions, hhelper⟩ := hkeep _ hmem
    rcases List.mem_cons.1 hw with rfl | hw
    · exact hnew (.inr ⟨how, w, hmem, fun hhidden => hname (hhelper hhidden), rfl⟩)
    · exact hnew (.inl (hcompanions name hw))

/-- A flow's code is well scoped exactly when each place at which the flow writes a name fits: where
the name is introduced, the same block has not declared it, and where it is not, an open block has.
A step that keeps track of its name introduces it only where the block has not declared it, unless a
page's bounds have that name. -/
theorem isScoped_code_iff (flow : List Step) (hasOutput : Bool) :
    render flow hasOutput = String.join ((printed 0 (resolve results (outline flow hasOutput))).map
      CodeLine.render) ∧
    (isScoped [methodScope] (resolve results (outline flow hasOutput)) = true ↔
      ∀ before how w after, outline flow hasOutput = before ++ .write how w :: after →
        Fits before how w) ∧
    ∀ before w after, outline flow hasOutput = before ++ .write .tracked w :: after →
      Introduces before .tracked w → w.name ∉ helperNames → ¬DeclaredAt before 0 w.name := by
  -- the outline closes only blocks that it has opened, so at every place the method's own is open
  have hlevel : ∀ before item after, outline flow hasOutput = before ++ item :: after →
      ∃ n, level? before 0 = some n := by
    intro before item after heq
    have hbalanced := balanced_outline flow hasOutput
    rw [heq, Balanced, level?_append] at hbalanced
    exact (Option.bind_eq_some_iff.1 hbalanced).imp fun _ h => h.1
  refine ⟨render_eq_printed flow hasOutput, isScoped_resolve_iff.trans ⟨?_, ?_⟩, ?_⟩
  · intro h before how w after heq
    obtain ⟨n, hn⟩ := hlevel before _ after heq
    exact (isAllowed_write_iff hn).1 (h before _ after heq)
  · intro h before item after heq
    cases item with
    | write how w =>
      obtain ⟨n, hn⟩ := hlevel before _ after heq
      exact (isAllowed_write_iff hn).2 (h before how w after heq)
    | line l => rfl
    | opens bound => rfl
    | closes => rfl
  · intro before w after heq hnew hname
    have hkeep : AllKeep (before ++ .write .tracked w :: after) := by
      rw [← heq, outline, List.flatMap_def]
      exact allKeep_flatten fun s _ => allKeep_outlineStep _ s
    exact not_declaredAt_of_not_known (List.forall_mem_append.1 hkeep).1 (hnew rfl) hname

def eitherOrder : List FlowStep :=
  [{ action := "flow.If"
     args := [("condition", .str "req.ID != \"\"")]
     thenSteps := [{
       action := "repo.Get"
       args := [("input", .str "req.ID"), ("output", .str "order"), ("source", .str "Order")] }]
     elseSteps := [{
       action := "repo.Find"
       args := [("input", .str "req.Code"), ("method", .str "FindByCode"),
         ("output", .str "order"), ("source", .str "Order")] }] }]

def filterTwice : List FlowStep :=
  [{ action := "list.Filter"
     args := [("condition", .str "item.Open"), ("from", .str "req.Orders"),
       ("output", .str "orders")] },
   { action := "list.Filter"
     args := [("condition", .str "item.Paid"), ("from", .str "orders"),
       ("output", .str "orders")] }]

/-- The second branch assigns to a variable that only the first one declares, and the second filter
defines a variable that its block declares already. -/
theorem not_isScoped_code :
    isScoped [methodScope] (resolve results (outline (normalizeSteps eitherOrder) true)) = false ∧
      isScoped [methodScope] (resolve results (outline (normalizeSteps filterTwice) true)) =
        false := by
  decide +kernel

end GoScaffold.Flow
