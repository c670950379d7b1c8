import GoScaffold.Proofs.Flow.Branches

/-! The outline of a flow's code: the variables that it writes and the blocks that it opens and
closes, in the order of the text, with all other lines as they stand. These are assignments that
declare nothing, and lines whose variables end with them, such as the error of a guarded call. The
outline leaves open by which operator a variable is written. The names that the flow has declared so
far, in whatever block, decide on that, and with these operators the outline is the text of the
code. -/

namespace GoScaffold.Flow

inductive Op where
  | assign
  | define
deriving DecidableEq

def Op.text : Op → String
  | assign => "="
  | define => ":="

/-- How a step writes a variable. -/
inductive Writer where
  /-- The variable is defined if its name is new, and assigned to otherwise. -/
  | tracked
  /-- The variable is always defined. -/
  | fresh
  /-- The variable is always defined, and its name is not kept. -/
  | hidden
deriving DecidableEq

def Writer.op (isNew : Bool) : Writer → Op
  | tracked => if isNew then .define else .assign
  | fresh => .define
  | hidden => .define

structure Write where
  name : String
  companions : List String
  value : List CodePart

def Write.names (w : Write) : List String := w.name :: w.companions

def Write.parts (w : Write) (op : Op) : List CodePart :=
  CodePart.given w.name :: (w.companions.flatMap fun name => [CodePart.words ", ", .words name]) ++
    [CodePart.words " ", .words op.text, .words " "] ++ w.value

/-- A part of the outline. A block may have variables of its own, bound in its header. -/
inductive Item (ω : Type) where
  | line (l : CodeLine)
  | write (how : ω) (w : Write)
  | opens (bound : List String)
  | closes

namespace Item

variable {ω : Type}

def level? : Item ω → Nat → Option Nat
  | line _, n => some n
  | write _ _, n => some n
  | opens _, n => some (n + 1)
  | closes, 0 => none
  | closes, n + 1 => some n

def declare (declared : Declared) : Item Writer → Declared
  | write .hidden _ => declared
  | write _ w => if declared.contains w.name then declared else w.name :: declared
  | _ => declared

def resolve (declared : Declared) : Item Writer → Item Op
  | line l => line l
  | write how w => write (how.op !declared.contains w.name) w
  | opens bound => opens bound
  | closes => closes

theorem declare_write {how : Writer} (hhow : how ≠ .hidden) (w : Write) (declared : Declared) :
    (write how w).declare declared =
      if declared.contains w.name then declared else w.name :: declared := by
  cases how with
  | tracked => rfl
  | fresh => rfl
  | hidden => exact absurd rfl hhow

theorem level?_resolve (declared : Declared) (item : Item Writer) (n : Nat) :
    (item.resolve declared).level? n = item.level? n := by
  cases item <;> cases n <;> rfl

theorem level?_add {item : Item ω} {m n : Nat} (h : item.level? n = some m) (k : Nat) :
    item.level? (n + k) = some (m + k) := by
  cases item with
  | line l =>
    cases h
    rfl
  | write how w =>
    cases h
    rfl
  | opens bound =>
    cases h
    exact congrArg some (Nat.add_right_comm n k 1)
  | closes =>
    cases n with
    | zero => cases h
    | succ n =>
      cases h
      rw [Nat.add_right_comm]
      rfl

end Item

open Item

/-! Lists of items. -/

section

variable {ω : Type} {a b : List (Item ω)} {m n : Nat}

def level? : List (Item ω) → Nat → Option Nat
  | [], n => some n
  | item :: rest, n => (item.level? n).bind (level? rest)

theorem level?_append : level? (a ++ b) n = (level? a n).bind (level? b) := by
  induction a generalizing n with
  | nil => rfl
  | cons item a ih =>
    rw [List.cons_append, level?, level?, Option.bind_assoc]
    exact congrArg _ (funext fun _ => ih)

theorem level?_add (h : level? a n = some m) (k : Nat) : level? a (n + k) = some (m + k) := by
  induction a generalizing n with
  | nil =>
    cases h
    rfl
  | cons item a ih =>
    obtain ⟨l, hitem, hrest⟩ := Option.bind_eq_some_iff.1 h
    exact Option.bind_eq_some_iff.2 ⟨l + k, Item.level?_add hitem k, ih hrest⟩

def Balanced (items : List (Item ω)) : Prop := level? items 0 = some 0

theorem Balanced.append (ha : Balanced a) (hb : Balanced b) : Balanced (a ++ b) := by
  rw [Balanced, level?_append, ha]
  exact hb

def block (bound : List String) (items : List (Item ω)) : List (Item ω) :=
  .opens bound :: items ++ [.closes]

theorem Balanced.block (ha : Balanced a) (bound : List String) : Balanced (block bound a) := by
  have hinside : level? a 1 = some 1 := level?_add ha 1
  show level? (a ++ [.closes]) 1 = some 0
  rw [level?_append, hinside]
  rfl

end

def printed : (indent : Nat) → List (Item Op) → List CodeLine
  | _, [] => []
  | n, .line l :: rest => { l with indent := n + l.indent } :: printed n rest
  | n, .write op w :: rest => ⟨n, w.parts op⟩ :: printed n rest
  | n, .opens _ :: rest => printed (n + 1) rest
  | n, .closes :: rest => printed (n - 1) rest

theorem printed_append {a b : List (Item Op)} {n m : Nat} (h : level? a n = some m) (indent : Nat) :
    printed (indent + n) (a ++ b) = printed (indent + n) a ++ printed (indent + m) b := by
  induction a generalizing n with
  | nil =>
    cases h
    rfl
  | cons item a ih =>
    obtain ⟨l, hitem, hrest⟩ := Option.bind_eq_some_iff.1 h
    have ih := ih hrest
    -- `n` counts the blocks that are open within `a`, so an item that closes one never cuts off at
    -- zero
    cases item with
    | line _ =>
      cases hitem
      exact congrArg (List.cons _) ih
    | write _ _ =>
      cases hitem
      exact congrArg (List.cons _) ih
    | opens _ =>
      cases hitem
      exact ih
    | closes =>
      cases n with
      | zero => cases hitem
      | succ n =>
        cases hitem
        exact ih

def resolve : Declared → List (Item Writer) → List (Item Op)
  | _, [] => []
  | declared, item :: rest => item.resolve declared :: resolve (item.declare declared) rest

def declareAll (declared : Declared) (items : List (Item Writer)) : Declared :=
  items.foldl Item.declare declared

section

variable {declared : Declared} {a b : List (Item Writer)}

theorem resolve_append : resolve declared (a ++ b) =
    resolve declared a ++ resolve (declareAll declared a) b := by
  induction a generalizing declared with
  | nil => rfl
  | cons item a ih => exact congrArg (List.cons _) ih

theorem level?_resolve (n : Nat) : level? (resolve declared a) n = level? a n := by
  induction a generalizing declared n with
  | nil => rfl
  | cons item a ih =>
    rw [resolve, level?, Item.level?_resolve, level?]
    exact congrArg _ (funext fun _ => ih _)

theorem printed_resolve_append (ha : Balanced a) (indent : Nat) :
    printed indent (resolve declared (a ++ b)) =
      printed indent (resolve declared a) ++
      printed indent (resolve (declareAll declared a) b) := by
  rw [resolve_append]
  exact printed_append ((level?_resolve 0).trans ha) indent

theorem printed_resolve_block (ha : Balanced a) (bound : List String) (indent : Nat) :
    printed indent (resolve declared (block bound a)) =
    printed (indent + 1) (resolve declared a) := by
  show printed (indent + 1) (resolve declared (a ++ [.closes])) = _
  rw [printed_resolve_append ha]
  exact List.append_nil _

theorem declareAll_block (bound : List String) :
    declareAll declared (block bound a) = declareAll declared a := by
  show (a ++ [Item.closes]).foldl Item.declare declared = _
  rw [List.foldl_append]
  rfl

end

/-! Code that follows an outline. -/

def text (parts : List CodePart) : String := String.join (parts.map CodePart.render)

namespace Lowering

/-- The code is the text of the items, and makes the same names known. -/
structure Follows (code : Lowering) (items : List (Item Writer)) : Prop where
  balanced : Balanced items
  render_eq (indent : Nat) (declared : Declared) :
    (code indent declared).1.map CodeLine.render =
      (printed indent (resolve declared items)).map CodeLine.render
  declared_eq (indent : Nat) (declared : Declared) :
    (code indent declared).2 = declareAll declared items

variable {a b code : Lowering} {items more : List (Item Writer)}

theorem follows_none : none.Follows [] := ⟨rfl, fun _ _ => rfl, fun _ _ => rfl⟩

theorem Follows.seq (ha : a.Follows items) (hb : b.Follows more) :
    (seq a b).Follows (items ++ more) where
  balanced := ha.balanced.append hb.balanced
  render_eq indent declared := by
    rw [printed_resolve_append ha.balanced, List.map_append, ← ha.render_eq,
      ← ha.declared_eq indent, ← hb.render_eq]
    exact List.map_append
  declared_eq indent declared := by
    rw [declareAll, List.foldl_append]
    show (b indent (a indent declared).2).2 = _
    rw [ha.declared_eq, hb.declared_eq]
    rfl

theorem Follows.nested (h : code.Follows items) (bound : List String) :
    (nested code).Follows (block bound items) where
  balanced := h.balanced.block bound
  render_eq indent declared := by
    rw [printed_resolve_block h.balanced]
    exact h.render_eq (indent + 1) declared
  declared_eq indent declared := by
    rw [declareAll_block]
    exact h.declared_eq (indent + 1) declared

theorem all_append (xs ys : List Lowering) : all (xs ++ ys) = seq (all xs) (all ys) := by
  induction xs with
  | nil => rfl
  | cons code xs ih =>
    funext indent declared
    show seq code (all (xs ++ ys)) indent declared = _
    rw [ih]
    exact Prod.ext (List.append_assoc _ _ _).symm rfl

theorem follows_all_flatMap {β : Type} {bs : List β} {codes : β → List Lowering}
    {outline : β → List (Item Writer)} (h : ∀ b ∈ bs, (all (codes b)).Follows (outline b)) :
    (all (bs.flatMap codes)).Follows (bs.flatMap outline) := by
  induction bs with
  | nil => exact follows_none
  | cons b bs ih =>
    rw [List.forall_mem_cons] at h
    rw [List.flatMap_cons, List.flatMap_cons, all_append]
    exact h.1.seq (ih h.2)

theorem Follows.needing (h : code.Follows items) (texts : List String) :
    (needing texts code).Follows (if texts.any String.isEmpty then [] else items) := by
  unfold Lowering.needing
  split
  · exact follows_none
  · exact h

/-! Lines that write no variable, or one whose name is not kept. -/

theorem follows_lines_cons {l : CodeLine} {ls : List CodeLine} {item : Item Writer}
    (hbalanced : Balanced [item]) (hrender : ∀ indent declared,
      [CodeLine.render { l with indent := indent + l.indent }] =
        (printed indent (Flow.resolve declared [item])).map CodeLine.render)
    (hdeclare : ∀ declared, item.declare declared = declared) (h : (lines ls).Follows items) :
    (lines (l :: ls)).Follows (item :: items) := by
  have hline : (lines [l]).Follows [item] :=
    ⟨hbalanced, hrender, fun _ declared => (hdeclare declared).symm⟩
  exact hline.seq h

theorem Follows.cons_line {ls : List CodeLine} (h : (lines ls).Follows items) (l : CodeLine) :
    (lines (l :: ls)).Follows (.line l :: items) :=
  follows_lines_cons rfl (fun _ _ => rfl) (fun _ => rfl) h

theorem follows_lines (ls : List CodeLine) : (lines ls).Follows (ls.map .line) := by
  induction ls with
  | nil => exact follows_none
  | cons l ls ih => exact ih.cons_line l

theorem Follows.cons_hidden {ls : List CodeLine} (h : (lines ls).Follows items) {w : Write}
    {parts : List CodePart} (hparts : text parts = text (w.parts .define)) :
    (lines (⟨0, parts⟩ :: ls)).Follows (.write .hidden w :: items) := by
  refine follows_lines_cons rfl (fun indent _ => ?_) (fun _ => rfl) h
  show [String.ofList (List.replicate indent '\t') ++ text parts ++ "\n"] = _
  rw [hparts]
  rfl

theorem declaring_eq (name : String) (code : Bool → Lowering) (indent : Nat) (declared : Declared) :
    declaring name code indent declared = code (!declared.contains name) indent
      (if declared.contains name then declared else name :: declared) := by
  rw [declaring]
  cases declared.contains name <;> rfl

theorem follows_declaring {how : Writer} (hhow : how ≠ .hidden) {w : Write} {code : Bool → Lowering}
    {parts : Bool → List CodePart} {rest : Lowering}
    (hcode : ∀ isNew, code isNew = seq (line (parts isNew)) rest)
    (hparts : ∀ isNew, text (parts isNew) = text (w.parts (how.op isNew)))
    (hrest : rest.Follows items) : (declaring w.name code).Follows (.write how w :: items) where
  balanced := hrest.balanced
  render_eq indent declared := by
    rw [declaring_eq, hcode, ← Item.declare_write hhow]
    show (String.ofList (List.replicate indent '\t') ++ text (parts _) ++ "\n") ::
      (rest indent ((Item.write how w).declare declared)).1.map CodeLine.render = _
    rw [hparts, hrest.render_eq]
    rfl
  declared_eq indent declared := by
    rw [declaring_eq, hcode, ← Item.declare_write hhow]
    exact hrest.declared_eq indent ((Item.write how w).declare declared)

theorem seq_none (code : Lowering) : seq code none = code := by
  funext indent declared
  exact Prod.ext (List.append_nil _) rfl

theorem lines_append (xs ys : List CodeLine) : lines (xs ++ ys) = seq (lines xs) (lines ys) := by
  funext indent declared
  exact Prod.ext List.map_append rfl

theorem declaring_seq_lines (name : String) (ls : List CodeLine) (rest : Bool → Lowering) :
    (declaring name fun isNew => seq (lines ls) (rest isNew)) =
      seq (lines ls) (declaring name rest) := by
  funext indent declared
  show _ = ((lines ls indent declared).1 ++ (declaring name rest indent declared).1,
    (declaring name rest indent declared).2)
  rw [declaring_eq, declaring_eq]
  rfl

theorem follows_declaring_last {ls : List CodeLine} (h : (lines ls).Follows items) {w : Write}
    {parts : List CodePart} (hparts : text parts = text (w.parts .define)) :
    (declaring w.name fun _ => lines (ls ++ [⟨0, parts⟩])).Follows
    (items ++ [.write .fresh w]) := by
  have hlast : (declaring w.name fun _ => line parts).Follows [.write .fresh w] :=
    follows_declaring (by decide) (fun _ => (seq_none _).symm) (fun _ => hparts) follows_none
  simp only [lines_append, declaring_seq_lines]
  exact h.seq hlast

end Lowering

/-! The outlines of steps. -/

def plain (code : Lowering) : List (Item Writer) := (code 0 []).1.map .line

def needed (texts : List String) (items : List (Item Writer)) : List (Item Writer) :=
  if texts.any String.isEmpty then [] else items

def fetchOutline (ret : String) (s : Step) (method : String) : List (Item Writer) :=
  if (s.arg "output").isEmpty then plain (fetchCode ret s method)
  else needed [s.arg "source"] <| .write .tracked ⟨s.arg "output", ["err"], repoCall s method⟩ ::
    plain (guarded ret ["if err != nil"])

def assignOutline (s : Step) : List (Item Writer) :=
  if s.boolArg "declare" then needed [s.arg "to", s.arg "value"]
    [.write .tracked ⟨s.arg "to", [], [.given (s.arg "value")]⟩]
  else plain (assignCode s)

def filterOutline (s : Step) : List (Item Writer) :=
  let source := s.arg "from"
  let cond := s.arg "condition"
  let output := s.arg "output"
  let item := CodePart.givenOr (s.arg "as") "item"
  needed [source, cond, output] <|
    .write .fresh ⟨output, [], [.given source, "[:0]"]⟩ :: plain (.lines
      [⟨0, ["for _, ", item, " := range ", .given source, " \x7b"]⟩,
        ⟨1, ["if ", .given cond, " \x7b"]⟩,
        ⟨2, [.given output, " = append(", .given output, ", ", item, ")"]⟩,
        ⟨1, ["\x7d"]⟩,
        ⟨0, ["\x7d"]⟩])

def paginateOutline (s : Step) : List (Item Writer) :=
  let input := s.arg "input"
  let offset := s.arg "offset"
  let limit := s.arg "limit"
  let output := s.arg "output"
  let standard := (s.intArg? "defaultLimit").getD 50
  let capped (name : String) : CodeLine :=
    ⟨0, ["if ", name, " > len(", .given input, ") \x7b ", name, " = len(", .given input, ") \x7d"]⟩
  needed [input, offset, limit, output]
    [.write .hidden ⟨"_off", [], [.given offset]⟩,
      .line ⟨0, ["if _off < 0 \x7b _off = 0 \x7d"]⟩,
      .write .hidden ⟨"_lim", [], [.given limit]⟩,
      .line ⟨0, ["if _lim <= 0 \x7b _lim = ", .number standard, " \x7d"]⟩,
      .write .hidden ⟨"_start", [], ["_off"]⟩,
      .line (capped "_start"),
      .write .hidden ⟨"_end", [], ["_start + _lim"]⟩,
      .line (capped "_end"),
      .write .fresh ⟨output, [], [.given input, "[_start:_end]"]⟩]

def sortOutline (s : Step) : List (Item Writer) :=
  let input := s.arg "input"
  let output := s.arg "output"
  let key := s.arg "by"
  let cmp := if Text.sameLetters (s.arg "order") "desc" then " > " else " < "
  needed [input, output, key] <|
    .write .fresh ⟨output, [], ["append(", .given input, "[:0:0], ", .given input, "...)"]⟩ ::
      plain (.line ["sort.Slice(", .given output, ", func(i, j int) bool \x7b return ",
        .given output, "[i].", .given key, cmp, .given output, "[j].", .given key, " \x7d)"])

def normalizeOutline (s : Step) : List (Item Writer) :=
  let input := CodePart.given (s.arg "input")
  let value : List CodePart :=
    if Text.sameLetters (s.arg "mode") "trim" then ["strings.TrimSpace(", input, ")"]
    else ["strings.ToLower(strings.TrimSpace(", input, "))"]
  needed [s.arg "input", s.arg "output"] [.write .fresh ⟨s.arg "output", [], value⟩]

def ifElseOutline (cond : List CodePart) (yes no : List (List (Item Writer))) :
    List (Item Writer) :=
  .line ⟨0, "if " :: cond.concat " \x7b"⟩ :: block [] yes.flatten ++
    (if no.isEmpty then [] else .line ⟨0, ["\x7d else \x7b"]⟩ :: block [] no.flatten) ++
    [.line ⟨0, ["\x7d"]⟩]

def switchOutline (value : String) (cases : List (String × List (List (Item Writer))))
    (default : List (List (Item Writer))) : List (Item Writer) :=
  .line ⟨0, ["switch ", .given value, " \x7b"]⟩ ::
    (cases.flatMap fun b => .line ⟨0, ["case ", caseLabel b.1, ":"]⟩ :: block [] b.2.flatten) ++
    (if default.isEmpty then [] else .line ⟨0, ["default:"]⟩ :: block [] default.flatten) ++
    [.line ⟨0, ["\x7d"]⟩]

def eachOutline (s : Step) (body : List (List (Item Writer))) : List (Item Writer) :=
  let item := CodePart.givenOr (s.arg "as") "item"
  .line ⟨0, ["for _, ", item, " := range ", .given (s.arg "each"), " \x7b"]⟩ ::
    block [item.render] body.flatten ++ [.line ⟨0, ["\x7d"]⟩]

def stepOutline (ret : String) (s : Step) (branch : String → List (List (Item Writer)))
    (cases : List (String × List (List (Item Writer)))) : List (Item Writer) :=
  match Action.ofName? s.action with
  | none => []
  | some .check => plain (checkCode ret s)
  | some (.fetch method) => fetchOutline ret s method
  | some (.store method) => plain (storeCode ret s method)
  | some .assign => assignOutline s
  | some .conditional =>
    needed [s.arg "condition"] <|
      ifElseOutline [.given (s.arg "condition")] (branch Step.thenKey) (branch Step.elseKey)
  | some .upsert =>
    needed [s.arg "target"] <| ifElseOutline [.given (s.arg "target"), " == nil"]
      (branch Step.ifNewKey) (branch Step.ifExistsKey)
  | some .switch =>
    needed [s.arg "value"] <| switchOutline (s.arg "value") cases (branch Step.defaultKey)
  | some .each => needed [s.arg "each"] <| eachOutline s (branch Step.doKey)
  | some .block => (branch Step.doKey).flatten
  | some .filter => filterOutline s
  | some .paginate => paginateOutline s
  | some .append => plain (appendCode s)
  | some .sort => sortOutline s
  | some .normalize => normalizeOutline s
  | some .publish => plain (publishCode ret s)

def outlineStep (ret : String) : Step → List (Item Writer) := Step.fold (stepOutline ret)

def outline (flow : List Step) (hasOutput : Bool) : List (Item Writer) :=
  flow.flatMap (outlineStep (if hasOutput then "resp, " else ""))

/-! The code of each step follows its outline. -/

section

open Lowering

theorem follows_plain {code : Lowering} (h : ∃ ls, code = lines ls) :
    code.Follows (plain code) := by
  obtain ⟨ls, rfl⟩ := h
  have hplain : plain (lines ls) = ls.map .line := by
    simp [plain, lines]
  rw [hplain]
  exact follows_lines ls

theorem needing_lines (texts : List String) (ls : List CodeLine) :
    needing texts (lines ls) = lines (if texts.any String.isEmpty then [] else ls) := by
  unfold needing
  split <;> rfl


variable {ret : String} {s : Step}

/-! The lowering writes an operator, its blanks and what stands next to them as one word, the
outline as several. The text is the same. -/

@[simp] theorem text_cons (part : CodePart) (parts : List CodePart) :
    text (part :: parts) = part.render ++ text parts := String.join_cons

theorem text_words_append (x y : String) (parts : List CodePart) :
    text (.words (x ++ y) :: parts) = text (.words x :: .words y :: parts) := by
  rw [text_cons, text_cons, text_cons]
  exact String.append_assoc

theorem text_cons_congr {parts parts' : List CodePart} (h : text parts = text parts')
    (part : CodePart) : text (part :: parts) = text (part :: parts') := by
  rw [text_cons, text_cons, h]

theorem text_define (name : String) (value : List CodePart) :
    text (.given name :: .words " := " :: value) =
    text (Write.parts ⟨name, [], value⟩ .define) := by
  refine text_cons_congr (.trans (text_words_append " " ":= " value) ?_) _
  exact text_cons_congr (text_words_append ":=" " " value) _

theorem text_define_words {word more : String} (hword : word = " := " ++ more) (name : String)
    (value : List CodePart) : text (.given name :: .words word :: value) =
      text (Write.parts ⟨name, [], .words more :: value⟩ .define) := by
  rw [← text_define, hword]
  exact text_cons_congr (text_words_append _ _ _) _

theorem text_hidden {word name : String} (hword : word = name ++ " := ") (value : List CodePart) :
    text (.words word :: value) = text (Write.parts ⟨name, [], value⟩ .define) := by
  rw [← text_define, hword, text_words_append, text_cons, text_cons (.given name)]
  rfl

theorem text_hidden_words {word name more : String} (hword : word = name ++ " := " ++ more)
    (value : List CodePart) :
    text (.words word :: value) = text (Write.parts ⟨name, [], .words more :: value⟩ .define) := by
  rw [hword, text_words_append]
  exact text_hidden rfl _

theorem text_fetch (name : String) (op : Op) (value : List CodePart) :
    text (.given name :: .words ", err " :: .words op.text :: .words " " :: value) =
      text (Write.parts ⟨name, ["err"], value⟩ op) := by
  refine text_cons_congr (.trans (text_words_append ", " "err " _) ?_) _
  exact text_cons_congr (text_words_append "err" " " _) _

theorem follows_fetchCode (method : String) :
    (fetchCode ret s method).Follows (fetchOutline ret s method) := by
  unfold fetchOutline
  split
  next houtput =>
    refine follows_plain ?_
    rw [fetchCode, if_pos houtput]
    exact ⟨_, needing_lines _ _⟩
  next houtput =>
    rw [fetchCode, if_neg houtput]
    refine Follows.needing ?_ _
    refine follows_declaring (w := ⟨_, _, _⟩) (by decide) (fun _ => rfl) (fun isNew => ?_) ?_
    · cases isNew with
      | false => exact text_fetch _ .assign _
      | true => exact text_fetch _ .define _
    · exact follows_plain ⟨_, rfl⟩

theorem follows_assignCode : (assignCode s).Follows (assignOutline s) := by
  unfold assignOutline assignCode
  split
  · refine Follows.needing ?_ _
    refine follows_declaring (w := ⟨_, _, _⟩) (by decide) (fun _ => (seq_none _).symm)
      (fun isNew => ?_) follows_none
    cases isNew <;> exact congrArg text rfl
  · exact follows_plain ⟨_, needing_lines _ _⟩

theorem follows_filterCode : (filterCode s).Follows (filterOutline s) := by
  refine Follows.needing ?_ _
  exact follows_declaring (w := ⟨_, _, _⟩) (by decide) (fun _ => rfl) (fun _ => text_define _ _)
    (follows_plain ⟨_, rfl⟩)

theorem follows_sortCode : (sortCode s).Follows (sortOutline s) := by
  refine Follows.needing ?_ _
  exact follows_declaring (w := ⟨_, _, _⟩) (by decide) (fun _ => rfl)
    (fun _ => text_define_words (by decide) _ _) (follows_plain ⟨_, rfl⟩)

theorem follows_normalizeCode : (normalizeCode s).Follows (normalizeOutline s) := by
  refine Follows.needing ?_ _
  split
  · exact follows_declaring (w := ⟨_, _, _⟩) (by decide) (fun _ => (seq_none _).symm)
      (fun _ => text_define_words (by decide) _ _) follows_none
  · exact follows_declaring (w := ⟨_, _, _⟩) (by decide) (fun _ => (seq_none _).symm)
      (fun _ => text_define_words (by decide) _ _) follows_none

theorem follows_paginateCode : (paginateCode s).Follows (paginateOutline s) := by
  refine Follows.needing ?_ _
  show (declaring _ fun _ => lines ([_, _, _, _, _, _, _, _] ++ [_])).Follows
    ([_, _, _, _, _, _, _, _] ++ [_])
  refine follows_declaring_last ?_ (text_define _ _)
  refine .cons_hidden (.cons_line ?_ _) (text_hidden (by decide) _)
  refine .cons_hidden (.cons_line ?_ _) (text_hidden (by decide) _)
  refine .cons_hidden (.cons_line ?_ _) (text_hidden_words (by decide) _)
  exact .cons_hidden (.cons_line (follows_lines []) _) (text_hidden_words (by decide) _)

/-! Steps with branches. -/

theorem follows_line (parts : List CodePart) : (line parts).Follows [.line ⟨0, parts⟩] :=
  follows_lines [⟨0, parts⟩]

theorem follows_close : (all [line ["\x7d"]]).Follows [.line ⟨0, ["\x7d"]⟩] :=
  (follows_line _).seq follows_none

section

variable {header : List CodePart} {code : Lowering} {items : List (Item Writer)}

theorem follows_block (h : code.Follows items) (bound : List String) :
    (all [line header, nested code]).Follows (.line ⟨0, header⟩ :: block bound items) := by
  have hblock := (follows_line header).seq ((h.nested bound).seq follows_none)
  rw [List.append_nil] at hblock
  exact hblock

theorem follows_block_unless (h : code.Follows items) (isEmpty : Bool) :
    (all (if isEmpty then [] else [line header, nested code])).Follows
      (if isEmpty then [] else .line ⟨0, header⟩ :: block [] items) := by
  cases isEmpty with
  | true => exact follows_none
  | false => exact follows_block h []

end

section

variable {yes no : List (List (Item Writer))} {thenCode elseCode : Lowering}

theorem follows_ifElse (cond : List CodePart) (hthen : thenCode.Follows yes.flatten)
    (helse : elseCode.Follows no.flatten) :
    (ifElse cond thenCode no.isEmpty elseCode).Follows (ifElseOutline cond yes no) := by
  have hcode : ifElse cond thenCode no.isEmpty elseCode =
      all ([line ("if " :: cond.concat " \x7b"), nested thenCode] ++
        (if no.isEmpty then [] else [line ["\x7d else \x7b"], nested elseCode]) ++
        [line ["\x7d"]]) := by
    unfold ifElse
    cases no.isEmpty <;> rfl
  rw [hcode, all_append, all_append]
  exact ((follows_block hthen []).seq (follows_block_unless helse _)).seq follows_close

end

theorem follows_lowerSteps {steps : List Step}
    (h : ∀ t ∈ steps, (lowerStep ret t).Follows (outlineStep ret t)) :
    (lowerSteps ret steps).Follows (steps.map (outlineStep ret)).flatten := by
  induction steps with
  | nil =>
    rw [lowerSteps]
    exact follows_none
  | cons t steps ih =>
    rw [List.forall_mem_cons] at h
    rw [lowerSteps]
    exact h.1.seq (ih h.2)

theorem follows_switch (value : String) {cases : List (String × List Step)} {default : List Step}
    (hcases : ∀ b ∈ cases, ∀ t ∈ b.2, (lowerStep ret t).Follows (outlineStep ret t))
    (hdefault : ∀ t ∈ default, (lowerStep ret t).Follows (outlineStep ret t)) :
    (all ([line ["switch ", .given value, " \x7b"]] ++
      (cases.flatMap fun b => [line ["case ", caseLabel b.1, ":"], nested (lowerSteps ret b.2)]) ++
      (if default.isEmpty then [] else [line ["default:"], nested (lowerSteps ret default)]) ++
      [line ["\x7d"]])).Follows
    (switchOutline value (cases.map fun b => (b.1, b.2.map (outlineStep ret)))
      (default.map (outlineStep ret))) := by
  have hopen : (all [line ["switch ", .given value, " \x7b"]]).Follows
      [.line ⟨0, ["switch ", .given value, " \x7b"]⟩] := (follows_line _).seq follows_none
  have hlabelled : (all (cases.flatMap fun b =>
      [line ["case ", caseLabel b.1, ":"], nested (lowerSteps ret b.2)])).Follows
      (cases.flatMap fun b => .line ⟨0, ["case ", caseLabel b.1, ":"]⟩ ::
        block [] (b.2.map (outlineStep ret)).flatten) :=
    follows_all_flatMap fun b hb => follows_block (follows_lowerSteps (hcases b hb)) []
  have hdefault := follows_lowerSteps hdefault
  rw [switchOutline, List.flatMap_map, List.isEmpty_map, all_append, all_append, all_append]
  exact ((hopen.seq hlabelled).seq (follows_block_unless hdefault _)).seq follows_close

theorem follows_lowerStep (s : Step) : (lowerStep ret s).Follows (outlineStep ret s) := by
  induction s using Step.branches_induction with
  | step s hbranch hcase =>
    have hchoice : ∀ cond yes no,
        (ifElse cond (lowerSteps ret (s.branch yes)) (s.branch no).isEmpty
          (lowerSteps ret (s.branch no))).Follows
        (ifElseOutline cond ((s.branch yes).map (outlineStep ret))
          ((s.branch no).map (outlineStep ret))) := by
      intro cond yes no
      have h :=
        follows_ifElse cond (follows_lowerSteps (hbranch yes)) (follows_lowerSteps (hbranch no))
      rw [List.isEmpty_map] at h
      exact h
    rw [lowerStep_eq, outlineStep, Step.fold_eq, stepCode, stepOutline]
    simp only [codeAt_lowerArgs, isEmptyAt_lowerArgs, casesAt_lowerArgs, List.flatMap_map]
    cases Action.ofName? s.action with
    | none => exact follows_none
    | some action =>
      cases action with
      | check => exact follows_plain ⟨_, needing_lines _ _⟩
      | fetch method => exact follows_fetchCode method
      | store method => exact follows_plain ⟨_, needing_lines _ _⟩
      | assign => exact follows_assignCode
      | conditional => exact (hchoice _ _ _).needing _
      | upsert => exact (hchoice _ _ _).needing _
      | switch => exact (follows_switch _ hcase (hbranch _)).needing _
      | each =>
        refine Follows.needing ?_ _
        show (all ([_, _] ++ [_])).Follows _
        rw [all_append]
        exact (follows_block (follows_lowerSteps (hbranch Step.doKey)) _).seq follows_close
      | block => exact follows_lowerSteps (hbranch _)
      | filter => exact follows_filterCode
      | paginate => exact follows_paginateCode
      | append => exact follows_plain ⟨_, needing_lines _ _⟩
      | sort => exact follows_sortCode
      | normalize => exact follows_normalizeCode
      | publish => exact follows_plain ⟨_, needing_lines _ _⟩

end

theorem follows_outline (flow : List Step) (hasOutput : Bool) :
    (lowerSteps (if hasOutput then "resp, " else "") flow).Follows (outline flow hasOutput) :=
  follows_lowerSteps fun t _ => follows_lowerStep t

theorem balanced_outline (flow : List Step) (hasOutput : Bool) :
    Balanced (outline flow hasOutput) :=
  (follows_outline flow hasOutput).balanced

/-- The outline with its operators is the text of the flow's code. -/
theorem render_eq_printed (flow : List Step) (hasOutput : Bool) : render flow hasOutput =
    String.join ((printed 0 (resolve ["resp", "err"] (outline flow hasOutput))).map
      CodeLine.render) := by
  rw [render, code, (follows_outline flow hasOutput).render_eq]

end GoScaffold.Flow
