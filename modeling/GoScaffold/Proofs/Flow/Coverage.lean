import GoScaffold.Proofs.Flow.Layout
import GoScaffold.Proofs.Flow.Normalization
import Mathlib.Data.List.Perm.Basic

/-! Which steps of a flow its code holds. The queries reach the branches of a step under every key,
but each action has its own keys under which its code looks for branches, and steps under any other
key are left out. So a flow that can be rendered is rendered as a whole exactly when all its steps
stand where the actions above them look. -/

namespace GoScaffold.Flow

/-! The steps below a step, under all keys or under those that its code reads. -/

def slotKeys : List String := Step.branchKeys ++ [Step.casesKey]

/-- The keys under which the code of the step looks for branches. -/
def readKeys (s : Step) : List String := ((Action.ofName? s.action).map Action.slots).getD []

def stepsUnder (s : Step) (key : String) : List Step :=
  if key = Step.casesKey then (s.cases?.getD []).flatMap Prod.snd else s.branch key

/-- A step and the steps below it, at every depth, under the keys that count for each step. -/
def gather (keys : Step → List String) : Step → List Step :=
  Step.fold fun s branch cases =>
    s :: ((keys s).flatMap fun key =>
      if key = Step.casesKey then cases.flatMap Prod.snd else branch key).flatten

def reached : Step → List Step := gather fun _ => slotKeys

def lowered : Step → List Step := gather readKeys

/-- All steps below the step stand where its code looks for them. -/
def IsPlaced (s : Step) : Prop := ∀ key ∈ slotKeys, stepsUnder s key ≠ [] → key ∈ readKeys s

instance (s : Step) : Decidable (IsPlaced s) :=
  inferInstanceAs (Decidable (∀ key ∈ slotKeys, stepsUnder s key ≠ [] → key ∈ readKeys s))

def taken (s : Step) : List Step := (readKeys s).flatMap (stepsUnder s)

def ignored (s : Step) : List Step := (slotKeys.filter (· ∉ readKeys s)).flatMap (stepsUnder s)

section

variable {s t : Step}

theorem stepsUnder_branch {key : String} (hkey : key ∈ Step.branchKeys) :
    stepsUnder s key = s.branch key := by
  refine if_neg ?_
  rintro rfl
  exact absurd hkey (by decide)

theorem stepsUnder_cases : stepsUnder s Step.casesKey = (s.cases?.getD []).flatMap Prod.snd :=
  if_pos rfl

theorem gather_eq (keys : Step → List String) (s : Step) :
    gather keys s = s :: ((keys s).flatMap (stepsUnder s)).flatMap (gather keys) := by
  refine (Step.fold_eq _ s).trans (congrArg (List.cons s) ?_)
  rw [List.flatMap_def (f := gather keys), List.map_flatMap]
  congr 1
  refine List.flatMap_congr fun key _ => ?_
  unfold stepsUnder
  split
  · rw [List.flatMap_map, List.map_flatMap]
    rfl
  · rfl

theorem flatMap_stepsUnder_slotKeys (s : Step) :
    slotKeys.flatMap (stepsUnder s) = s.children.flatten := by
  have hbranches : Step.branchKeys.flatMap (stepsUnder s) = Step.branchKeys.flatMap s.branch :=
    List.flatMap_congr fun key hkey => stepsUnder_branch hkey
  rw [Step.children, List.flatten_filter_not_isEmpty, List.flatten_append, slotKeys,
    List.flatMap_append, hbranches, List.flatMap_singleton, stepsUnder_cases, List.flatMap_def,
    List.flatMap_def]

theorem reached_eq (s : Step) : reached s = s :: s.children.flatten.flatMap reached := by
  rw [← flatMap_stepsUnder_slotKeys]
  exact gather_eq _ s

theorem lowered_eq (s : Step) : lowered s = s :: (taken s).flatMap lowered := gather_eq _ s

theorem slots_perm (action : Action) : action.slots.Perm (slotKeys.filter (· ∈ action.slots)) := by
  cases action with
  -- the queries look at the labelled branches last, and the code writes its default last
  | switch => exact .swap _ _ []
  | _ => exact .refl _

theorem readKeys_perm (s : Step) : (readKeys s).Perm (slotKeys.filter (· ∈ readKeys s)) := by
  unfold readKeys
  cases Action.ofName? s.action with
  | none => exact .refl _
  | some action => exact slots_perm action

theorem children_perm (s : Step) : s.children.flatten.Perm (taken s ++ ignored s) := by
  have hkeys : (readKeys s ++ slotKeys.filter (· ∉ readKeys s)).Perm slotKeys := by
    refine ((readKeys_perm s).append_right _).trans ?_
    simpa using List.filter_append_perm (· ∈ readKeys s) slotKeys
  rw [← flatMap_stepsUnder_slotKeys, taken, ignored, ← List.flatMap_append]
  exact .flatMap_right _ hkeys.symm

theorem reached_perm (s : Step) :
    (reached s).Perm (s :: ((taken s).flatMap reached ++ (ignored s).flatMap reached)) := by
  rw [reached_eq, ← List.flatMap_append]
  exact .cons s (.flatMap_right _ (children_perm s))

theorem isPlaced_iff : IsPlaced s ↔ ignored s = [] := by
  simp only [IsPlaced, ignored, List.flatMap_eq_nil_iff, List.mem_filter,
    decide_eq_true_eq, and_imp]
  exact forall₂_congr fun key _ => not_imp_comm

theorem mem_reached_self (s : Step) : s ∈ reached s := by
  rw [reached_eq]
  exact List.mem_cons_self

theorem mem_reached_of_taken {u : Step} (ht : t ∈ taken s) (hu : u ∈ reached t) :
    u ∈ reached s := by
  refine (reached_perm s).mem_iff.2 (List.mem_cons_of_mem _ (List.mem_append_left _ ?_))
  exact List.mem_flatMap.2 ⟨t, ht, hu⟩

theorem mem_branch_of_mem_stepsUnder {key : String} (ht : t ∈ stepsUnder s key) :
    t ∈ s.branch key ∨ ∃ b ∈ s.cases?.getD [], t ∈ b.2 := by
  unfold stepsUnder at ht
  split at ht
  · exact .inr (List.mem_flatMap.1 ht)
  · exact .inl ht

theorem stepsUnder_induction {motive : Step → Prop}
    (step : ∀ s, (∀ key, ∀ t ∈ stepsUnder s key, motive t) → motive s) (s : Step) : motive s := by
  induction s using Step.branches_induction with
  | step s hbranch hcase =>
    refine step s fun key t ht => ?_
    rcases mem_branch_of_mem_stepsUnder ht with ht | ⟨b, hb, ht⟩
    · exact hbranch key t ht
    · exact hcase b hb t ht

theorem mem_reached_trans {u : Step} (ht : t ∈ reached s) (hu : u ∈ reached t) : u ∈ reached s := by
  induction s using stepsUnder_induction with
  | step s ih =>
    rw [reached_eq, ← flatMap_stepsUnder_slotKeys, List.mem_cons] at ht
    rcases ht with rfl | ht
    · exact hu
    · obtain ⟨child, hchild, ht⟩ := List.mem_flatMap.1 ht
      obtain ⟨key, -, hunder⟩ := List.mem_flatMap.1 hchild
      rw [reached_eq, ← flatMap_stepsUnder_slotKeys]
      exact List.mem_cons_of_mem _ (List.mem_flatMap.2 ⟨child, hchild, ih key child hunder ht⟩)

theorem taken_induction {motive : Step → Prop} (step : ∀ s, (∀ t ∈ taken s, motive t) → motive s)
    (s : Step) : motive s := by
  induction s using stepsUnder_induction with
  | step s ih =>
    refine step s fun t ht => ?_
    obtain ⟨key, -, ht⟩ := List.mem_flatMap.1 ht
    exact ih key t ht

theorem visited_eq_reached (s : Step) : s.visited = reached s := by
  induction s using stepsUnder_induction with
  | step s ih =>
    have hbelow : s.children.flatten.flatMap Step.visited = s.children.flatten.flatMap reached := by
      rw [← flatMap_stepsUnder_slotKeys]
      refine List.flatMap_congr fun t ht => ?_
      obtain ⟨key, -, ht⟩ := List.mem_flatMap.1 ht
      exact ih key t ht
    rw [reached_eq, ← hbelow, Step.visited_eq, List.flatten_eq_flatMap, List.flatMap_assoc]
    rfl

theorem lowered_subset_reached (s : Step) : lowered s ⊆ reached s := by
  induction s using taken_induction with
  | step s ih =>
    intro u hu
    rw [lowered_eq, List.mem_cons] at hu
    rcases hu with rfl | hu
    · exact mem_reached_self u
    · obtain ⟨t, ht, hu⟩ := List.mem_flatMap.1 hu
      exact mem_reached_of_taken ht (ih t ht hu)

/-- Where every step is placed, the code takes in what the queries reach. -/
theorem lowered_perm_reached (h : ∀ t ∈ reached s, IsPlaced t) : (lowered s).Perm (reached s) := by
  induction s using taken_induction with
  | step s ih =>
    have htaken : ((taken s).flatMap lowered).Perm ((taken s).flatMap reached) :=
      .flatMap_left _ fun t ht => ih t ht fun u hu => h u (mem_reached_of_taken ht hu)
    have hreached := reached_perm s
    rw [isPlaced_iff.1 (h s (mem_reached_self s)), List.flatMap_nil, List.append_nil] at hreached
    rw [lowered_eq]
    exact (htaken.cons s).trans hreached.symm

/-- The code takes in no more steps than the queries reach, and as many only if all are placed. -/
def FallsShort (few many : List Step) : Prop :=
  few.length ≤ many.length ∧ (few.length = many.length → ∀ t ∈ many, IsPlaced t)

theorem fallsShort_flatMap {steps : List Step}
    (h : ∀ t ∈ steps, FallsShort (lowered t) (reached t)) :
    FallsShort (steps.flatMap lowered) (steps.flatMap reached) := by
  induction steps with
  | nil => exact ⟨Nat.le_refl _, fun _ t ht => absurd ht List.not_mem_nil⟩
  | cons t steps ih =>
    rw [List.forall_mem_cons] at h
    obtain ⟨hle, hall⟩ := ih h.2
    obtain ⟨htle, htall⟩ := h.1
    unfold FallsShort
    rw [List.flatMap_cons, List.flatMap_cons, List.length_append, List.length_append]
    refine ⟨Nat.add_le_add htle hle, fun heq => List.forall_mem_append.2 ⟨?_, ?_⟩⟩
    · exact htall (by omega)
    · exact hall (by omega)

theorem fallsShort_lowered (s : Step) : FallsShort (lowered s) (reached s) := by
  induction s using taken_induction with
  | step s ih =>
    obtain ⟨hle, hall⟩ := fallsShort_flatMap ih
    have hreached := reached_perm s
    have hlength := hreached.length_eq
    rw [List.length_cons, List.length_append] at hlength
    unfold FallsShort
    rw [lowered_eq, List.length_cons, hlength]
    refine ⟨by omega, fun heq t ht => ?_⟩
    -- what is reached through the steps left out would have to be empty, and a step reaches itself
    have hnone : (ignored s).flatMap reached = [] := List.eq_nil_of_length_eq_zero (by omega)
    have hignored : ignored s = [] := by
      refine List.eq_nil_iff_forall_not_mem.2 fun u hu => ?_
      exact List.ne_nil_of_mem (mem_reached_self u) (List.flatMap_eq_nil_iff.1 hnone u hu)
    rw [hreached.mem_iff, hnone, List.append_nil, List.mem_cons] at ht
    rcases ht with rfl | ht
    · exact isPlaced_iff.2 hignored
    · exact hall (by omega) t ht

theorem lowered_perm_reached_iff {flow : List Step} :
    (flow.flatMap lowered).Perm (flow.flatMap reached) ↔
    ∀ s ∈ flow.flatMap reached, IsPlaced s := by
  constructor
  · intro hperm
    exact (fallsShort_flatMap fun t _ => fallsShort_lowered t).2 hperm.length_eq
  · intro h
    refine .flatMap_left _ fun t ht => lowered_perm_reached fun u hu => h u ?_
    exact List.mem_flatMap.2 ⟨t, ht, hu⟩

end

theorem steps_pieces (ret : String) (s : Step) : (pieces ret s).flatMap Piece.steps = taken s := by
  rw [pieces, layout, taken, readKeys]
  cases Action.ofName? s.action with
  | none => rfl
  | some action =>
    simp only [Option.map_some, Option.getD_some]
    cases action with
    | conditional =>
      simp (disch := decide) only [steps_choiceLayout, Action.slots, List.flatMap_cons,
        List.flatMap_nil, List.append_nil, stepsUnder_branch]
    | upsert =>
      simp (disch := decide) only [steps_choiceLayout, Action.slots, List.flatMap_cons,
        List.flatMap_nil, List.append_nil, stepsUnder_branch]
    | switch =>
      simp (disch := decide) only [Action.slots, List.flatMap_append, steps_labelledBranch,
        steps_optionalBranch, stepsUnder_cases, stepsUnder_branch, List.flatMap_cons,
        List.flatMap_nil, List.append_nil, List.nil_append, Piece.steps, closing]
    | each =>
      simp (disch := decide) only [Action.slots, List.flatMap_append, stepsUnder_branch,
        List.flatMap_cons, List.flatMap_nil, List.append_nil, List.nil_append, Piece.steps, closing]
    | block =>
      simp (disch := decide) only [Action.slots, stepsUnder_branch, List.flatMap_cons,
        List.flatMap_nil, List.append_nil, Piece.steps]
    | check | fetch _ | store _ | assign | filter | paginate | append | sort | normalize
    | publish => rfl

/-! The code with the place of each step in it. -/

/-- A passage of a flow's code: a line, or the code of a step with the passages in it. -/
inductive Passage where
  | line (l : CodeLine)
  | step (s : Step) (inside : List Passage)

mutual

def Passage.lines : Passage → List CodeLine
  | .line l => [l]
  | .step _ inside => linesOf inside

def linesOf : List Passage → List CodeLine
  | [] => []
  | p :: rest => p.lines ++ linesOf rest

end

mutual

def Passage.steps : Passage → List (Step × List Passage)
  | .line _ => []
  | .step s inside => (s, inside) :: stepsOf inside

def stepsOf : List Passage → List (Step × List Passage)
  | [] => []
  | p :: rest => p.steps ++ stepsOf rest

end

theorem linesOf_append (a b : List Passage) : linesOf (a ++ b) = linesOf a ++ linesOf b := by
  induction a with
  | nil => rfl
  | cons p a ih => rw [List.cons_append, linesOf, linesOf, ih, List.append_assoc]

theorem stepsOf_append (a b : List Passage) : stepsOf (a ++ b) = stepsOf a ++ stepsOf b := by
  induction a with
  | nil => rfl
  | cons p a ih => rw [List.cons_append, stepsOf, stepsOf, ih, List.append_assoc]

theorem linesOf_map_line (ls : List CodeLine) : linesOf (ls.map .line) = ls := by
  induction ls with
  | nil => rfl
  | cons l ls ih => exact congrArg (List.cons l) ih

theorem stepsOf_map_line (ls : List CodeLine) : stepsOf (ls.map .line) = [] := by
  induction ls with
  | nil => rfl
  | cons l ls ih => exact ih

abbrev Passages := (indent : Nat) → Declared → List Passage × Declared

namespace Passages

def ofCode (code : Lowering) : Passages := fun indent declared =>
  ((code indent declared).1.map .line, (code indent declared).2)

def none : Passages := fun _ declared => ([], declared)

def seq (a b : Passages) : Passages := fun indent declared =>
  let (first, declared) := a indent declared
  let (second, declared) := b indent declared
  (first ++ second, declared)

def all (parts : List Passages) : Passages := parts.foldr seq none

def ofPiece : Piece Passages → Passages
  | .own code => ofCode code
  | .inline steps => all steps
  | .deeper steps => fun indent => all steps (indent + 1)

def ofStep (s : Step) (inside : Passages) : Passages := fun indent declared =>
  ([.step s (inside indent declared).1], (inside indent declared).2)

end Passages

def passagesOf (ret : String) : Step → Passages :=
  Step.fold fun s branch cases => .ofStep s (.all ((layout ret s branch cases).map .ofPiece))

def insideOf (ret : String) (s : Step) : Passages :=
  .all ((pieces ret s).map fun p => .ofPiece (p.map (passagesOf ret)))

theorem passagesOf_eq (ret : String) (s : Step) :
    passagesOf ret s = .ofStep s (insideOf ret s) := by
  refine (Step.fold_eq _ s).trans ?_
  rw [layout_map, List.map_map]
  rfl

def passages (flow : List Step) (hasOutput : Bool) : List Passage :=
  (Passages.all (flow.map (passagesOf (if hasOutput then "resp, " else ""))) 0 ["resp", "err"]).1

/-- The passages are the code, and the steps in them are these, each with what its code holds. -/
structure Shows (ret : String) (p : Passages) (code : Lowering) (steps : List Step) : Prop where
  lines_eq (indent : Nat) (declared : Declared) :
    linesOf (p indent declared).1 = (code indent declared).1
  declared_eq (indent : Nat) (declared : Declared) : (p indent declared).2 =
  (code indent declared).2
  steps_eq (indent : Nat) (declared : Declared) :
    (stepsOf (p indent declared).1).map Prod.fst = steps
  inside_eq (indent : Nat) (declared : Declared) : ∀ node ∈ stepsOf (p indent declared).1,
    ∃ indent declared, node.2 = (insideOf ret node.1 indent declared).1

section

variable {ret : String} {p q : Passages} {a b code : Lowering} {xs ys steps : List Step}

theorem shows_none : Shows ret .none .none [] :=
  ⟨fun _ _ => rfl, fun _ _ => rfl, fun _ _ => rfl, fun _ _ _ h => absurd h List.not_mem_nil⟩

theorem shows_ofCode (code : Lowering) : Shows ret (.ofCode code) code [] where
  lines_eq indent declared := linesOf_map_line _
  declared_eq indent declared := rfl
  steps_eq indent declared := congrArg (List.map Prod.fst) (stepsOf_map_line _)
  inside_eq indent declared node hnode := by
    rw [Passages.ofCode, stepsOf_map_line] at hnode
    exact absurd hnode List.not_mem_nil

theorem Shows.seq (hp : Shows ret p a xs) (hq : Shows ret q b ys) :
    Shows ret (p.seq q) (.seq a b) (xs ++ ys) where
  lines_eq indent declared := by
    refine (linesOf_append _ _).trans ?_
    rw [hp.lines_eq, hq.lines_eq, hp.declared_eq]
    rfl
  declared_eq indent declared := by
    refine (hq.declared_eq _ _).trans ?_
    rw [hp.declared_eq]
    rfl
  steps_eq indent declared := by
    refine (congrArg _ (stepsOf_append _ _)).trans ?_
    rw [List.map_append, hp.steps_eq, hq.steps_eq]
  inside_eq indent declared := by
    refine (stepsOf_append _ _).symm ▸ List.forall_mem_append.2 ⟨?_, ?_⟩
    · exact hp.inside_eq _ _
    · exact hq.inside_eq _ _

theorem shows_all {α : Type} {as : List α} {ps : α → Passages} {codes : α → Lowering}
    {below : α → List Step} (h : ∀ a ∈ as, Shows ret (ps a) (codes a) (below a)) :
    Shows ret (.all (as.map ps)) (.all (as.map codes)) (as.flatMap below) := by
  induction as with
  | nil => exact shows_none
  | cons a as ih =>
    rw [List.forall_mem_cons] at h
    exact h.1.seq (ih h.2)

theorem Shows.nested (h : Shows ret p code steps) :
    Shows ret (fun indent => p (indent + 1)) (.nested code) steps where
  lines_eq indent := h.lines_eq (indent + 1)
  declared_eq indent := h.declared_eq (indent + 1)
  steps_eq indent := h.steps_eq (indent + 1)
  inside_eq indent := h.inside_eq (indent + 1)

theorem Shows.ofStep {s : Step} (h : Shows ret (insideOf ret s) code steps) :
    Shows ret (.ofStep s (insideOf ret s)) code (s :: steps) where
  lines_eq indent declared := (List.append_nil _).trans (h.lines_eq indent declared)
  declared_eq := h.declared_eq
  steps_eq indent declared := by
    show s :: (stepsOf _ ++ []).map Prod.fst = _
    rw [List.append_nil, h.steps_eq]
  inside_eq indent declared := by
    show ∀ node ∈ (s, (insideOf ret s indent declared).1) :: (stepsOf _ ++ []), _
    rw [List.append_nil, List.forall_mem_cons]
    exact ⟨⟨indent, declared, rfl⟩, h.inside_eq indent declared⟩

theorem shows_steps (h : ∀ t ∈ steps, Shows ret (passagesOf ret t) (lowerStep ret t) (lowered t)) :
    Shows ret (.all (steps.map (passagesOf ret))) (lowerSteps ret steps)
    (steps.flatMap lowered) := by
  rw [lowerSteps_eq_all]
  exact shows_all h

theorem shows_piece {piece : Piece Step}
    (h : ∀ t ∈ piece.steps, Shows ret (passagesOf ret t) (lowerStep ret t) (lowered t)) :
    Shows ret (.ofPiece (piece.map (passagesOf ret))) (piece.code ret)
    (piece.steps.flatMap lowered) := by
  cases piece with
  | own code => exact shows_ofCode code
  | inline steps => exact shows_steps h
  | deeper steps => exact (shows_steps h).nested

theorem shows_inside {s : Step} (h : IsComplete s)
    (hbelow : ∀ t ∈ taken s, Shows ret (passagesOf ret t) (lowerStep ret t) (lowered t)) :
    Shows ret (insideOf ret s) (lowerStep ret s) ((taken s).flatMap lowered) := by
  rw [lowerStep_eq_all h, ← steps_pieces ret s, List.flatMap_assoc]
  refine shows_all fun piece hpiece => shows_piece fun t ht => hbelow t ?_
  exact steps_pieces ret s ▸ List.mem_flatMap.2 ⟨piece, hpiece, ht⟩

/-- The passages of a step whose arguments are in place, at every depth, are its code. -/
theorem shows_step {s : Step} (h : ∀ t ∈ reached s, IsComplete t) :
    Shows ret (passagesOf ret s) (lowerStep ret s) (lowered s) := by
  induction s using taken_induction with
  | step s ih =>
    have hbelow : ∀ t ∈ taken s, Shows ret (passagesOf ret t) (lowerStep ret t) (lowered t) :=
      fun t ht => ih t ht fun u hu => h u (mem_reached_of_taken ht hu)
    rw [passagesOf_eq, lowered_eq]
    exact (shows_inside (h s (mem_reached_self s)) hbelow).ofStep

theorem linesOf_insideOf {s : Step} (h : ∀ t ∈ reached s, IsComplete t) (indent : Nat)
    (declared : Declared) : linesOf (insideOf ret s indent declared).1 =
    (lowerStep ret s indent declared).1 := by
  have hlines : linesOf (passagesOf ret s indent declared).1 = _ :=
    (shows_step h).lines_eq indent declared
  rw [passagesOf_eq] at hlines
  exact (List.append_nil _).symm.trans hlines

end

/-! A step leaves lines of its own in the code. -/

def HasLine (code : Lowering) : Prop := ∀ indent declared, (code indent declared).1 ≠ []

section

open Lowering

theorem hasLine_lines (l : CodeLine) (ls : List CodeLine) : HasLine (lines (l :: ls)) :=
  fun _ _ => List.cons_ne_nil _ _

theorem HasLine.seq {a : Lowering} (h : HasLine a) (b : Lowering) : HasLine (seq a b) :=
  fun indent declared => List.append_ne_nil_of_left_ne_nil (h indent declared) _

theorem hasLine_declaring {code : Bool → Lowering} (h : ∀ isNew, HasLine (code isNew))
    (name : String) :
    HasLine (declaring name code) := by
  intro indent declared
  rw [declaring_eq]
  exact h _ _ _

variable {ret : String} {s : Step} {action : Action}

theorem hasLine_stepCode (haction : Action.ofName? s.action = some action) (h : IsComplete s)
    (hslots : action.slots = []) : HasLine (stepCode ret s []) := by
  have hneeded : ∀ {code : Lowering}, HasLine code →
      HasLine (needing (action.required.map s.arg) code) := by
    intro code hcode
    rw [needing_required haction h]
    exact hcode
  unfold stepCode
  simp only [haction]
  cases action with
  | check => exact hneeded (hasLine_lines _ _)
  | fetch method =>
    refine hneeded ?_
    split
    · exact hasLine_lines _ _
    · exact hasLine_declaring (fun _ => (hasLine_lines _ _).seq _) _
  | store method => exact hneeded (hasLine_lines _ _)
  | assign =>
    refine hneeded ?_
    split
    · exact hasLine_declaring (fun _ => hasLine_lines _ _) _
    · exact hasLine_lines _ _
  | filter => exact hneeded (hasLine_declaring (fun _ => hasLine_lines _ _) _)
  | paginate => exact hneeded (hasLine_declaring (fun _ => hasLine_lines _ _) _)
  | append => exact hneeded (hasLine_lines _ _)
  | sort => exact hneeded (hasLine_declaring (fun _ => hasLine_lines _ _) _)
  | normalize =>
    refine hneeded (hasLine_declaring (fun _ => ?_) _)
    split <;> exact hasLine_lines _ _
  | publish => exact hneeded (hasLine_lines _ _)
  | conditional | upsert | switch | each | block => cases hslots

/-- The code of every step but a block begins with a line of the step's own. -/
theorem exists_own_piece (ret : String) (haction : Action.ofName? s.action = some action)
    (h : IsComplete s)
    (hblock : action ≠ .block) : ∃ code rest, pieces ret s = .own code :: rest ∧ HasLine code := by
  by_cases hslots : action.slots = []
  · refine ⟨stepCode ret s [], [], ?_, hasLine_stepCode haction h hslots⟩
    rw [pieces, layout, haction]
    cases action with
    | conditional | upsert | switch | each | block => cases hslots
    | _ => rfl
  · rw [pieces, layout, haction]
    cases action with
    | conditional => exact ⟨_, _, rfl, hasLine_lines _ _⟩
    | upsert => exact ⟨_, _, rfl, hasLine_lines _ _⟩
    | switch => exact ⟨_, _, rfl, hasLine_lines _ _⟩
    | each => exact ⟨_, _, rfl, hasLine_lines _ _⟩
    | block => exact absurd rfl hblock
    | _ => exact absurd rfl hslots

theorem exists_line_insideOf (haction : Action.ofName? s.action = some action) (h : IsComplete s)
    (hblock : action ≠ .block) (indent : Nat) (declared : Declared) :
    ∃ l, Passage.line l ∈ (insideOf ret s indent declared).1 := by
  obtain ⟨code, rest, hpieces, hcode⟩ := exists_own_piece ret haction h hblock
  obtain ⟨l, ls, hlines⟩ := List.exists_cons_of_ne_nil (hcode indent declared)
  rw [insideOf, hpieces]
  refine ⟨l, List.mem_append_left _ ?_⟩
  show Passage.line l ∈ (code indent declared).1.map .line
  rw [hlines]
  exact List.mem_cons_self

end

/-! The flow as a whole. -/

/-- The code holds the code of every step that the queries reach, as often as they reach it. -/
def Covers (flow : List Step) (hasOutput : Bool) : Prop :=
  ((stepsOf (passages flow hasOutput)).map Prod.fst).Perm (flow.flatMap reached)

theorem exists_action_of_renderable {flow : List Step} (h : renderable flow = true) {s : Step}
    (hs : s ∈ flow.flatMap reached) : ∃ action, Action.ofName? s.action = some action := by
  have hmem : s ∈ visited flow := by rwa [visited, funext visited_eq_reached]
  exact Option.isSome_iff_exists.1 (List.all_eq_true.1 h s hmem)

/-- The passages of a flow that can be rendered, with all arguments in place, are its code. The code
of a step in it is the code of the step, and it has a line of its own unless the step is a block. No
step that the queries reach is left out exactly when all steps stand where the actions above them
look. -/
theorem covers_iff (flow : List Step) (hasOutput : Bool) (hrenderable : renderable flow = true)
    (hcomplete : ∀ s ∈ flow.flatMap reached, IsComplete s) :
    linesOf (passages flow hasOutput) = code flow hasOutput ∧
    (∀ node ∈ stepsOf (passages flow hasOutput),
      (∃ indent declared, linesOf node.2 =
        (lowerStep (if hasOutput then "resp, " else "") node.1 indent declared).1) ∧
      (Action.ofName? node.1.action ≠ some .block → ∃ l, Passage.line l ∈ node.2)) ∧
    (Covers flow hasOutput ↔ ∀ s ∈ flow.flatMap reached, IsPlaced s) := by
  have hreached : ∀ t ∈ flow, ∀ u ∈ reached t, u ∈ flow.flatMap reached :=
    fun t ht u hu => List.mem_flatMap.2 ⟨t, ht, hu⟩
  have hshows : Shows (if hasOutput then "resp, " else "") _ (lowerSteps _ flow)
      (flow.flatMap lowered) :=
    shows_steps fun t ht => shows_step fun u hu => hcomplete u (hreached t ht u hu)
  have hsteps : (stepsOf (passages flow hasOutput)).map Prod.fst = flow.flatMap lowered :=
    hshows.steps_eq _ _
  refine ⟨hshows.lines_eq _ _, fun node hnode => ?_, ?_⟩
  · obtain ⟨t, ht, hlowered⟩ := List.mem_flatMap.1 (hsteps ▸ List.mem_map_of_mem hnode)
    have hnode' := lowered_subset_reached t hlowered
    obtain ⟨action, haction⟩ := exists_action_of_renderable hrenderable (hreached t ht _ hnode')
    obtain ⟨indent, declared, hinside⟩ := hshows.inside_eq _ _ node hnode
    rw [hinside, haction]
    refine ⟨⟨indent, declared, linesOf_insideOf (fun u hu => ?_) indent declared⟩, fun hblock => ?_⟩
    · exact hcomplete u (hreached t ht u (mem_reached_trans hnode' hu))
    · exact exists_line_insideOf haction (hcomplete _ (hreached t ht _ hnode'))
        (fun h => hblock (congrArg some h)) indent declared
  · rw [Covers, hsteps]
    exact lowered_perm_reached_iff

def saveOrTell : List FlowStep :=
  [{ action := "flow.If"
     args := [("condition", .str "order.Valid")]
     thenSteps := [{ action := "tx.Block", steps :=
      [{ action := "repo.Save", args := [("input", .str "order"), ("source", .str "Order")] }] }]
     elseSteps :=
      [{ action := "switch"
         args := [("value", .str "order.Kind")]
         cases := [("draft", []),
          ("void", [{ action := "event.Publish", args := [("event", .str "OrderVoid")] }])]
         defaultSteps :=
          [{ action := "mapping.Assign", args := [("to", .str "resp.Kept"),
            ("value", .str "false")] }] }] }]

theorem covers_saveOrTell : renderable (normalizeSteps saveOrTell) = true ∧
    (∀ s ∈ (normalizeSteps saveOrTell).flatMap reached, IsComplete s) ∧
    Covers (normalizeSteps saveOrTell) true := by
  have hrenderable : renderable (normalizeSteps saveOrTell) = true := by decide +kernel
  have hcomplete : ∀ s ∈ (normalizeSteps saveOrTell).flatMap reached, IsComplete s := by
    decide +kernel
  exact ⟨hrenderable, hcomplete, (covers_iff _ true hrenderable hcomplete).2.2.2
    (by decide +kernel)⟩

/-- Publishes an event on a condition. The steps of the choice stand under the key that blocks and
loops have for theirs. -/
def notifyIf : List FlowStep :=
  [{ action := "flow.If"
     args := [("condition", .str "req.Notify")]
     steps := [{ action := "event.Publish", args := [("event", .str "OrderPlaced")] }] }]

/-- The flow can be rendered and has all arguments, but its code publishes nothing. -/
theorem not_covers_notifyIf : renderable (normalizeSteps notifyIf) = true ∧
    (∀ s ∈ (normalizeSteps notifyIf).flatMap reached, IsComplete s) ∧
    publishesEvents (normalizeSteps notifyIf) = true ∧
    render (normalizeSteps notifyIf) false = "if req.Notify \x7b\n\x7d\n" ∧
    ¬Covers (normalizeSteps notifyIf) false := by
  refine ⟨by decide +kernel, by decide +kernel, by decide +kernel, by decide +kernel, fun h => ?_⟩
  have hlength : (stepsOf (passages (normalizeSteps notifyIf) false)).length =
      ((normalizeSteps notifyIf).flatMap reached).length := by
    rw [← h.length_eq, List.length_map]
  revert hlength
  decide +kernel

end GoScaffold.Flow
