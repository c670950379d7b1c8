import GoScaffold.Proofs.Flow.Outline

/-! The layout of a step's code. With all its arguments in place, the code of a step consists of
lines of its own and of the code of the steps below it, under the keys at which its action looks. -/

namespace GoScaffold.Flow

def Action.slots : Action → List String
  | .conditional => [Step.thenKey, Step.elseKey]
  | .upsert => [Step.ifNewKey, Step.ifExistsKey]
  | .switch => [Step.casesKey, Step.defaultKey]
  | .each => [Step.doKey]
  | .block => [Step.doKey]
  | _ => []

def Action.required : Action → List String
  | .check => ["condition"]
  | .fetch _ => ["source"]
  | .store _ => ["source"]
  | .assign => ["to", "value"]
  | .conditional => ["condition"]
  | .upsert => ["target"]
  | .switch => ["value"]
  | .each => ["each"]
  | .block => []
  | .filter => ["from", "condition", "output"]
  | .paginate => ["input", "offset", "limit", "output"]
  | .append => ["to", "item"]
  | .sort => ["input", "output", "by"]
  | .normalize => ["input", "output"]
  | .publish => ["event"]

def requiredArgs (s : Step) : List String := ((Action.ofName? s.action).map Action.required).getD []

def IsComplete (s : Step) : Prop := ∀ name ∈ requiredArgs s, s.arg name ≠ ""

instance (s : Step) : Decidable (IsComplete s) :=
  inferInstanceAs (Decidable (∀ name ∈ requiredArgs s, s.arg name ≠ ""))

/-- A part of a step's code: code of its own, or the code of steps below it. -/
inductive Piece (α : Type) where
  | own (code : Lowering)
  | inline (steps : List α)
  | deeper (steps : List α)

namespace Piece

variable {α β : Type}

def map (f : α → β) : Piece α → Piece β
  | own code => own code
  | inline steps => inline (steps.map f)
  | deeper steps => deeper (steps.map f)

def steps : Piece α → List α
  | own _ => []
  | inline steps => steps
  | deeper steps => steps

def code (ret : String) : Piece Step → Lowering
  | own code => code
  | inline steps => lowerSteps ret steps
  | deeper steps => .nested (lowerSteps ret steps)

end Piece

section

variable {α β : Type}

def optionalBranch (header : String) (branch : List α) : List (Piece α) :=
  if branch.isEmpty then [] else [.own (.line [header]), .deeper branch]

def labelledBranch (b : String × List α) : List (Piece α) :=
  [.own (.line ["case ", caseLabel b.1, ":"]), .deeper b.2]

def closing : List (Piece α) := [.own (.line ["\x7d"])]

def choiceLayout (cond : List CodePart) (yes no : List α) : List (Piece α) :=
  [.own (.line ("if " :: cond.concat " \x7b")), .deeper yes] ++
    optionalBranch "\x7d else \x7b" no ++ closing

/-- The code of a step that has its arguments, with the code of its branches left open. -/
def layout (ret : String) (s : Step) (branch : String → List α) (cases : List (String × List α)) :
    List (Piece α) :=
  match Action.ofName? s.action with
  | some .conditional =>
    choiceLayout [.given (s.arg "condition")] (branch Step.thenKey) (branch Step.elseKey)
  | some .upsert =>
    choiceLayout [.given (s.arg "target"), " == nil"] (branch Step.ifNewKey)
      (branch Step.ifExistsKey)
  | some .switch =>
    [.own (.line ["switch ", .given (s.arg "value"), " \x7b"])] ++ cases.flatMap labelledBranch ++
      optionalBranch "default:" (branch Step.defaultKey) ++ closing
  | some .each =>
    [.own (.line ["for _, ", .givenOr (s.arg "as") "item", " := range ", .given (s.arg "each"),
      " \x7b"]), .deeper (branch Step.doKey)] ++ closing
  | some .block => [.inline (branch Step.doKey)]
  | _ => [.own (stepCode ret s [])]

theorem map_optionalBranch (f : α → β) (header : String) (branch : List α) :
    (optionalBranch header branch).map (Piece.map f) = optionalBranch header (branch.map f) := by
  cases branch <;> rfl

theorem map_choiceLayout (f : α → β) (cond : List CodePart) (yes no : List α) :
    (choiceLayout cond yes no).map (Piece.map f) = choiceLayout cond (yes.map f) (no.map f) := by
  rw [choiceLayout, List.map_append, List.map_append, map_optionalBranch]
  rfl

theorem layout_map (f : α → β) (ret : String) (s : Step) (branch : String → List α)
    (cases : List (String × List α)) :
    layout ret s (fun key => (branch key).map f) (cases.map fun b => (b.1, b.2.map f)) =
      (layout ret s branch cases).map (Piece.map f) := by
  have hcases : (cases.map fun b => (b.1, b.2.map f)).flatMap labelledBranch =
      (cases.flatMap labelledBranch).map (Piece.map f) := by
    rw [List.flatMap_map, List.map_flatMap]
    rfl
  unfold layout
  split
  · rw [map_choiceLayout]
  · rw [map_choiceLayout]
  · rw [List.map_append, List.map_append, List.map_append, map_optionalBranch, hcases]
    rfl
  · rfl
  · rfl
  · rfl

theorem steps_optionalBranch (header : String) (branch : List α) :
    (optionalBranch header branch).flatMap Piece.steps = branch := by
  cases branch with
  | nil => rfl
  | cons s branch => exact List.append_nil _

theorem steps_choiceLayout (cond : List CodePart) (yes no : List α) :
    (choiceLayout cond yes no).flatMap Piece.steps = yes ++ no := by
  rw [choiceLayout, List.flatMap_append, List.flatMap_append, steps_optionalBranch]
  simp [closing, Piece.steps]

theorem steps_labelledBranch (cases : List (String × List α)) :
    (cases.flatMap labelledBranch).flatMap Piece.steps = cases.flatMap Prod.snd := by
  rw [List.flatMap_assoc]
  refine List.flatMap_congr fun b _ => ?_
  simp [labelledBranch, Piece.steps]

end

def pieces (ret : String) (s : Step) : List (Piece Step) := layout ret s s.branch (s.cases?.getD [])

section

open Lowering

variable {ret : String} {s : Step}

theorem needing_required {action : Action} (haction : Action.ofName? s.action = some action)
    (h : IsComplete s) (code : Lowering) : needing (action.required.map s.arg) code = code := by
  rw [IsComplete, requiredArgs, haction, Option.map_some, Option.getD_some] at h
  refine if_neg ?_
  simpa using h

theorem ifElse_eq_all (cond : List CodePart) (yes no : List Step) :
    ifElse cond (lowerSteps ret yes) no.isEmpty (lowerSteps ret no) =
      all ((choiceLayout cond yes no).map (Piece.code ret)) := by
  cases no <;> rfl

theorem map_code_optionalBranch (header : String) (branch : List Step) :
    (optionalBranch header branch).map (Piece.code ret) =
      if branch.isEmpty then [] else [line [header], nested (lowerSteps ret branch)] := by
  cases branch <;> rfl

theorem map_code_labelledBranch (cases : List (String × List Step)) :
    (cases.flatMap labelledBranch).map (Piece.code ret) = cases.flatMap fun b =>
      [line ["case ", caseLabel b.1, ":"], nested (lowerSteps ret b.2)] := by
  rw [List.map_flatMap]
  rfl

/-- The code of a step that has its arguments is the code of its pieces. -/
theorem lowerStep_eq_all (h : IsComplete s) :
    lowerStep ret s = all ((pieces ret s).map (Piece.code ret)) := by
  rw [lowerStep_eq, pieces, layout]
  cases haction : Action.ofName? s.action with
  | none =>
    simp only [stepCode, haction]
    rfl
  | some action =>
    have hargs := needing_required haction h
    unfold stepCode
    simp only [haction, codeAt_lowerArgs, isEmptyAt_lowerArgs, casesAt_lowerArgs, List.flatMap_map]
    cases action with
    | conditional => exact (hargs _).trans (ifElse_eq_all _ _ _)
    | upsert => exact (hargs _).trans (ifElse_eq_all _ _ _)
    | switch =>
      refine (hargs _).trans ?_
      simp only [List.map_append, map_code_optionalBranch, map_code_labelledBranch]
      rfl
    | each => exact hargs _
    | block => exact (seq_none _).symm
    | check | fetch _ | store _ | assign | filter | paginate | append | sort | normalize
    | publish =>
      exact (seq_none _).symm

end

end GoScaffold.Flow
