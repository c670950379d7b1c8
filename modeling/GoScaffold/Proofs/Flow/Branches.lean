import GoScaffold.Flow.Lowering
import Mathlib.Data.List.Basic

/-! The code of a step in terms of its branches. What the lowering looks up among the lowered
arguments is the code of the branch that the step has under that key, so a proof about the code of
flows goes by induction on the branches of steps. -/

namespace GoScaffold

namespace Step

variable {s t : Step} {key : String}

theorem branches_induction {motive : Step → Prop}
    (step : ∀ s : Step, (∀ key, ∀ t ∈ s.branch key, motive t) →
      (∀ b ∈ s.cases?.getD [], ∀ t ∈ b.2, motive t) → motive s) (s : Step) : motive s := by
  induction hsize : sizeOf s using Nat.strongRecOn generalizing s with
  | ind n ih =>
    subst hsize
    refine step s (fun key t ht => ?_) (fun b hb t ht => ?_)
    · exact ih _ (sizeOf_lt_of_mem_branch ht) t rfl
    · exact ih _ (sizeOf_lt_of_mem_cases hb ht) t rfl

section

variable {α : Type} (f : Step → (String → List α) → List (String × List α) → α)

mutual

def fold : Step → α
  | ⟨action, params, args⟩ =>
    f ⟨action, params, args⟩ (fun key => (foldAt args key).1) (foldAt args casesKey).2

def foldAt : List (String × StepArg) → String → List α × List (String × List α)
  | [], _ => ([], [])
  | (k, arg) :: rest, key => if key == k then foldArg arg else foldAt rest key

def foldArg : StepArg → List α × List (String × List α)
  | .steps branch => (foldList branch, [])
  | .cases branches => ([], foldBranches branches)
  | .value _ => ([], [])

def foldList : List Step → List α
  | [] => []
  | s :: rest => fold s :: foldList rest

def foldBranches : List (String × List Step) → List (String × List α)
  | [] => []
  | (label, branch) :: rest => (label, foldList branch) :: foldBranches rest

end

theorem foldList_eq_map (steps : List Step) : foldList f steps = steps.map (fold f) := by
  induction steps with
  | nil => rfl
  | cons s steps ih => exact congrArg (fold f s :: ·) ih

theorem foldBranches_eq_map (branches : List (String × List Step)) :
    foldBranches f branches = branches.map fun b => (b.1, b.2.map (fold f)) := by
  induction branches with
  | nil => rfl
  | cons b branches ih =>
    show (b.1, foldList f b.2) :: foldBranches f branches = _
    rw [foldList_eq_map, ih]
    rfl

theorem foldAt_eq_lookup (args : List (String × StepArg)) (key : String) :
    foldAt f args key = ((args.lookup key).map (foldArg f)).getD ([], []) := by
  induction args with
  | nil => rfl
  | cons a args ih =>
    rw [List.lookup_cons]
    show (if key == a.1 then foldArg f a.2 else foldAt f args key) = _
    split
    next h => simp [h]
    next h => simp [h, ih]

theorem fold_eq (s : Step) : fold f s = f s (fun key => (s.branch key).map (fold f))
    ((s.cases?.getD []).map fun b => (b.1, b.2.map (fold f))) := by
  have hbranch : (fun key => (foldAt f s.args key).1) = fun key => (s.branch key).map (fold f) := by
    funext key
    rw [foldAt_eq_lookup]
    unfold Step.branch
    rcases List.lookup key s.args with _ | branch | _ | _
    · rfl
    · exact foldList_eq_map f branch
    · rfl
    · rfl
  have hcases : (foldAt f s.args casesKey).2 =
      (s.cases?.getD []).map fun b => (b.1, b.2.map (fold f)) := by
    rw [foldAt_eq_lookup]
    unfold cases?
    rcases List.lookup casesKey s.args with _ | _ | branches | _
    · rfl
    · rfl
    · exact foldBranches_eq_map f branches
    · rfl
  rw [← hbranch, ← hcases]
  cases s
  rfl

end

end Step

namespace Flow

variable {ret : String}

theorem lowerStep_eq (s : Step) : lowerStep ret s = stepCode ret s (lowerArgs ret s.args) := by
  cases s
  rw [lowerStep]

theorem lookup_lowerArgs (args : List (String × StepArg)) (key : String) :
    (lowerArgs ret args).lookup key = (args.lookup key).map (lowerArg ret) := by
  induction args with
  | nil => rw [lowerArgs]; rfl
  | cons a args ih =>
    obtain ⟨k, arg⟩ := a
    rw [lowerArgs, List.lookup_cons, List.lookup_cons]
    split
    · rfl
    · exact ih

theorem lowerSteps_eq_all (steps : List Step) :
    lowerSteps ret steps = .all (steps.map (lowerStep ret)) := by
  induction steps with
  | nil => rw [lowerSteps]; rfl
  | cons s steps ih => rw [lowerSteps, ih]; rfl

theorem lowerCases_eq_map (branches : List (String × List Step)) :
    lowerCases ret branches = branches.map fun b => (b.1, lowerSteps ret b.2) := by
  induction branches with
  | nil => rw [lowerCases]; rfl
  | cons b branches ih => rw [lowerCases, ih]; rfl

theorem codeAt_lowerArgs (s : Step) (key : String) :
    Branch.codeAt (lowerArgs ret s.args) key = lowerSteps ret (s.branch key) := by
  unfold Branch.codeAt Step.branch
  rw [lookup_lowerArgs]
  rcases List.lookup key s.args with _ | _ | _ | _
  · rfl
  · simp [lowerArg]
  · simp [lowerArg, lowerSteps]
  · simp [lowerArg, lowerSteps]

theorem isEmptyAt_lowerArgs (s : Step) (key : String) :
    Branch.isEmptyAt (lowerArgs ret s.args) key = (s.branch key).isEmpty := by
  unfold Branch.isEmptyAt Step.branch
  rw [lookup_lowerArgs]
  rcases List.lookup key s.args with _ | _ | _ | _ <;> simp [lowerArg]

theorem casesAt_lowerArgs (s : Step) :
    Branch.casesAt (lowerArgs ret s.args) Step.casesKey =
      (s.cases?.getD []).map fun b => (b.1, lowerSteps ret b.2) := by
  unfold Branch.casesAt Step.cases?
  rw [lookup_lowerArgs]
  rcases List.lookup Step.casesKey s.args with _ | _ | _ | _ <;> simp [lowerArg, lowerCases_eq_map]

end Flow

end GoScaffold
