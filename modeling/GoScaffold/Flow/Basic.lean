import GoScaffold.Schema.Basic
import GoScaffold.Text.Blank
import GoScaffold.Text.Case
import GoScaffold.Text.Substring

/-! Flows in their uniform shape: a step has an action and arguments, and its branches are arguments
too, under keys of their own. -/

namespace GoScaffold

mutual

structure Step where
  action : String
  params : List String
  args : List (String × StepArg)

inductive StepArg where
  | steps (branch : List Step)
  | cases (branches : List (String × List Step))
  | value (v : Json)

end

instance : Inhabited Step := ⟨⟨"", [], []⟩⟩

instance : Inhabited StepArg := ⟨.value .null⟩

namespace Step

def doKey : String := "_do"

def ifNewKey : String := "_ifNew"

def ifExistsKey : String := "_ifExists"

def thenKey : String := "_then"

def elseKey : String := "_else"

def defaultKey : String := "_default"

def casesKey : String := "_cases"

def branchKeys : List String := [doKey, ifNewKey, ifExistsKey, thenKey, elseKey, defaultKey]

def addBranch (key : String) (branch : List Step) (args : Dict StepArg) : Dict StepArg :=
  if branch.isEmpty then args else args.insert key (.steps branch)

def addCases (branches : List (String × List Step)) (args : Dict StepArg) : Dict StepArg :=
  if branches.isEmpty then args else args.insert casesKey (.cases branches)

end Step

mutual

/-- The uniform shape of a step. A branch takes the place of an argument with its key. -/
def FlowStep.normalize : FlowStep → Step
  | ⟨action, params, args, steps, ifNew, ifExists, thenSteps, elseSteps, cases, defaultSteps⟩ =>
    let values := args.map fun (key, v) => (key, StepArg.value v)
    { action, params
      args :=
        Step.addCases (normalizeCases cases) <|
        Step.addBranch Step.defaultKey (normalizeSteps defaultSteps) <|
        Step.addBranch Step.elseKey (normalizeSteps elseSteps) <|
        Step.addBranch Step.thenKey (normalizeSteps thenSteps) <|
        Step.addBranch Step.ifExistsKey (normalizeSteps ifExists) <|
        Step.addBranch Step.ifNewKey (normalizeSteps ifNew) <|
        Step.addBranch Step.doKey (normalizeSteps steps) values }

def normalizeSteps : List FlowStep → List Step
  | [] => []
  | s :: rest => s.normalize :: normalizeSteps rest

def normalizeCases : List (String × List FlowStep) → List (String × List Step)
  | [] => []
  | (label, branch) :: rest => (label, normalizeSteps branch) :: normalizeCases rest

end

namespace Step

def value? (s : Step) (name : String) : Option Json :=
  match List.lookup name s.args with
  | some (.value v) => some v
  | _ => none

def arg (s : Step) (name : String) : String :=
  match s.value? name with
  | some (.str t) => Text.trim t
  | _ => ""

def intArg? (s : Step) (name : String) : Option Int :=
  match s.value? name with
  | some (.num (.int i)) => some (Width.clamp 64 i)
  | some (.num (.float x)) => some x.toInt64
  | some (.str t) => parseInt64? (Text.trim t)
  | _ => none

def boolArg (s : Step) (name : String) : Bool :=
  match s.value? name with
  | some (.bool b) => b
  | some (.str t) => Text.sameLetters (Text.trim t) "true"
  | _ => false

def branch (s : Step) (key : String) : List Step :=
  match List.lookup key s.args with
  | some (.steps steps) => steps
  | _ => []

def cases? (s : Step) : Option (List (String × List Step)) :=
  match List.lookup casesKey s.args with
  | some (.cases branches) => some branches
  | _ => none

/-- The branches that are not empty, the labelled ones last. -/
def children (s : Step) : List (List Step) :=
  ((branchKeys.map s.branch) ++ (s.cases?.getD []).map Prod.snd).filter (!·.isEmpty)

theorem sizeOf_lt_of_lookup {s : Step} {key : String} {arg : StepArg}
    (h : s.args.lookup key = some arg) : sizeOf arg < sizeOf s := by
  obtain ⟨action, params, args⟩ := s
  obtain ⟨before, after, hargs, -⟩ := List.lookup_eq_some_iff.1 h
  have hmem : (key, arg) ∈ args := by
    rw [show args = _ from hargs]
    exact List.mem_append_right _ List.mem_cons_self
  have := List.sizeOf_lt_of_mem hmem
  simp only [Prod.mk.sizeOf_spec, mk.sizeOf_spec] at *
  omega

theorem sizeOf_lt_of_mem_branch {s t : Step} {key : String} (ht : t ∈ s.branch key) :
    sizeOf t < sizeOf s := by
  unfold branch at ht
  split at ht
  next steps hlookup =>
    have := sizeOf_lt_of_lookup hlookup
    have := List.sizeOf_lt_of_mem ht
    simp only [StepArg.steps.sizeOf_spec] at *
    omega
  next => cases ht

theorem sizeOf_lt_of_mem_cases {s t : Step} {b : String × List Step} (hb : b ∈ s.cases?.getD [])
    (ht : t ∈ b.2) : sizeOf t < sizeOf s := by
  obtain ⟨label, steps⟩ := b
  unfold cases? at hb
  split at hb
  next branches hlookup =>
    have := sizeOf_lt_of_lookup hlookup
    have := List.sizeOf_lt_of_mem (show (label, steps) ∈ branches from hb)
    have := List.sizeOf_lt_of_mem ht
    simp only [StepArg.cases.sizeOf_spec, Prod.mk.sizeOf_spec] at *
    omega
  next => cases hb

theorem sizeOf_lt_of_mem_children {s t : Step} {branch : List Step} (hbranch : branch ∈ s.children)
    (ht : t ∈ branch) : sizeOf t < sizeOf s := by
  rcases List.mem_append.1 (List.mem_filter.1 hbranch).1 with hkey | hcase
  · obtain ⟨key, -, rfl⟩ := List.mem_map.1 hkey
    exact sizeOf_lt_of_mem_branch ht
  · obtain ⟨b, hb, rfl⟩ := List.mem_map.1 hcase
    exact sizeOf_lt_of_mem_cases hb ht

/-- A step and the steps below it, at every depth, as its children lead to them. -/
def visited (s : Step) : List Step :=
  s :: s.children.attach.flatMap fun branch => branch.1.attach.flatMap fun t => visited t.1
termination_by sizeOf s
decreasing_by exact sizeOf_lt_of_mem_children branch.2 t.2

mutual

def toJson : Step → Json
  | ⟨action, params, args⟩ =>
    .obj [("action", .str action), ("params", .strs params), ("args", .obj (argsJson args))]

def argsJson : List (String × StepArg) → List (String × Json)
  | [] => []
  | (key, arg) :: rest => (key, argJson arg) :: argsJson rest

def argJson : StepArg → Json
  | .steps branch => .arr (listJson branch)
  | .cases branches => .obj (casesJson branches)
  | .value v => v

def listJson : List Step → List Json
  | [] => []
  | s :: rest => s.toJson :: listJson rest

def casesJson : List (String × List Step) → List (String × Json)
  | [] => []
  | (label, branch) :: rest => (label, .arr (listJson branch)) :: casesJson rest

end

end Step

namespace Flow

def visited (flow : List Step) : List Step := flow.flatMap Step.visited

def containsAction (flow : List Step) (action : String) : Bool :=
  (visited flow).any fun s => s.action == action

def containsTx (flow : List Step) : Bool := containsAction flow "tx.Block"

def publishesEvents (flow : List Step) : Bool := containsAction flow "event.Publish"

def repoSource? (s : Step) : Option String :=
  if Text.startsWith s.action "repo." && !(s.arg "source").isEmpty then some (s.arg "source")
  else none

def repoSources (flow : List Step) : List String :=
  ((visited flow).filterMap repoSource?).eraseDups.mergeSort

end Flow

end GoScaffold
