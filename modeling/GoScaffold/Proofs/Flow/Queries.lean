import GoScaffold.Proofs.Flow.Normalization
import GoScaffold.Proofs.Model.Projection

/-! What is asked of a flow. The questions are put to the flow in its uniform shape, where branches
are arguments among others, and the answers are about the flow as declared: every step counts, at
every depth, and nothing else does. A service needs a transaction or a publisher exactly when one of
its methods says so somewhere. -/

namespace GoScaffold

namespace Flow

open FlowStep (Within)

variable {steps : List FlowStep}

def supportedActions : List String :=
  ["logic.Check", "repo.Find", "repo.Get", "repo.GetForUpdate", "repo.List", "repo.Save",
    "repo.Delete", "mapping.Assign", "flow.If", "if", "branch", "flow.Switch", "switch", "upsert",
    "flow.For", "flow.Block", "tx.Block", "list.Filter", "list.Paginate",
    "list.Append", "list.Sort", "str.Normalize", "event.Publish"]

theorem isSome_ofName?_iff {action : String} :
    (Action.ofName? action).isSome = true ↔ action ∈ supportedActions := by
  have hall : ∀ a ∈ supportedActions, (Action.ofName? a).isSome = true := by decide
  refine ⟨fun h => ?_, hall action⟩
  obtain ⟨a, ha⟩ := Option.isSome_iff_exists.1 h
  unfold Action.ofName? at ha
  split at ha <;> cases ha
  all_goals decide

theorem exists_mem_visited_normalizeSteps {P : Step → Prop} :
    (∃ t ∈ visited (normalizeSteps steps), P t) ↔ ∃ s, Within steps s ∧ P s.normalize := by
  simp only [FlowStep.mem_visited_normalizeSteps]
  constructor
  · rintro ⟨-, ⟨s, hs, rfl⟩, h⟩
    exact ⟨s, hs, h⟩
  · rintro ⟨s, hs, h⟩
    exact ⟨_, ⟨s, hs, rfl⟩, h⟩

theorem containsAction_normalizeSteps {action : String} :
    containsAction (normalizeSteps steps) action = true ↔
      ∃ s, Within steps s ∧ s.action = action := by
  rw [containsAction, List.any_eq_true, exists_mem_visited_normalizeSteps]
  simp

theorem renderable_normalizeSteps : renderable (normalizeSteps steps) = true ↔
    ∀ s, Within steps s → s.action ∈ supportedActions := by
  rw [renderable, List.all_eq_true]
  simp only [isSome_ofName?_iff, FlowStep.mem_visited_normalizeSteps]
  constructor
  · intro h s hs
    exact s.action_normalize ▸ h _ ⟨s, hs, rfl⟩
  · rintro h - ⟨s, hs, rfl⟩
    exact s.action_normalize ▸ h s hs

theorem repoSource?_normalize {s : FlowStep} {name : String} :
    repoSource? s.normalize = some name ↔ Text.startsWith s.action "repo." = true ∧ name ≠ "" ∧
      ∃ text, s.args.get? "source" = some (.str text) ∧ Text.trim text = name := by
  have hslot : "source" ∉ Step.branchKeys := by decide
  have hcases : "source" ≠ Step.casesKey := by decide
  unfold repoSource?
  rw [FlowStep.action_normalize]
  by_cases hname : name = ""
  · simp [hname]
  · rw [← FlowStep.arg_normalize hslot hcases hname]
    constructor
    · intro h
      split at h
      next hgiven =>
        rw [Bool.and_eq_true] at hgiven
        exact ⟨hgiven.1, hname, Option.some.inj h⟩
      next => cases h
    · rintro ⟨haction, -, rfl⟩
      simp [haction, hname]

theorem mem_repoSources_normalizeSteps {name : String} :
    name ∈ repoSources (normalizeSteps steps) ↔
      ∃ s, Within steps s ∧ Text.startsWith s.action "repo." = true ∧ name ≠ "" ∧
        ∃ text, s.args.get? "source" = some (.str text) ∧ Text.trim text = name := by
  rw [repoSources, List.mem_mergeSort, List.mem_eraseDups, List.mem_filterMap,
    exists_mem_visited_normalizeSteps]
  simp only [repoSource?_normalize]

end Flow

namespace Model

open FlowStep (Within)

variable {dtoNames : List String} {service : GoScaffold.Service}

theorem requiresTx_ofMethod {m : GoScaffold.Method} : (ofMethod m).requiresTx = true ↔
    (∃ snippet, m.impl = some snippet ∧ snippet.requiresTx = true) ∨
      ∃ s, Within m.flow s ∧ s.action = "tx.Block" := by
  have hsnippet : (m.impl.map Snippet.requiresTx).getD false = true ↔
      ∃ snippet, m.impl = some snippet ∧ snippet.requiresTx = true := by
    cases m.impl <;> simp
  rw [← hsnippet, ← Flow.containsAction_normalizeSteps, ← Bool.or_eq_true]
  rfl

theorem needsTx_ofService : (ofService dtoNames service).needsTx = true ↔
    ∃ m ∈ service.methods, (∃ snippet, m.impl = some snippet ∧ snippet.requiresTx = true) ∨
      ∃ s, Within m.flow s ∧ s.action = "tx.Block" := by
  simp only [Service.needsTx, List.any_eq_true, mem_methods_ofService, ← requiresTx_ofMethod]
  exact exists_exists_and_eq_and

theorem publishesEvents_ofService : (ofService dtoNames service).publishesEvents = true ↔
    ∃ m ∈ service.methods, ∃ s, Within m.flow s ∧ s.action = "event.Publish" := by
  simp only [Service.publishesEvents, List.any_eq_true, mem_methods_ofService,
    ← Flow.containsAction_normalizeSteps]
  exact exists_exists_and_eq_and

/-- Every question about a flow is answered by all the steps within it, and so are those about a
service. The branches that are gone into are the ones that are not empty. -/
theorem flow_queries_exact (steps : List FlowStep) (dtoNames : List String)
    (service : GoScaffold.Service) :
    (∀ s : FlowStep,
      s.normalize.children = (s.branches.filter (!·.isEmpty)).map normalizeSteps) ∧
    (∀ action, Flow.containsAction (normalizeSteps steps) action = true ↔
      ∃ s, Within steps s ∧ s.action = action) ∧
    (Flow.renderable (normalizeSteps steps) = true ↔
      ∀ s, Within steps s → s.action ∈ Flow.supportedActions) ∧
    (∀ name, name ∈ Flow.repoSources (normalizeSteps steps) ↔
      ∃ s, Within steps s ∧ Text.startsWith s.action "repo." = true ∧ name ≠ "" ∧
        ∃ text, s.args.get? "source" = some (.str text) ∧ Text.trim text = name) ∧
    ((ofService dtoNames service).needsTx = true ↔
      ∃ m ∈ service.methods, (∃ snippet, m.impl = some snippet ∧ snippet.requiresTx = true) ∨
        ∃ s, Within m.flow s ∧ s.action = "tx.Block") ∧
    ((ofService dtoNames service).publishesEvents = true ↔
      ∃ m ∈ service.methods, ∃ s, Within m.flow s ∧ s.action = "event.Publish") :=
  ⟨FlowStep.children_normalize, fun _ => Flow.containsAction_normalizeSteps,
    Flow.renderable_normalizeSteps, fun _ => Flow.mem_repoSources_normalizeSteps,
    needsTx_ofService, publishesEvents_ofService⟩

end Model

end GoScaffold
