import GoScaffold.Model.Projection
import GoScaffold.Proofs.Flow.Normalization
import Mathlib.Data.List.Nodup

/-! What the parts of a schema's model consist of, and which entities a service holds repositories
of. -/

namespace GoScaffold.Model

@[simp] theorem mem_sortOn {α : Type} {key : α → String} {values : List α} {a : α} :
    a ∈ sortOn key values ↔ a ∈ values :=
  List.mem_mergeSort

@[simp] theorem mem_sortedSet {texts : List String} {text : String} :
    text ∈ sortedSet texts ↔ text ∈ texts := by
  rw [sortedSet, List.mem_mergeSort, List.mem_eraseDups]

def NamesDto (model : Model) (name : String) : Prop :=
  ∃ d ∈ model.entities, d.isDto = true ∧ d.name = name

@[simp] theorem mem_dtoNames {model : Model} {name : String} :
    name ∈ dtoNames model.entities ↔ model.NamesDto name := by
  simp [dtoNames, NamesDto, and_assoc]

variable {schema : Schema} {service : Service}

theorem mem_entities_ofSchema {entity : Entity} :
    entity ∈ (ofSchema schema).entities ↔ ∃ e ∈ schema.entities, ofEntity e = entity := by
  simp [ofSchema]

theorem entity?_ofSchema (hunique : (schema.entities.map GoScaffold.Entity.name).Nodup)
    {d : GoScaffold.Entity} (hd : d ∈ schema.entities) :
    (ofSchema schema).entity? d.name = some (ofEntity d) := by
  cases hfind : (ofSchema schema).entity? d.name with
  | none =>
    have hmem : ofEntity d ∈ (ofSchema schema).entities := mem_entities_ofSchema.2 ⟨d, hd, rfl⟩
    exact absurd (beq_self_eq_true d.name) (List.find?_eq_none.1 hfind _ hmem)
  | some found =>
    have hname : found.name = d.name := by simpa using List.find?_some hfind
    obtain ⟨e, he, rfl⟩ := mem_entities_ofSchema.1 (List.mem_of_find?_eq_some hfind)
    rw [List.inj_on_of_nodup_map hunique he hd hname]

theorem mem_repos_ofSchema {repo : Repository} : repo ∈ (ofSchema schema).repos ↔
    ∃ r ∈ schema.repos, ofRepository (ofSchema schema).entities r = repo := by
  simp [ofSchema]

theorem mem_services_ofSchema : service ∈ (ofSchema schema).services ↔
    ∃ s ∈ schema.services, ofService (dtoNames (ofSchema schema).entities) s = service := by
  simp [ofSchema]

theorem mem_methods_ofService {dtoNames : List String} {s : GoScaffold.Service} {m : Method} :
    m ∈ (ofService dtoNames s).methods ↔ ∃ declared ∈ s.methods, ofMethod declared = m := by
  simp [ofService]

theorem exists_service_of_mem (schema : Schema) {s : GoScaffold.Service}
    (hs : s ∈ schema.services) :
    ∃ service ∈ (ofSchema schema).services,
      ∀ m, m ∈ service.methods ↔ ∃ declared ∈ s.methods, ofMethod declared = m :=
  ⟨_, mem_services_ofSchema.2 ⟨s, hs, rfl⟩, fun _ => mem_methods_ofService⟩

theorem eq_render_of_flowCode (hservice : service ∈ (ofSchema schema).services) {m : Method}
    (hm : m ∈ service.methods) {text : String} (htext : m.flowCode = some text) :
    text = Flow.render m.flow m.output.isSome := by
  obtain ⟨s, -, rfl⟩ := mem_services_ofSchema.1 hservice
  obtain ⟨declared, -, rfl⟩ := mem_methods_ofService.1 hm
  simp only [ofMethod] at htext ⊢
  split at htext
  · exact (Option.some.inj htext).symm
  · cases htext

/-- The method names the entity as a source, or a step of its flow goes through the repository of
the entity. The entity is in exported spelling. -/
def Method.Reaches (m : Method) (entity : String) : Prop :=
  (∃ source ∈ m.sources, source.entity ≠ "" ∧
    Name.exported (Name.exported source.entity) = entity) ∨ ∃ s ∈ Step.stepsTree m.flow, ∃ name,
    Flow.repoSource? s = some name ∧ Name.exported name = entity

theorem mem_methodEntities {m : GoScaffold.Method} {entity : String} :
    entity ∈ methodEntities (ofMethod m) ↔ (ofMethod m).Reaches entity := by
  rw [methodEntities, List.mem_append]
  refine or_congr ?_ ?_
  · simp [and_assoc]
  · have hvisited (s : Step) : s ∈ Flow.visited (ofMethod m).flow ↔
        s ∈ Step.stepsTree (ofMethod m).flow :=
      FlowStep.mem_visited_iff_mem_stepsTree
    simp only [Flow.repoSources, List.mem_map, List.mem_mergeSort, List.mem_eraseDups,
      List.mem_filterMap, hvisited]
    exact ⟨fun ⟨name, ⟨s, hs, hname⟩, h⟩ => ⟨s, hs, name, hname, h⟩,
      fun ⟨s, hs, name, hname, h⟩ => ⟨name, ⟨s, hs, hname⟩, h⟩⟩

theorem mem_repoEntities (hservice : service ∈ (ofSchema schema).services) {entity : String} :
    entity ∈ service.repoEntities ↔
      (∃ m ∈ service.methods, m.Reaches entity) ∧ ¬ (ofSchema schema).NamesDto entity := by
  obtain ⟨s, -, rfl⟩ := mem_services_ofSchema.1 hservice
  simp [ofService, mem_methodEntities]

end GoScaffold.Model
