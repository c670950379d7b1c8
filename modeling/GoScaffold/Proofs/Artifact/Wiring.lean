import GoScaffold.Artifact.Server
import GoScaffold.Proofs.Model.Projection

/-! Which repositories a command constructs, and what it hands to its services. A service asks for
repositories in exported spelling, while a repository is found by the spelling in which it is
declared, so that one that is declared in another spelling is left out. -/

namespace GoScaffold.Artifact

/-- The services name the entity as a source, or hold its repository. -/
def Mentions (services : List Model.Service) (entity : String) : Prop :=
  ∃ s ∈ services, (entity ≠ "" ∧ ∃ m ∈ s.methods, ∃ source ∈ m.sources, source.entity = entity) ∨
    entity ∈ s.repoEntities

/-- A repository of stored values is declared with just this entity. -/
def Declared (model : Model) (entity : String) : Prop :=
  ∃ r ∈ model.repos, r.isDto = false ∧ r.entity = entity

variable {model : Model} {services : List Model.Service} {entity : String}

theorem mem_readEntities : entity ∈ readEntities model services ↔
    (∃ name, Mentions services name ∧ Name.exported name = entity) ∧ ¬ model.NamesDto entity := by
  have hnamed : ∀ name, (name ∈ services.flatMap fun s =>
      (s.methods.flatMap fun m => (m.sources.map Source.entity).filter (!·.isEmpty)) ++
        s.repoEntities) ↔ Mentions services name := by
    intro name
    simp [Mentions, and_comm, and_left_comm]
  simp [readEntities, hnamed]

theorem mem_repoWirings {w : RepoWiring} : w ∈ repoWirings model services ↔
    w.entity ∈ readEntities model services ∧ Declared model w.entity ∧
      w.storage = model.storageOfEntity w.entity := by
  have hdeclared : ∀ e, (model.repos.any fun r => !r.isDto && r.entity == e) = true ↔
      Declared model e := by
    simp [Declared]
  simp only [repoWirings, List.mem_map, List.mem_filter, hdeclared]
  constructor
  · rintro ⟨e, ⟨hread, he⟩, rfl⟩
    exact ⟨hread, he, rfl⟩
  · rintro ⟨hread, he, hstorage⟩
    exact ⟨w.entity, ⟨hread, he⟩, by rw [← hstorage]⟩

theorem find?_repoWirings {w : RepoWiring} (hw : w ∈ repoWirings model services) :
    (repoWirings model services).find? (fun r => r.entity == w.entity) = some w := by
  cases hfind : (repoWirings model services).find? fun r => r.entity == w.entity with
  | none =>
    exact absurd (beq_self_eq_true w.entity) (by simpa using List.find?_eq_none.1 hfind w hw)
  | some found =>
    have hentity : found.entity = w.entity := by simpa using List.find?_some hfind
    obtain ⟨-, -, hfound⟩ := mem_repoWirings.1 (List.mem_of_find?_eq_some hfind)
    obtain ⟨-, -, hw⟩ := mem_repoWirings.1 hw
    have hstorage : found.storage = w.storage := by rw [hfound, hentity, hw]
    cases found
    cases w
    cases hentity
    cases hstorage
    rfl

theorem RepoWiring.var_ne_nil (w : RepoWiring) : w.var ≠ "nil" := by
  intro h
  have hlast : w.var.toList.getLast? = some 'l' := by rw [h]; rfl
  rw [var, String.toList_append] at hlast
  simp at hlast

theorem getElem?_args {repos : List RepoWiring} {s : Model.Service} {i : Nat}
    (hi : s.repoEntities[i]? = some entity) : (serviceWiring repos s).args[i]? =
      some (match repos.find? fun r => r.entity == entity with
        | some r => r.var
        | none => "nil") := by
  have hlt : i < s.repoEntities.length := (List.getElem?_eq_some_iff.1 hi).1
  rw [serviceWiring, List.append_assoc, List.getElem?_append_left (by simpa using hlt),
    List.getElem?_map, hi]
  rfl

theorem mem_services_of_mem_ordered {s : Model.Service} (hs : s ∈ orderedServices model) :
    s ∈ model.services := by
  obtain ⟨name, -, hname⟩ := List.mem_filterMap.1 hs
  exact List.mem_of_find?_eq_some hname

theorem exists_of_mem_servers {h : Header} {layout : Layout} {path : String} {page : ServerPage}
    (hpage : (path, page) ∈ servers h layout model) : ∃ owner services,
      page = serverPage h model owner services ∧ services ⊆ orderedServices model := by
  cases layout with
  | monolith =>
    obtain ⟨rfl, rfl⟩ := Prod.mk.inj (List.mem_singleton.1 hpage)
    exact ⟨none, _, rfl, List.Subset.refl _⟩
  | microservices =>
    obtain ⟨s, hs, hpage⟩ := List.mem_map.1 hpage
    obtain ⟨rfl, rfl⟩ := Prod.mk.inj hpage
    exact ⟨some s.name, [s], rfl, List.cons_subset.2 ⟨hs, List.nil_subset _⟩⟩

theorem storage_of_mem_repos {schema : Schema} {r : Model.Repository}
    (hr : r ∈ (Model.ofSchema schema).repos) :
    r.storage = (Model.ofSchema schema).storageOfEntity r.entity := by
  obtain ⟨declared, -, rfl⟩ := Model.mem_repos_ofSchema.1 hr
  rfl

/-- In place `i`, the service is handed a repository for the entity that the command constructs. -/
def ServerPage.HandsOver (page : ServerPage) (w : ServiceWiring) (i : Nat)
    (entity storage : String) : Prop :=
  ∃ repo ∈ page.repos, repo.entity = entity ∧ repo.storage = storage ∧
    w.args[i]? = some repo.var ∧ repo.var ≠ "nil"

theorem handsOver_iff {h : Header} {owner : Option String} {s : Model.Service} {i : Nat}
    (hi : s.repoEntities[i]? = some entity) {storage : String} :
    (serverPage h model owner services).HandsOver (serviceWiring (repoWirings model services) s) i
        entity storage ↔
      entity ∈ readEntities model services ∧ Declared model entity ∧
        model.storageOfEntity entity = storage := by
  constructor
  · rintro ⟨repo, hrepo, rfl, rfl, -, -⟩
    obtain ⟨hread, hdeclared, hstorage⟩ := mem_repoWirings.1 hrepo
    exact ⟨hread, hdeclared, hstorage.symm⟩
  · rintro ⟨hread, hdeclared, hstorage⟩
    have hrepo : ⟨entity, storage⟩ ∈ repoWirings model services :=
      mem_repoWirings.2 ⟨hread, hdeclared, hstorage.symm⟩
    refine ⟨_, hrepo, rfl, rfl, ?_, RepoWiring.var_ne_nil _⟩
    rw [getElem?_args hi, find?_repoWirings hrepo]

/-- A service is handed the repository that it asks for exactly if one is declared in the exported
spelling, with the same storage, and the spelling is that of some name in the services. That is so
if the repository is declared in that spelling itself. -/
theorem handsOver_stored_iff (h : Header) (layout : Layout) (schema : Schema) {path : String}
    {page : ServerPage} (hpage : (path, page) ∈ servers h layout (Model.ofSchema schema))
    {k : Nat} {s : Model.Service} (hs : page.services[k]? = some s) {w : ServiceWiring}
    (hw : page.wiring[k]? = some w) {i : Nat} {entity : String}
    (hi : s.repoEntities[i]? = some entity) {r : Model.Repository}
    (hr : r ∈ (Model.ofSchema schema).repos) (hstored : r.isDto = false)
    (hname : Name.exported r.entity = entity) :
    (page.HandsOver w i entity r.storage ↔
      Declared (Model.ofSchema schema) entity ∧
        (∃ name, Mentions page.services name ∧ Name.exported name = entity) ∧
        (Model.ofSchema schema).storageOfEntity entity = r.storage) ∧
      (r.entity = entity → page.HandsOver w i entity r.storage) := by
  obtain ⟨owner, services, rfl, hordered⟩ := exists_of_mem_servers hpage
  have hmem : s ∈ services := List.mem_of_getElem? hs
  have hwiring : w = serviceWiring (repoWirings (Model.ofSchema schema) services) s := by
    have hmap : (services.map
        (serviceWiring (repoWirings (Model.ofSchema schema) services)))[k]? = some w := hw
    rw [List.getElem?_map, show services[k]? = some s from hs] at hmap
    exact (Option.some.inj hmap).symm
  have hheld : entity ∈ s.repoEntities := List.mem_of_getElem? hi
  -- What a service holds is never a transfer object, so the command does not pass over it as one.
  have hnotDto : ¬ (Model.ofSchema schema).NamesDto entity :=
    ((Model.mem_repoEntities (mem_services_of_mem_ordered (hordered hmem))).1 hheld).2
  have hiff : (serverPage h (Model.ofSchema schema) owner services).HandsOver w i entity r.storage ↔
      Declared (Model.ofSchema schema) entity ∧
        (∃ name, Mentions services name ∧ Name.exported name = entity) ∧
        (Model.ofSchema schema).storageOfEntity entity = r.storage := by
    rw [hwiring, handsOver_iff hi, mem_readEntities, and_iff_left hnotDto]
    exact and_left_comm
  refine ⟨hiff, fun hspelled => hiff.2 ⟨⟨r, hr, hstored, hspelled⟩, ?_, ?_⟩⟩
  · exact ⟨entity, ⟨s, hmem, .inr hheld⟩, hspelled ▸ hname⟩
  · rw [← hspelled, storage_of_mem_repos hr]

def documentShop (entity : String) : Schema :=
  { entities := [{ name := entity, metadata := [("storage", .str "mongo")] }]
    repos := [{ name := "OrderItemRepository", entity }]
    services := [{ name := "Orders", methods := [{ name := "Do", sources := [{ entity }] }] }] }

theorem exists_server_of_single {h : Header} {s : Model.Service}
    (hs : orderedServices model = [s]) :
    ∃ path page, (path, page) ∈ servers h .monolith model ∧ page.services[0]? = some s ∧
      page.wiring[0]? = some (serviceWiring (repoWirings model [s]) s) := by
  refine ⟨"cmd/server/main.go", serverPage h model none [s], ?_, rfl, rfl⟩
  rw [servers, hs]
  exact List.mem_singleton_self _

theorem handsOver_documentShop : ∃ path page s w r,
    (path, page) ∈ servers ⟨"shop", {}⟩ .monolith (Model.ofSchema (documentShop "OrderItem")) ∧
      page.services[0]? = some s ∧ page.wiring[0]? = some w ∧ s.repoEntities[0]? =
      some "OrderItem" ∧ r ∈ (Model.ofSchema (documentShop "OrderItem")).repos ∧ r.isDto = false ∧
      Name.exported r.entity = "OrderItem" ∧ r.storage = "mongo" ∧
      page.HandsOver w 0 "OrderItem" r.storage := by
  obtain ⟨s, hservices, hs⟩ : ∃ s,
      orderedServices (Model.ofSchema (documentShop "OrderItem")) = [s] ∧
        s.repoEntities = ["OrderItem"] := List.map_eq_singleton_iff.1 (by decide +kernel)
  obtain ⟨r, hrepos, hr⟩ : ∃ r, (Model.ofSchema (documentShop "OrderItem")).repos = [r] ∧
      (r.isDto, r.entity, r.storage) = (false, "OrderItem", "mongo") :=
    List.map_eq_singleton_iff.1 (by decide +kernel)
  simp only [Prod.mk.injEq] at hr
  obtain ⟨hstored, hentity, hstorage⟩ := hr
  obtain ⟨path, page, hpage, hfirst, hwiring⟩ := exists_server_of_single hservices
  have hi : s.repoEntities[0]? = some "OrderItem" := by rw [hs]; rfl
  have hr : r ∈ (Model.ofSchema (documentShop "OrderItem")).repos := by
    rw [hrepos]
    exact List.mem_singleton_self r
  have hname : Name.exported r.entity = "OrderItem" := by rw [hentity]; decide +kernel
  refine ⟨path, page, s, _, r, hpage, hfirst, hwiring, hi, hr, hstored, hname, hstorage, ?_⟩
  exact (handsOver_stored_iff _ _ _ hpage hfirst hwiring hi hr hstored hname).2 hentity

/-- A service that asks for a stored entity is handed nothing if the entity and its repository are
declared in another than the exported spelling. -/
theorem handed_nil_of_spelling : ∃ path page s w r,
    (path, page) ∈ servers ⟨"shop", {}⟩ .monolith (Model.ofSchema (documentShop "order_item")) ∧
      page.services[0]? = some s ∧ page.wiring[0]? = some w ∧ s.repoEntities[0]? =
      some "OrderItem" ∧ r ∈ (Model.ofSchema (documentShop "order_item")).repos ∧ r.isDto = false ∧
      Name.exported r.entity = "OrderItem" ∧ w.args[0]? = some "nil" := by
  obtain ⟨s, hservices, hs⟩ : ∃ s,
      orderedServices (Model.ofSchema (documentShop "order_item")) = [s] ∧
        s.repoEntities = ["OrderItem"] := List.map_eq_singleton_iff.1 (by decide +kernel)
  obtain ⟨r, hrepos, hr⟩ : ∃ r, (Model.ofSchema (documentShop "order_item")).repos = [r] ∧
      (r.isDto, r.entity) = (false, "order_item") := List.map_eq_singleton_iff.1 (by decide +kernel)
  simp only [Prod.mk.injEq] at hr
  obtain ⟨hstored, hentity⟩ := hr
  obtain ⟨path, page, hpage, hfirst, hwiring⟩ := exists_server_of_single hservices
  have hi : s.repoEntities[0]? = some "OrderItem" := by rw [hs]; rfl
  have hnone : (repoWirings (Model.ofSchema (documentShop "order_item")) [s]).find?
      (fun w => w.entity == "OrderItem") = none := by
    rw [List.find?_eq_none]
    rintro w hw hfound
    obtain ⟨-, ⟨r', hr', -, hspelled⟩, -⟩ := mem_repoWirings.1 hw
    rw [hrepos, List.mem_singleton] at hr'
    rw [beq_iff_eq, ← hspelled, hr', hentity] at hfound
    exact absurd hfound (by decide)
  refine ⟨path, page, s, _, r, hpage, hfirst, hwiring, hi, ?_, hstored, ?_, ?_⟩
  · exact hrepos ▸ List.mem_singleton_self r
  · rw [hentity]
    decide +kernel
  · rw [getElem?_args hi, hnone]

end GoScaffold.Artifact
