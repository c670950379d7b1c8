import GoScaffold.Emission
import GoScaffold.Proofs.Artifact.Wiring

/-! Entities that are only transferred. No repository is generated for one. Services and commands
leave out the names of such entities as they are declared, but ask for repositories in exported
spelling, so that a name in another spelling gets through. -/

namespace GoScaffold.Artifact

variable {schema : Schema} {model : Model}

/-! Artifacts of repositories. -/

theorem get?_told_repo {h : Header} {repo : Json} {more : List (String × Json)} :
    (h.told (("repo", repo) :: more)).get? "repo" = some repo := by
  simp [Header.told, Header.entries, Stamp.entries, Json.get?, List.lookup_cons]

theorem mem_persisted {repo : Model.Repository} :
    repo ∈ persisted model ↔ repo ∈ model.repos ∧ repo.isDto = false := by
  simp [persisted]

theorem mem_of_mem_withEntity {repos : List Model.Repository} {repo : Model.Repository}
    {entity : Model.Entity} (h : (repo, entity) ∈ repos.filterMap (withEntity model)) :
    repo ∈ repos := by
  obtain ⟨r, hr, hfound⟩ := List.mem_filterMap.1 h
  obtain ⟨e, -, heq⟩ := Option.map_eq_some_iff.1 hfound
  exact (Prod.mk.inj heq).1 ▸ hr

theorem repo_of_mongoPage {h : Header} {repo : Model.Repository} {entity : Model.Entity}
    {page : MongoPage} (hpage : mongoPage h repo entity = .ok page) : page.repo = repo := by
  unfold mongoPage at hpage
  cases hfinders : repo.finders.mapM (MongoFinder.of repo) with
  | error fault =>
    rw [hfinders] at hpage
    cases hpage
  | ok finders =>
    rw [hfinders] at hpage
    cases hpage
    rfl

theorem exists_repo_of_make (e : Emitter) {family : Family}
    (hfamily : family ∈ [Family.repositoryPorts, .repoMocks, .stubRepos, .mongoRepos]) {job : Job}
    (hjob : job ∈ e.jobs model family) {tree : FileTree} {a : Artifact}
    (ha : job.make tree = .ok a) :
    ∃ repo ∈ persisted model, a.given.get? "repo" = some repo.toJson := by
  simp only [List.mem_cons, List.not_mem_nil, or_false] at hfamily
  rcases hfamily with rfl | rfl | rfl | rfl
  · obtain ⟨made, hmade, rfl⟩ := List.mem_map.1 hjob
    obtain ⟨repo, hrepo, rfl⟩ := List.mem_map.1 hmade
    cases ha
    exact ⟨repo, hrepo, get?_told_repo⟩
  · obtain ⟨made, hmade, rfl⟩ := List.mem_map.1 hjob
    obtain ⟨repo, hrepo, rfl⟩ := List.mem_map.1 hmade
    cases ha
    exact ⟨repo, hrepo, get?_told_repo⟩
  · obtain ⟨made, hmade, rfl⟩ := List.mem_map.1 hjob
    obtain ⟨⟨repo, entity⟩, hrepo, rfl⟩ := List.mem_map.1 hmade
    cases ha
    exact ⟨repo, mem_of_mem_withEntity hrepo, get?_told_repo⟩
  · obtain ⟨⟨repo, entity⟩, hrepo, rfl⟩ := List.mem_map.1 hjob
    have hstored : repo ∈ persisted model := List.mem_of_mem_filter (mem_of_mem_withEntity hrepo)
    -- This one is not made at all if one of its finders cannot be served.
    cases hpage : mongoPage e.header repo entity with
    | error fault =>
      simp only [hpage, bind, Except.bind] at ha
      cases ha
    | ok page =>
      simp only [hpage, bind, Except.bind, pure, Except.pure, Except.ok.injEq] at ha
      subst ha
      exact ⟨repo, hstored, repo_of_mongoPage hpage ▸ get?_told_repo⟩

theorem isDto_of_entity (hunique : (schema.entities.map GoScaffold.Entity.name).Nodup)
    {d : GoScaffold.Entity} (hd : d ∈ schema.entities)
    (hdto : Model.hasFlag d.metadata "dto" = true)
    {repo : Model.Repository} (hrepo : repo ∈ (Model.ofSchema schema).repos)
    (hover : repo.entity = d.name) : repo.isDto = true := by
  obtain ⟨declared, -, rfl⟩ := Model.mem_repos_ofSchema.1 hrepo
  have hentity : (Model.ofSchema schema).entity? declared.entity = some (Model.ofEntity d) := by
    rw [show declared.entity = d.name from hover]
    exact Model.entity?_ofSchema hunique hd
  calc (Model.ofRepository (Model.ofSchema schema).entities declared).isDto
      = (((Model.ofSchema schema).entity? declared.entity).map Model.Entity.isDto).getD false := rfl
    _ = true := by
      rw [hentity]
      exact hdto

/-! Services and commands. -/

theorem mentions_mono {services more : List Model.Service} (hsub : services ⊆ more)
    {entity : String}
    (h : Mentions services entity) : Mentions more entity :=
  h.imp fun _ hs => ⟨hsub hs.1, hs.2⟩

theorem forall_not_mem_repoEntities_iff {entity : String} :
    (∀ s ∈ (Model.ofSchema schema).services, entity ∉ s.repoEntities) ↔
      (Model.ofSchema schema).NamesDto entity ∨
        ∀ s ∈ (Model.ofSchema schema).services, ∀ m ∈ s.methods, ¬ m.Reaches entity := by
  constructor
  · intro h
    rw [or_iff_not_imp_left]
    intro hstored s hs m hm hreaches
    exact h s hs ((Model.mem_repoEntities hs).2 ⟨⟨m, hm, hreaches⟩, hstored⟩)
  · rintro h s hs hmem
    obtain ⟨⟨m, hm, hreaches⟩, hstored⟩ := (Model.mem_repoEntities hs).1 hmem
    exact h.elim hstored fun hnone => hnone s hs m hm hreaches

theorem exists_server_of_mem {h : Header} {layout : Layout} {s : Model.Service}
    (hs : s ∈ orderedServices model) : ∃ path owner services, s ∈ services ∧
      (path, serverPage h model owner services) ∈ servers h layout model := by
  cases layout with
  | monolith => exact ⟨_, none, _, hs, List.mem_singleton_self _⟩
  | microservices => exact ⟨_, some s.name, [s], List.mem_singleton_self s, List.mem_map_of_mem hs⟩

theorem forall_repos_ne_iff {h : Header} {layout : Layout} {entity : String} :
    (∀ path page, (path, page) ∈ servers h layout model → ∀ w ∈ page.repos, w.entity ≠ entity) ↔
      model.NamesDto entity ∨ ¬ Declared model entity ∨
        ∀ name, Mentions (orderedServices model) name → Name.exported name ≠ entity := by
  constructor
  · intro hnone
    rw [or_iff_not_imp_left, or_iff_not_imp_left, not_not]
    rintro hstored hdeclared name ⟨s, hs, hmentions⟩ hname
    -- Some command has the service, whatever the layout, and constructs what the service mentions.
    obtain ⟨path, owner, services, hmem, hpage⟩ :
        ∃ path owner services, s ∈ services ∧
          (path, serverPage h model owner services) ∈ servers h layout model :=
      exists_server_of_mem hs
    have hread : entity ∈ readEntities model services :=
      mem_readEntities.2 ⟨⟨name, ⟨s, hmem, hmentions⟩, hname⟩, hstored⟩
    have hwired : ⟨entity, model.storageOfEntity entity⟩ ∈ repoWirings model services :=
      mem_repoWirings.2 ⟨hread, hdeclared, rfl⟩
    exact hnone path _ hpage _ hwired rfl
  · rintro h path page hpage w hw rfl
    obtain ⟨owner, services, rfl, hordered⟩ := exists_of_mem_servers hpage
    obtain ⟨hread, hdeclared, -⟩ := mem_repoWirings.1 hw
    obtain ⟨⟨name, hmentions, hname⟩, hstored⟩ := mem_readEntities.1 hread
    rcases h with hdto | hundeclared | hnone
    · exact hstored hdto
    · exact hundeclared hdeclared
    · exact hnone name (mentions_mono hordered hmentions) hname

/-- Nothing is generated for a repository over an entity that is only transferred. Its exported name
is kept out of services exactly if it names such an entity or no method reaches it, and out of
commands exactly if it names such an entity, has no repository, or is named by no service. -/
theorem dto_excluded_iff (hunique : (schema.entities.map GoScaffold.Entity.name).Nodup)
    {d : GoScaffold.Entity} (hd : d ∈ schema.entities)
    (hdto : Model.hasFlag d.metadata "dto" = true)
    (e : Emitter) (layout : Layout) :
    ((∀ s ∈ (Model.ofSchema schema).services, Name.exported d.name ∉ s.repoEntities) ↔
      (Model.ofSchema schema).NamesDto (Name.exported d.name) ∨
        ∀ s ∈ (Model.ofSchema schema).services, ∀ m ∈
          s.methods, ¬ m.Reaches (Name.exported d.name)) ∧
    ((∀ path page, (path, page) ∈ servers e.header layout (Model.ofSchema schema) →
        ∀ w ∈ page.repos, w.entity ≠ Name.exported d.name) ↔
      (Model.ofSchema schema).NamesDto (Name.exported d.name) ∨
        ¬ Declared (Model.ofSchema schema) (Name.exported d.name) ∨
        ∀ name, Mentions (orderedServices (Model.ofSchema schema)) name →
          Name.exported name ≠ Name.exported d.name) ∧
    (∀ path page, (path, page) ∈ servers e.header layout (Model.ofSchema schema) →
      ∀ w ∈ page.repos, w.entity ≠ d.name) ∧
    ∀ family ∈ [Family.repositoryPorts, .repoMocks, .stubRepos, .mongoRepos],
      ∀ job ∈ e.jobs (Model.ofSchema schema) family, ∀ tree a, job.make tree = .ok a →
        ∃ repo ∈ (Model.ofSchema schema).repos, a.given.get? "repo" = some repo.toJson ∧
          repo.entity ≠ d.name := by
  have hnamed : (Model.ofSchema schema).NamesDto d.name :=
    ⟨_, Model.mem_entities_ofSchema.2 ⟨d, hd, rfl⟩, hdto, rfl⟩
  refine ⟨forall_not_mem_repoEntities_iff, forall_repos_ne_iff, ?_, ?_⟩
  · exact forall_repos_ne_iff.2 (.inl hnamed)
  · intro family hfamily job hjob tree a ha
    obtain ⟨repo, hrepo, hgiven⟩ := exists_repo_of_make e hfamily hjob ha
    obtain ⟨hmem, hstored⟩ := mem_persisted.1 hrepo
    refine ⟨repo, hmem, hgiven, fun hover => ?_⟩
    rw [isDto_of_entity hunique hd hdto hmem hover] at hstored
    cases hstored

def reporting (entity : String) : Schema :=
  { entities := [{ name := entity, metadata := [("dto", .bool true)] }]
    repos := [{ name := "Reports", entity }]
    services := [{ name := "Orders", methods := [{ name := "Do", sources := [{ entity }] }] }] }

theorem dto_excluded_reporting :
    ((reporting "OrderReport").entities.map GoScaffold.Entity.name).Nodup ∧
    (∀ s ∈ (Model.ofSchema (reporting "OrderReport")).services, "OrderReport" ∉ s.repoEntities) ∧
    (∀ path page, (path, page) ∈ servers (Emitter.ofSettings {} {}).header .microservices
      (Model.ofSchema (reporting "OrderReport")) → ∀ w ∈ page.repos, w.entity ≠ "OrderReport") ∧
    ∀ family ∈ [Family.repositoryPorts, .repoMocks, .stubRepos, .mongoRepos],
      ∀ job ∈ (Emitter.ofSettings {} {}).jobs (Model.ofSchema (reporting "OrderReport")) family,
        ∀ tree a, job.make tree = .ok a →
          ∃ repo ∈ (Model.ofSchema (reporting "OrderReport")).repos,
            a.given.get? "repo" = some repo.toJson ∧ repo.entity ≠ "OrderReport" := by
  have hunique : ((reporting "OrderReport").entities.map GoScaffold.Entity.name).Nodup :=
    List.nodup_singleton _
  have hname : Name.exported "OrderReport" = "OrderReport" := by decide +kernel
  have hnamed : (Model.ofSchema (reporting "OrderReport")).NamesDto (Name.exported "OrderReport") :=
    ⟨_, Model.mem_entities_ofSchema.2 ⟨_, List.mem_singleton_self _, rfl⟩, rfl, hname.symm⟩
  obtain ⟨hservices, -, hservers, hjobs⟩ := dto_excluded_iff hunique (List.mem_singleton_self _) rfl
    (Emitter.ofSettings {} {}) .microservices
  refine ⟨hunique, ?_, hservers, hjobs⟩
  rw [← hname]
  exact hservices.2 (.inl hnamed)

/-- A transfer object that is declared in another than the exported spelling is taken for a stored
entity. -/
theorem dto_held_by_spelling :
    ((reporting "order_report").entities.map GoScaffold.Entity.name).Nodup ∧
    ∃ d ∈ (reporting "order_report").entities, Model.hasFlag d.metadata "dto" = true ∧
      ∃ s ∈ (Model.ofSchema (reporting "order_report")).services,
        Name.exported d.name ∈ s.repoEntities := by
  refine ⟨List.nodup_singleton _, _, List.mem_singleton_self _, rfl, ?_⟩
  obtain ⟨s, hservices, hs⟩ : ∃ s, (Model.ofSchema (reporting "order_report")).services = [s] ∧
      s.repoEntities = ["OrderReport"] := List.map_eq_singleton_iff.1 (by decide +kernel)
  have hname : Name.exported "order_report" = "OrderReport" := by decide +kernel
  refine ⟨s, hservices ▸ List.mem_singleton_self s, ?_⟩
  rw [hs]
  exact List.mem_singleton.2 hname

end GoScaffold.Artifact
