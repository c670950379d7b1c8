import GoScaffold.Proofs.Artifact.AdapterTexts
import GoScaffold.Proofs.Artifact.TransferObjects
import GoScaffold.Proofs.Model.Reordering

/-! One set of methods for all artifacts of a repository. The interface and the mock go through the
method set; the adapters go through the standard methods and through finders of their own making.
All of them declare the same methods. -/

namespace GoScaffold

namespace Model

namespace Repository

variable {repo : Repository}

def Resolved (repo : Repository) : Prop :=
  ∀ f ∈ repo.finders, f.signature = .ofFinder repo.entity f.declared ""

def finderNames (repo : Repository) : List String :=
  repo.finders.map fun f => Name.exported f.declared.name

theorem mem_methods {m : QuerySignature} : m ∈ repo.methods ↔
    m ∈ QuerySignature.standardMethods repo.entity ∧ m.name ∉ repo.finderNames := by
  simp [methods, QuerySignature.standardBeside, finderNames]

theorem map_name_methodSet (hresolved : repo.Resolved) :
    repo.methodSet.map QuerySignature.name =
      repo.methods.map QuerySignature.name ++ repo.finderNames := by
  rw [methodSet, List.map_append, List.map_map, finderNames]
  congr 1
  apply List.map_congr_left
  intro f hf
  rw [Function.comp_apply, hresolved f hf]
  rfl

theorem nodup_map_name_methodSet (hresolved : repo.Resolved) (hdistinct : repo.finderNames.Nodup) :
    (repo.methodSet.map QuerySignature.name).Nodup := by
  have hmethods : (repo.methods.map QuerySignature.name).Nodup := by
    have hsublist : repo.methods.Sublist (QuerySignature.standardMethods repo.entity) :=
      List.filter_sublist
    apply (hsublist.map QuerySignature.name).nodup
    show ["Save", "FindByID", "ListAll", "Delete"].Nodup
    decide
  rw [map_name_methodSet hresolved]
  apply hmethods.append hdistinct
  intro name hname hfinder
  obtain ⟨m, hm, rfl⟩ := List.mem_map.1 hname
  exact (mem_methods.1 hm).2 hfinder

theorem count_standard_methodSet (hresolved : repo.Resolved) (hdistinct : repo.finderNames.Nodup)
    {name : String} (hname : name ∈ ["Save", "FindByID", "ListAll", "Delete"]) :
    (repo.methodSet.map QuerySignature.name).count name = 1 := by
  apply List.count_eq_one_of_mem (nodup_map_name_methodSet hresolved hdistinct)
  rw [map_name_methodSet hresolved, List.mem_append]
  by_cases hfinder : name ∈ repo.finderNames
  · exact .inr hfinder
  · -- no finder replaces it, so the standard method of this name is there
    obtain ⟨m, hm, rfl⟩ :
        ∃ m ∈ QuerySignature.standardMethods repo.entity, m.name = name := List.mem_map.1 hname
    exact .inl (List.mem_map_of_mem (mem_methods.2 ⟨hm, hfinder⟩))

theorem count_signature_methodSet (hresolved : repo.Resolved) (hdistinct : repo.finderNames.Nodup)
    {f : Finder} (hf : f ∈ repo.finders) : repo.methodSet.count f.signature = 1 := by
  apply List.count_eq_one_of_mem (nodup_map_name_methodSet hresolved hdistinct).of_map
  exact List.mem_append_right _ (List.mem_map_of_mem hf)

theorem filter_finder_methodSet (hresolved : repo.Resolved) :
    repo.methodSet.filter (fun m => m.kind == .finder) = repo.finders.map Finder.signature := by
  have hstandard : repo.methods.filter (fun m => m.kind == .finder) = [] := by
    apply List.filter_eq_nil_iff.2
    intro m hm
    rcases Artifact.kind_cases (mem_methods.1 hm).1 with ⟨hk, -⟩ | ⟨hk, -⟩ | ⟨hk, -⟩ | ⟨hk, -⟩
    all_goals simp [hk]
  have hfinders : (repo.finders.map Finder.signature).filter (fun m => m.kind == .finder) =
      repo.finders.map Finder.signature := by
    apply List.filter_eq_self.2
    intro m hm
    obtain ⟨f, hf, rfl⟩ := List.mem_map.1 hm
    rw [hresolved f hf]
    rfl
  rw [methodSet, List.filter_append, hstandard, hfinders, List.nil_append]

end Repository

theorem resolved_ofRepository (entities : List Entity) (r : GoScaffold.Repository) :
    (ofRepository entities r).Resolved := by
  intro f hf
  obtain ⟨declared, -, rfl⟩ := List.mem_map.1 hf
  rfl

end Model

namespace Artifact

open Template

def bundledText (tree : FileTree) (a : Artifact) : Except Error String :=
  renderNamed tree none a.template a.path a.kit a.given

theorem bundledText_of_writes {tree : FileTree} {a : Artifact} {source out : String}
    {nodes : List Node} {after : Scope} (hsource : Bundled.template? a.template = some source)
    (hparse : parse? source = some nodes)
    (hwrites : Writes a.kit (Routine.callWithin a.kit callLimit) ⟨[[]], a.given⟩ nodes out after) :
    a.bundledText tree = .ok out := by
  have hload : load tree none a.template a.path = .ok source := by
    unfold load
    rw [hsource]
  exact renderNamed_of_writes hload hparse hwrites

variable {h : Header} {more : List (String × Json)}

theorem get?_told {key : String}
    (hkey : key ∉ ["module", "ang_version", "input_hash", "compiler_hash"]) :
    (h.told more).get? key = (Json.obj more).get? key := by
  simp only [List.mem_cons, List.not_mem_nil, or_false, not_or] at hkey
  simp [Header.told, Header.entries, Stamp.entries, Json.get?_obj_cons, hkey]

theorem stamped_told {i : Imports} (himports : (Json.obj more).get? "imports" = some i.toJson) :
    Stamped ⟨[[]], h.told more⟩ h i := by
  constructor
  case imports => rw [Scope.value_start, get?_told (by decide), himports]
  all_goals
    rw [Scope.value_start]
    simp [Header.told, Header.entries, Stamp.entries, Json.get?_obj_cons]

theorem value_told {key : String} {j : Json}
    (hkey : key ∉ ["module", "ang_version", "input_hash", "compiler_hash"])
    (hmore : (Json.obj more).get? key = some j) :
    (⟨[[]], h.told more⟩ : Scope).value key = some j := by
  rw [Scope.value_start, get?_told hkey, hmore]

variable {model : Model} {tree : FileTree}

theorem exists_writes_port {kit : HelperKit} {call : Caller} (p : RepositoryPage) : ∃ after,
    Writes kit call ⟨[[]], p.toJson h⟩ Bundled.repoPortNodes
      (portText h p.imports (Name.exported p.repo.entity) p.methods) after := by
  refine ⟨_, writes_port ?_ ?_ ?_⟩
  · exact stamped_told (by simp [Json.get?_obj_cons])
  · exact value_told (by decide) (by simp [Json.get?_obj_cons])
  · exact value_told (by decide) (by simp [Json.get?_obj_cons])

theorem exists_writes_mock {kit : HelperKit} {call : Caller} (p : RepositoryPage) : ∃ after,
    Writes kit call ⟨[[]], p.toJson h⟩ Bundled.mockRepoNodes
      (mockText h p.imports (Name.exported p.repo.entity) p.methods) after := by
  apply writes_mock
  · exact stamped_told (by simp [Json.get?_obj_cons])
  · exact value_told (by decide) (by simp [Json.get?_obj_cons])
  · exact value_told (by decide) (by simp [Json.get?_obj_cons])

theorem exists_writes_memory {kit : HelperKit} {call : Caller} (p : StubPage) : ∃ after,
    Writes kit call ⟨[[]], p.toJson h⟩ Bundled.stubRepoNodes
      (memoryText h p.imports (Name.exported p.repo.entity) (memoryDeclarations p)) after := by
  apply writes_memory
  · exact stamped_told (by simp [Json.get?_obj_cons])
  · exact value_told (by decide) (by simp [Json.get?_obj_cons])
  · exact value_told (by decide) (by simp [Json.get?_obj_cons])
  · exact value_told (by decide) (by simp [Json.get?_obj_cons])

theorem exists_writes_mongo {call : Caller} (p : MongoPage) : ∃ after,
    Writes .mongo call ⟨[[]], p.toJson h⟩ Bundled.mongoRepoNodes
      (mongoText h p.imports (Name.exported p.repo.entity) (mongoDeclarations p)) after := by
  apply writes_mongo
  · exact stamped_told (by simp [Json.get?_obj_cons])
  · exact value_told (by decide) (by simp [Json.get?_obj_cons])
  · exact value_told (by decide) (by simp [Json.get?_obj_cons])
  · exact value_told (by decide) (by simp [Json.get?_obj_cons])

theorem texts_repositoryPorts : (repositoryPorts h model).map (bundledText tree) =
    (persisted model).map fun r => .ok (portText h (repositoryPage h r).imports
      (Name.exported r.entity) r.methodSet) := by
  unfold repositoryPorts
  rw [List.map_map]
  apply List.map_congr_left
  intro r _
  rw [Function.comp_apply]
  have hsource : Bundled.template? Family.repositoryPorts.template = some Bundled.repoPort := rfl
  obtain ⟨after, hwrites⟩ := exists_writes_port (repositoryPage h r)
  exact bundledText_of_writes hsource Bundled.parse?_repoPort hwrites

theorem texts_repoMocks : (repoMocks h model).map (bundledText tree) =
    (persisted model).map fun r => .ok (mockText h (repositoryPage h r).imports
      (Name.exported r.entity) r.methodSet) := by
  unfold repoMocks
  rw [List.map_map]
  apply List.map_congr_left
  intro r _
  rw [Function.comp_apply]
  have hsource : Bundled.template? Family.repoMocks.template = some Bundled.mockRepo := rfl
  obtain ⟨after, hwrites⟩ := exists_writes_mock (repositoryPage h r)
  exact bundledText_of_writes hsource Bundled.parse?_mockRepo hwrites

theorem texts_stubRepos : (stubRepos h model).map (bundledText tree) =
    ((persisted model).filterMap (withEntity model)).map fun q =>
      .ok (memoryText h (stubPage h q.1 q.2).imports (Name.exported q.1.entity)
        (memoryDeclarations (stubPage h q.1 q.2))) := by
  unfold stubRepos
  rw [List.map_map]
  apply List.map_congr_left
  rintro ⟨r, entity⟩ -
  rw [Function.comp_apply]
  have hsource : Bundled.template? Family.stubRepos.template = some Bundled.stubRepo := rfl
  obtain ⟨after, hwrites⟩ := exists_writes_memory (stubPage h r entity)
  exact bundledText_of_writes hsource Bundled.parse?_stubRepo hwrites

theorem texts_mongoRepos :
    (mongoRepos h model).map (fun job => (job.make tree).bind (bundledText tree)) =
    (((persisted model).filter fun r => r.storage == "mongo").filterMap (withEntity model)).map
    fun q =>
      (mongoPage h q.1 q.2).map fun page => mongoText h page.imports (Name.exported q.1.entity)
        (mongoDeclarations page) := by
  unfold mongoRepos
  rw [List.map_map]
  apply List.map_congr_left
  rintro ⟨r, entity⟩ -
  rw [Function.comp_apply]
  have hsource : Bundled.template? Family.mongoRepos.template = some Bundled.mongoRepo := rfl
  cases hpage : mongoPage h r entity with
  | error fault => simp only [hpage, bind, Except.bind, Except.map]
  | ok page =>
    simp only [hpage, bind, Except.bind, pure, Except.pure, Except.map]
    obtain ⟨after, hwrites⟩ := exists_writes_mongo page
    rw [← repo_of_mongoPage hpage]
    exact bundledText_of_writes hsource Bundled.parse?_mongoRepo hwrites

/-! The declared methods. -/

variable {repo : Model.Repository} {entity : Model.Entity}

theorem signature_stubFinder (f : Model.Finder) :
    (StubFinder.of entity f).signature = f.signature := by
  unfold StubFinder.of
  split <;> rfl

theorem map_signature_memoryDeclarations :
    (memoryDeclarations (stubPage h repo entity)).map Declaration.signature = repo.methodSet := by
  have hfinders : (stubPage h repo entity).finders = repo.finders.map (StubFinder.of entity) := rfl
  unfold memoryDeclarations
  rw [hfinders, List.map_append, List.map_map, List.map_map, List.map_map,
    Model.Repository.methodSet]
  congr 1
  · exact List.map_id _
  · apply List.map_congr_left
    intro f _
    exact signature_stubFinder f

theorem exists_mongoFinder {f : Model.Finder} (hf : (FinderMode.of? f).isSome) :
    ∃ m, MongoFinder.of repo f = .ok m ∧ m.finder = f := by
  obtain ⟨mode, hmode⟩ := Option.isSome_iff_exists.1 hf
  unfold MongoFinder.of
  rw [hmode]
  exact ⟨_, rfl, rfl⟩

theorem exists_mongoFinders {finders : List Model.Finder}
    (hfinders : ∀ f ∈ finders, (FinderMode.of? f).isSome) :
    ∃ made, finders.mapM (MongoFinder.of repo) = .ok made ∧
      made.map MongoFinder.finder = finders := by
  induction finders with
  | nil => exact ⟨[], rfl, rfl⟩
  | cons f finders ih =>
    obtain ⟨m, hm, hfinder⟩ : ∃ m, MongoFinder.of repo f = .ok m ∧ m.finder = f :=
      exists_mongoFinder (hfinders f List.mem_cons_self)
    obtain ⟨made, hmade, hall⟩ := ih fun g hg => hfinders g (List.mem_cons_of_mem f hg)
    refine ⟨m :: made, ?_, ?_⟩
    · rw [List.mapM_cons, hm, hmade]
      rfl
    · rw [List.map_cons, hfinder, hall]

theorem exists_mongoPage (hfinders : ∀ f ∈ repo.finders, (FinderMode.of? f).isSome) :
    ∃ page, mongoPage h repo entity = .ok page ∧
      (mongoDeclarations page).map Declaration.signature = repo.methodSet := by
  obtain ⟨made, hmade, hall⟩ : ∃ made, repo.finders.mapM (MongoFinder.of repo) = .ok made ∧
      made.map MongoFinder.finder = repo.finders := exists_mongoFinders hfinders
  refine ⟨⟨repo, entity, made, mongoImports h repo made⟩, ?_, ?_⟩
  · unfold mongoPage
    rw [hmade]
    rfl
  · unfold mongoDeclarations
    rw [List.map_append, List.map_map, List.map_map, Model.Repository.methodSet,
      ← hall, List.map_map]
    congr 1
    exact List.map_id _

/-- The artifacts of repositories declare the method set. The texts of interfaces, mocks and
adapters are known word for word, and the methods in them are those of the set, in its order. No
name is declared twice, every standard method is there once, by itself or by a finder of its name,
and so is every finder, by increasing name. -/
theorem repositories_declare_methodSet (h : Header) (schema : Schema) (tree : FileTree)
    {repo : Model.Repository} (hrepo : repo ∈ persisted (Model.ofSchema schema))
    (hdistinct : repo.finderNames.Nodup) :
    (repositoryPorts h (Model.ofSchema schema)).map (bundledText tree) =
      (persisted (Model.ofSchema schema)).map (fun r => .ok (portText h (repositoryPage h r).imports
        (Name.exported r.entity) r.methodSet)) ∧
    (repoMocks h (Model.ofSchema schema)).map (bundledText tree) =
      (persisted (Model.ofSchema schema)).map (fun r => .ok (mockText h (repositoryPage h r).imports
        (Name.exported r.entity) r.methodSet)) ∧
    (stubRepos h (Model.ofSchema schema)).map (bundledText tree) =
      ((persisted (Model.ofSchema schema)).filterMap (withEntity (Model.ofSchema schema))).map
        (fun q => .ok (memoryText h (stubPage h q.1 q.2).imports (Name.exported q.1.entity)
          (memoryDeclarations (stubPage h q.1 q.2)))) ∧
    (mongoRepos h (Model.ofSchema schema)).map (fun job =>
      (job.make tree).bind (bundledText tree)) =
      (((persisted (Model.ofSchema schema)).filter fun r => r.storage == "mongo").filterMap
        (withEntity (Model.ofSchema schema))).map (fun q => (mongoPage h q.1 q.2).map fun page =>
          mongoText h page.imports (Name.exported q.1.entity) (mongoDeclarations page)) ∧
    (∀ entity, (memoryDeclarations (stubPage h repo entity)).map Declaration.signature =
      repo.methodSet) ∧
    ((∀ f ∈ repo.finders, (FinderMode.of? f).isSome) → ∀ entity, ∃ page,
      mongoPage h repo entity = .ok page ∧
        (mongoDeclarations page).map Declaration.signature = repo.methodSet) ∧
    (repo.methodSet.map QuerySignature.name).Nodup ∧
    (∀ name ∈ ["Save", "FindByID", "ListAll", "Delete"],
      (repo.methodSet.map QuerySignature.name).count name = 1) ∧
    ∃ r ∈ schema.repos, Model.ofRepository (Model.ofSchema schema).entities r = repo ∧
      (∀ f ∈ r.finders, repo.methodSet.count (.ofFinder r.entity f "") = 1) ∧
      ∃ finders : List Finder, finders.Perm r.finders ∧
        (finders.Pairwise fun f g => f.name ≤ g.name) ∧
        repo.methodSet.filter (fun m => m.kind == .finder) =
          finders.map fun f => .ofFinder r.entity f "" := by
  obtain ⟨r, hr, rfl⟩ := Model.mem_repos_ofSchema.1 (mem_persisted.1 hrepo).1
  have hresolved : (Model.ofRepository (Model.ofSchema schema).entities r).Resolved :=
    Model.resolved_ofRepository _ r
  refine ⟨texts_repositoryPorts, texts_repoMocks, texts_stubRepos, texts_mongoRepos,
    fun _ => map_signature_memoryDeclarations, fun hfinders _ => exists_mongoPage hfinders,
    Model.Repository.nodup_map_name_methodSet hresolved hdistinct,
    fun name hname => Model.Repository.count_standard_methodSet hresolved hdistinct hname,
    r, hr, rfl, ?_, Model.sortOn GoScaffold.Finder.name r.finders, Model.sortOn_perm _ _,
    Model.pairwise_sortOn _ _, ?_⟩
  · intro f hf
    have hmem : ⟨f, .ofFinder r.entity f ""⟩ ∈
        (Model.ofRepository (Model.ofSchema schema).entities r).finders :=
      List.mem_map_of_mem (Model.mem_sortOn.2 hf)
    exact Model.Repository.count_signature_methodSet hresolved hdistinct hmem
  · rw [Model.Repository.filter_finder_methodSet hresolved]
    exact List.map_map

def bookFinders : List Finder := [
  { name := "delete_old", action := "delete",
    conditions := [{ field := "published", op := "lt", param := "before", paramType := "time" }] },
  { name := "find_by_title", returns := "one",
    conditions := [{ param := "title", paramType := "string" }] },
  { name := "list_all", returns := "many", orderBy := "title desc", limit := 50 }]

def books : Repository := { name := "Books", entity := "Book", finders := bookFinders.reverse }

def catalogue : Schema :=
  { entities := [{ name := "Book", metadata := [("storage", .str "mongo")] }], repos := [books] }

theorem finders_books : (Model.ofRepository (Model.ofSchema catalogue).entities books).finders =
    bookFinders.map fun f => ⟨f, .ofFinder "Book" f ""⟩ := by
  have hsorted : Model.sortOn Finder.name books.finders = bookFinders :=
    (Model.sortOn_eq_of_perm (List.reverse_perm bookFinders) (by decide)).trans
      (Model.sortOn_eq_self (by decide))
  show (Model.sortOn Finder.name books.finders).map _ = _
  rw [hsorted]
  rfl

theorem repositories_declare_methodSet_catalogue :
    ∃ repo ∈ persisted (Model.ofSchema catalogue), repo.finderNames.Nodup ∧
      (∀ f ∈ repo.finders, (FinderMode.of? f).isSome) ∧
      repo.methodSet.map QuerySignature.name =
        ["Save", "FindByID", "Delete", "DeleteOld", "FindByTitle", "ListAll"] ∧
      (∀ name ∈ ["Save", "FindByID", "ListAll", "Delete"],
        (repo.methodSet.map QuerySignature.name).count name = 1) ∧
      ∀ entity, ∃ page, mongoPage ⟨"example.com/books", {}⟩ repo entity = .ok page ∧
        (mongoDeclarations page).map Declaration.signature = repo.methodSet := by
  have hrepo : Model.ofRepository (Model.ofSchema catalogue).entities books ∈
      persisted (Model.ofSchema catalogue) :=
    mem_persisted.2 ⟨Model.mem_repos_ofSchema.2 ⟨books, List.mem_singleton_self _, rfl⟩,
      by decide +kernel⟩
  have hdistinct :
      (Model.ofRepository (Model.ofSchema catalogue).entities books).finderNames.Nodup := by
    unfold Model.Repository.finderNames
    rw [finders_books]
    decide +kernel
  have hmodes : ∀ f ∈ (Model.ofRepository (Model.ofSchema catalogue).entities books).finders,
      (FinderMode.of? f).isSome := by
    rw [finders_books]
    decide +kernel
  obtain ⟨-, -, -, -, -, hmongo, -, hstandard, -⟩ := repositories_declare_methodSet
    ⟨"example.com/books", {}⟩ catalogue {} hrepo hdistinct
  refine ⟨_, hrepo, hdistinct, hmodes, ?_, hstandard, hmongo hmodes⟩
  unfold Model.Repository.methodSet Model.Repository.methods
  rw [finders_books]
  decide +kernel

end Artifact

end GoScaffold
