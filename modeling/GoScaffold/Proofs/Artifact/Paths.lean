import GoScaffold.Emission
import GoScaffold.Proofs.Artifact.Layouts
import GoScaffold.Proofs.Model.Reordering
import Mathlib.Data.List.Forall2

/-! Where artifacts go: a directory for each family, and in it files that are named after what they
are for. Families that do not share a directory cannot meet; for those that do, it is said when two
files would have one name. -/

namespace GoScaffold

theorem Family.mem_all (f : Family) : f ∈ Family.all := by
  cases f <;> decide

namespace Artifact

def directory : Family → String
  | .domain | .events => domainDir ++ "/"
  | .dto => dtoDir ++ "/"
  | .servicePorts | .repositoryPorts | .repoMocks => portDir ++ "/"
  | .serviceImpls | .cachedServices => Override.serviceDir ++ "/"
  | .mongoRepos | .mongoHelpers => mongoDir ++ "/"
  | .stubRepos => memoryDir ++ "/"
  | .contractTests => "tests/"
  | .serviceMain => "cmd/"

def documentRepos (model : Model) : List (Model.Repository × Model.Entity) :=
  ((persisted model).filter fun r => r.storage == "mongo").filterMap (withEntity model)

def stems (layout : Layout) (model : Model) : Family → List String
  | .domain => (model.entities.filter fun e => !e.fields.isEmpty).map fun e => fileStem e.name
  | .dto => (model.entities.filter fun e => !e.dtoFields.isEmpty).map fun e => fileStem e.name
  | .events => ["events"]
  | .servicePorts | .serviceImpls => model.services.map fun s => fileStem s.name
  | .cachedServices => model.services.map fun s => fileStem s.name ++ "_cached"
  | .repositoryPorts => (persisted model).map fun r => fileStem r.name
  | .repoMocks => (persisted model).map fun r => "mock_" ++ fileStem r.entity ++ "_test"
  | .mongoRepos => (documentRepos model).map fun q => fileStem q.1.name
  | .mongoHelpers => if model.hasMongoEntities then ["helpers"] else []
  | .stubRepos => ((persisted model).filterMap (withEntity model)).map fun q => fileStem q.1.name
  | .contractTests => ["contract/contract_test"]
  | .serviceMain =>
    match layout with
    | .monolith => ["server/main"]
    | .microservices =>
      (orderedServices model).map fun s => "services/" ++ fileStem s.name ++ "/main"

def filePath (family : Family) (stem : String) : String := directory family ++ stem ++ ".go"

def paths (layout : Layout) (model : Model) (family : Family) : List String :=
  (stems layout model family).map (filePath family)

/-- Whatever files there are, the step makes its artifact for the path, if it makes one. -/
def Job.GoesTo (job : Job) (path : String) : Prop := ∀ tree a, job.make tree = .ok a → a.path = path

theorem goesTo_job {a : Artifact} {path : String} (h : a.path = path) : (job a).GoesTo path := by
  intro tree made hmade
  exact Except.ok.inj hmade ▸ h

theorem forall₂_goesTo_map {α : Type} (subjects : List α) {make : α → Job} {stem : α → String}
    {family : Family} (h : ∀ x, (make x).GoesTo (filePath family (stem x))) :
    List.Forall₂ Job.GoesTo (subjects.map make) ((subjects.map stem).map (filePath family)) := by
  rw [List.map_map, List.forall₂_map_left_iff, List.forall₂_map_right_iff, List.forall₂_same]
  exact fun x _ => h x

/-! Some paths are put together from other parts than a directory, a name and the ending. -/

theorem path_events : domainDir ++ "/events.go" = filePath .events "events" := by decide

theorem path_helpers : mongoDir ++ "/helpers.go" = filePath .mongoHelpers "helpers" := by decide

theorem path_cached (stem : String) : Override.serviceDir ++ "/" ++ stem ++ "_cached.go" =
    filePath .cachedServices (stem ++ "_cached") := by
  have hending : "_cached.go" = "_cached" ++ ".go" := by decide
  simp only [filePath, directory, hending, String.append_assoc]

theorem path_mock (stem : String) : portDir ++ "/mock_" ++ stem ++ "_test.go" =
    filePath .repoMocks ("mock_" ++ stem ++ "_test") := by
  have hbeginning : "/mock_" = "/" ++ "mock_" := by decide
  have hending : "_test.go" = "_test" ++ ".go" := by decide
  simp only [filePath, directory, hbeginning, hending, String.append_assoc]

theorem path_main (stem : String) : "cmd/services/" ++ stem ++ "/main.go" =
    filePath .serviceMain ("services/" ++ stem ++ "/main") := by
  have hbeginning : "cmd/services/" = "cmd/" ++ "services/" := by decide
  have hending : "/main.go" = "/main" ++ ".go" := by decide
  simp only [filePath, directory, hbeginning, hending, String.append_assoc]

theorem forall₂_goesTo (e : Emitter) (model : Model) (family : Family) :
    List.Forall₂ Job.GoesTo (e.jobs model family) (paths e.layout model family) := by
  have hone {a : Artifact} {stem : String} (h : a.path = filePath family stem) :
      List.Forall₂ Job.GoesTo [job a] ([stem].map (filePath family)) :=
    .cons (goesTo_job h) .nil
  cases family with
  | domain | dto | servicePorts | repositoryPorts | stubRepos =>
    show List.Forall₂ _ (List.map job (List.map _ _)) _
    rw [List.map_map]
    exact forall₂_goesTo_map _ fun _ => goesTo_job rfl
  | serviceImpls =>
    apply forall₂_goesTo_map
    intro s tree a ha
    exact Except.ok.inj ha ▸ rfl
  | mongoRepos =>
    apply forall₂_goesTo_map
    rintro ⟨repo, entity⟩ tree a ha
    cases hpage : mongoPage e.header repo entity with
    | error fault =>
      simp only [hpage, bind, Except.bind] at ha
      cases ha
    | ok page =>
      simp only [hpage, bind, Except.bind, pure, Except.pure, Except.ok.injEq] at ha
      exact ha ▸ rfl
  | events => exact hone path_events
  | contractTests => exact hone (show "tests/contract/contract_test.go" = _ by decide)
  | mongoHelpers =>
    show List.Forall₂ _ (List.map job (mongoHelpers e.header model)) (List.map _ (stems _ _ _))
    rw [mongoHelpers, stems]
    cases model.hasMongoEntities with
    | false => exact .nil
    | true => exact hone path_helpers
  | cachedServices =>
    show List.Forall₂ _ (List.map job (List.map _ _)) _
    rw [List.map_map]
    exact forall₂_goesTo_map _ fun s => goesTo_job (path_cached _)
  | repoMocks =>
    show List.Forall₂ _ (List.map job (List.map _ _)) _
    rw [List.map_map]
    exact forall₂_goesTo_map _ fun r => goesTo_job (path_mock _)
  | serviceMain =>
    show List.Forall₂ _ (List.map job (List.map _ (servers e.header e.layout model)))
      (List.map _ (stems e.layout model .serviceMain))
    cases e.layout with
    | monolith => exact hone (show "cmd/server/main.go" = _ by decide)
    | microservices =>
      show List.Forall₂ _ (List.map job (List.map _ (List.map _ _))) _
      rw [List.map_map, List.map_map]
      exact forall₂_goesTo_map _ fun s => goesTo_job (path_main _)

theorem forall₂_goesTo_flatMap (e : Emitter) (model : Model) (families : List Family) :
    List.Forall₂ Job.GoesTo (families.flatMap (e.jobs model))
      (families.flatMap (paths e.layout model)) := by
  induction families with
  | nil => exact .nil
  | cons f families ih =>
    rw [List.flatMap_cons, List.flatMap_cons]
    exact List.rel_append (forall₂_goesTo e model f) ih

/-! Families in different directories have no path in common. -/

theorem directory_not_prefix {f g : Family} (h : directory f ≠ directory g) :
    ¬ (directory f).toList <+: (directory g).toList := by
  have hall : ∀ f ∈ Family.all, ∀ g ∈ Family.all, directory f ≠ directory g →
      ¬ (directory f).toList <+: (directory g).toList := by
    decide +kernel
  exact hall f f.mem_all g g.mem_all h

theorem directory_prefix_filePath (f : Family) (stem : String) :
    (directory f).toList <+: (filePath f stem).toList := by
  rw [filePath, String.append_assoc, String.toList_append]
  exact List.prefix_append _ _

theorem filePath_ne {f g : Family} (h : directory f ≠ directory g) (stem other : String) :
    filePath f stem ≠ filePath g other := by
  intro heq
  have hf : (directory f).toList <+: (filePath f stem).toList := directory_prefix_filePath f stem
  have hg : (directory g).toList <+: (filePath f stem).toList :=
    heq ▸ directory_prefix_filePath g other
  rcases List.prefix_or_prefix_of_prefix hf hg with hprefix | hprefix
  · exact directory_not_prefix h hprefix
  · exact directory_not_prefix h.symm hprefix

theorem filePath_eq_iff {f g : Family} (h : directory f = directory g) {stem other : String} :
    filePath f stem = filePath g other ↔ stem = other := by
  rw [filePath, filePath, h, String.append_left_inj, String.append_right_inj]

def neighbours : List (Family × Family) :=
  [(.domain, .events), (.servicePorts, .repositoryPorts), (.servicePorts, .repoMocks),
    (.repositoryPorts, .repoMocks), (.serviceImpls, .cachedServices), (.mongoRepos, .mongoHelpers)]

variable {layout : Layout} {model : Model}

theorem nodup_paths {f : Family} :
    (paths layout model f).Nodup ↔ (stems layout model f).Nodup :=
  List.nodup_map_iff fun _ _ h => (filePath_eq_iff rfl).1 h

theorem disjoint_paths {f g : Family} (h : directory f = directory g) :
    (paths layout model f).Disjoint (paths layout model g) ↔
      (stems layout model f).Disjoint (stems layout model g) := by
  simp only [List.disjoint_left, paths, List.mem_map, not_exists, not_and]
  constructor
  · intro hdisjoint stem hf hg
    exact hdisjoint ⟨stem, hf, rfl⟩ stem hg (filePath_eq_iff h.symm |>.2 rfl)
  · rintro hdisjoint _ ⟨stem, hf, rfl⟩ other hg heq
    exact hdisjoint hf ((filePath_eq_iff h.symm).1 heq ▸ hg)

theorem disjoint_paths_of_ne {f g : Family} (h : directory f ≠ directory g) :
    (paths layout model f).Disjoint (paths layout model g) := by
  simp only [List.disjoint_left, paths, List.mem_map, not_exists, not_and]
  rintro _ ⟨stem, -, rfl⟩ other - heq
  exact filePath_ne h.symm other stem heq

theorem nodup_flatMap_paths : (Family.all.flatMap (paths layout model)).Nodup ↔
    (∀ f, (stems layout model f).Nodup) ∧
      ∀ pair ∈ neighbours, (stems layout model pair.1).Disjoint (stems layout model pair.2) := by
  have hneighbours : ∀ f ∈ Family.all, ∀ g ∈ Family.all, [f, g].Sublist Family.all →
      directory f = directory g → (f, g) ∈ neighbours := by
    decide +kernel
  have hshared : ∀ pair ∈ neighbours,
      [pair.1, pair.2].Sublist Family.all ∧ directory pair.1 = directory pair.2 := by
    decide +kernel
  rw [List.nodup_flatMap, List.pairwise_iff_forall_sublist]
  refine and_congr ?_ ?_
  · exact ⟨fun h f => nodup_paths.1 (h f f.mem_all), fun h f _ => nodup_paths.2 (h f)⟩
  · constructor
    · intro h pair hpair
      obtain ⟨hsub, hdir⟩ := hshared pair hpair
      exact (disjoint_paths hdir).1 (h hsub)
    · intro h f g hsub
      by_cases hdir : directory f = directory g
      · exact (disjoint_paths hdir).2 (h _ (hneighbours f f.mem_all g g.mem_all hsub hdir))
      · exact disjoint_paths_of_ne hdir

end Artifact

end GoScaffold
