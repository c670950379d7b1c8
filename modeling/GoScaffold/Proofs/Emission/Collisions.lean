import GoScaffold.Proofs.Artifact.Paths
import GoScaffold.Proofs.Artifact.RepositoryMethods
import GoScaffold.Proofs.Emission.Prefix

/-! Artifacts that would overwrite each other. Names that are distinct in lower case keep the files
of a family apart, but not those of families that share a directory, and not the mocks, which are
named after entities while there is one for every repository. -/

namespace GoScaffold

/-- No two declarations of a kind have names that differ in nothing but case. -/
structure Schema.NamesApart (s : Schema) : Prop where
  entities : (s.entities.map fun e => Text.lower e.name).Nodup
  services : (s.services.map fun s => Text.lower s.name).Nodup
  repos : (s.repos.map fun r => Text.lower r.name).Nodup

namespace Artifact

/-- No two artifacts have names that lead to one path. -/
structure PathsApart (model : Model) : Prop where
  /-- The file of the events is not that of an entity. -/
  events : ∀ e ∈ model.entities, e.fields ≠ [] → fileStem e.name ≠ "events"
  /-- The interfaces of services and of repositories are in one directory. -/
  ports : ∀ s ∈ model.services, ∀ r ∈ persisted model, fileStem s.name ≠ fileStem r.name
  /-- So are the mocks of repositories, by the names of the entities. -/
  serviceMocks : ∀ s ∈ model.services, ∀ r ∈ persisted model,
    fileStem s.name ≠ "mock_" ++ fileStem r.entity ++ "_test"
  repoMocks : ∀ r ∈ persisted model, ∀ r' ∈ persisted model,
    fileStem r.name ≠ "mock_" ++ fileStem r'.entity ++ "_test"
  /-- No two repositories are over one entity. -/
  mocks : ((persisted model).map fun r => fileStem r.entity).Nodup
  /-- The cache of a service is not the implementation of another. -/
  caches : ∀ s ∈ model.services, ∀ t ∈ model.services, fileStem s.name ≠
      fileStem t.name ++ "_cached"
  /-- What repositories of documents share is not one of them. -/
  helpers : ∀ q ∈ documentRepos model, fileStem q.1.name ≠ "helpers"

variable {schema : Schema} {layout : Layout}

/-! Names that are distinct in lower case. -/

theorem nodup_stems_sortOn {α β : Type} {declared : List α} {name : α → String} {resolve : α → β}
    {key : β → String} (hkey : ∀ a, key (resolve a) = name a)
    (h : (declared.map fun a => Text.lower (name a)).Nodup) :
    ((Model.sortOn key (declared.map resolve)).map fun b => fileStem (key b)).Nodup := by
  have hperm := (Model.sortOn_perm key (declared.map resolve)).map fun b => fileStem (key b)
  have hstems : ((declared.map resolve).map fun b => fileStem (key b)) =
      declared.map fun a => Text.lower (name a) := by
    simp only [List.map_map, Function.comp_def, hkey, fileStem]
  exact hperm.nodup_iff.2 (hstems ▸ h)

theorem nodup_stems_entities (h : schema.NamesApart) :
    ((Model.ofSchema schema).entities.map fun e => fileStem e.name).Nodup :=
  nodup_stems_sortOn (fun _ => rfl) h.entities

theorem nodup_stems_services (h : schema.NamesApart) :
    ((Model.ofSchema schema).services.map fun s => fileStem s.name).Nodup :=
  nodup_stems_sortOn (fun _ => rfl) h.services

theorem nodup_stems_repos (h : schema.NamesApart) :
    ((Model.ofSchema schema).repos.map fun r => fileStem r.name).Nodup :=
  nodup_stems_sortOn (fun _ => rfl) h.repos

theorem withEntity_sublist (model : Model) (repos : List Model.Repository) :
    ((repos.filterMap (withEntity model)).map Prod.fst).Sublist repos := by
  induction repos with
  | nil => exact .slnil
  | cons r repos ih =>
    cases he : model.entity? r.entity with
    | none =>
      rw [List.filterMap_cons_none (by simp [withEntity, he])]
      exact ih.cons r
    | some e =>
      rw [List.filterMap_cons_some (b := (r, e)) (by simp [withEntity, he])]
      exact ih.cons_cons r

theorem nodup_stems_withEntity (h : schema.NamesApart) {repos : List Model.Repository}
    (hsub : repos.Sublist (persisted (Model.ofSchema schema))) :
    ((repos.filterMap (withEntity (Model.ofSchema schema))).map fun q =>
      fileStem q.1.name).Nodup := by
  have hall : repos.Sublist (Model.ofSchema schema).repos := hsub.trans List.filter_sublist
  have hstems := ((withEntity_sublist (Model.ofSchema schema) repos).trans hall).map
    fun r => fileStem r.name
  rw [List.map_map, Function.comp_def] at hstems
  exact (nodup_stems_repos h).sublist hstems

theorem nodup_stems_ordered (h : schema.NamesApart) :
    ((orderedServices (Model.ofSchema schema)).map fun s => fileStem s.name).Nodup := by
  have hnames : (orderedServices (Model.ofSchema schema)).Nodup := nodup_name_orderedServices.of_map
  apply List.Nodup.map_on _ hnames
  intro s hs t ht heq
  exact List.inj_on_of_nodup_map (nodup_stems_services h) (mem_services_of_mem_ordered hs)
    (mem_services_of_mem_ordered ht) heq

theorem nodup_map_injective {α : Type} {values : List α} {stem : α → String} {g : String → String}
    (hg : g.Injective) : (values.map fun a => g (stem a)).Nodup ↔ (values.map stem).Nodup := by
  rw [← List.nodup_map_iff (l := values.map stem) hg, List.map_map, Function.comp_def]

theorem injective_between (first last : String) :
    Function.Injective fun stem => first ++ stem ++ last := by
  intro x y h
  rwa [String.append_left_inj, String.append_right_inj] at h

theorem injective_before (last : String) : Function.Injective fun stem => stem ++ last := by
  intro x y h
  rwa [String.append_left_inj] at h

theorem nodup_stems (h : schema.NamesApart) {family : Family} (hfamily : family ≠ .repoMocks) :
    (stems layout (Model.ofSchema schema) family).Nodup := by
  cases family with
  | domain | dto => exact (nodup_stems_entities h).sublist (List.filter_sublist.map _)
  | events | contractTests => exact List.nodup_singleton _
  | servicePorts | serviceImpls => exact nodup_stems_services h
  | cachedServices => exact (nodup_map_injective (injective_before _)).2 (nodup_stems_services h)
  | repositoryPorts => exact (nodup_stems_repos h).sublist (List.filter_sublist.map _)
  | mongoRepos => exact nodup_stems_withEntity h List.filter_sublist
  | stubRepos => exact nodup_stems_withEntity h (.refl _)
  | mongoHelpers =>
    rw [stems]
    split
    · exact List.nodup_singleton _
    · exact List.nodup_nil
  | serviceMain =>
    cases layout with
    | monolith => exact List.nodup_singleton _
    | microservices =>
      exact (nodup_map_injective (injective_between _ _)).2 (nodup_stems_ordered h)
  | repoMocks => exact absurd rfl hfamily

theorem hasMongoEntities_of_documentRepos {q : Model.Repository × Model.Entity}
    (hq : q ∈ documentRepos (Model.ofSchema schema)) :
    (Model.ofSchema schema).hasMongoEntities = true := by
  obtain ⟨repo, hrepo, hfound⟩ := List.mem_filterMap.1 hq
  obtain ⟨hstored, hmongo⟩ := List.mem_filter.1 hrepo
  obtain ⟨hmem, hdto⟩ := mem_persisted.1 hstored
  obtain ⟨entity, hentity, -⟩ := Option.map_eq_some_iff.1 hfound
  obtain ⟨declared, -, rfl⟩ := Model.mem_repos_ofSchema.1 hmem
  have hisDto : (((Model.ofSchema schema).entity? declared.entity).map Model.Entity.isDto).getD
      false =
      false := hdto
  have hstorage : (((Model.ofSchema schema).entity? declared.entity).map Model.Entity.storage).getD
      Model.defaultStorage = "mongo" := beq_iff_eq.1 hmongo
  have hentity : (Model.ofSchema schema).entity? declared.entity = some entity := hentity
  rw [hentity] at hisDto hstorage
  rw [Model.hasMongoEntities, List.any_eq_true]
  refine ⟨entity, List.mem_of_find?_eq_some hentity, ?_⟩
  rw [Bool.and_eq_true, Bool.not_eq_true', beq_iff_eq]
  exact ⟨hisDto, hstorage⟩

theorem disjoint_map_map {α β : Type} {xs : List α} {ys : List β} {f : α → String}
    {g : β → String} :
    (xs.map f).Disjoint (ys.map g) ↔ ∀ x ∈ xs, ∀ y ∈ ys, f x ≠ g y := by
  simp only [List.disjoint_left, List.mem_map, not_exists, not_and]
  constructor
  · exact fun h x hx y hy heq => h ⟨x, hx, rfl⟩ y hy heq.symm
  · rintro h _ ⟨x, hx, rfl⟩ y hy heq
    exact h x hx y hy heq.symm

theorem disjoint_stems_events {model : Model} :
    (stems layout model .domain).Disjoint (stems layout model .events) ↔
      ∀ e ∈ model.entities, e.fields ≠ [] → fileStem e.name ≠ "events" := by
  simp [stems, List.disjoint_singleton]

theorem disjoint_stems_helpers : (stems layout (Model.ofSchema schema) .mongoRepos).Disjoint
      (stems layout (Model.ofSchema schema) .mongoHelpers) ↔
    ∀ q ∈ documentRepos (Model.ofSchema schema), fileStem q.1.name ≠ "helpers" := by
  constructor
  · intro hdisjoint q hq hname
    apply hdisjoint (a := "helpers") (List.mem_map.2 ⟨q, hq, hname⟩)
    rw [stems, if_pos (hasMongoEntities_of_documentRepos hq)]
    exact List.mem_singleton_self _
  · intro hne stem hrepo hhelpers
    obtain ⟨q, hq, rfl⟩ := List.mem_map.1 hrepo
    rw [stems] at hhelpers
    split at hhelpers
    · exact hne q hq (List.mem_singleton.1 hhelpers)
    · cases hhelpers

theorem forall_nodup_stems (h : schema.NamesApart) :
    (∀ f, (stems layout (Model.ofSchema schema) f).Nodup) ↔
      ((persisted (Model.ofSchema schema)).map fun r => fileStem r.entity).Nodup := by
  rw [← nodup_map_injective (injective_between "mock_" "_test")]
  refine ⟨fun hall => hall .repoMocks, fun hmocks f => ?_⟩
  by_cases hf : f = .repoMocks
  · exact hf ▸ hmocks
  · exact nodup_stems h hf

/-- For names that are distinct in lower case, the paths of all families are distinct just if no two
artifacts have names that lead to one path. -/
theorem nodup_paths_iff_pathsApart (h : schema.NamesApart) :
    (Family.all.flatMap (paths layout (Model.ofSchema schema))).Nodup ↔
      PathsApart (Model.ofSchema schema) := by
  rw [nodup_flatMap_paths, forall_nodup_stems h]
  constructor
  · rintro ⟨hmocks, hpairs⟩
    exact {
      events := disjoint_stems_events.1 (hpairs (.domain, .events) (by decide))
      ports := disjoint_map_map.1 (hpairs (.servicePorts, .repositoryPorts) (by decide))
      serviceMocks := disjoint_map_map.1 (hpairs (.servicePorts, .repoMocks) (by decide))
      repoMocks := disjoint_map_map.1 (hpairs (.repositoryPorts, .repoMocks) (by decide))
      mocks := hmocks
      caches := disjoint_map_map.1 (hpairs (.serviceImpls, .cachedServices) (by decide))
      helpers := disjoint_stems_helpers.1 (hpairs (.mongoRepos, .mongoHelpers) (by decide)) }
  · intro hapart
    refine ⟨hapart.mocks, ?_⟩
    simp only [neighbours, List.forall_mem_cons]
    exact ⟨disjoint_stems_events.2 hapart.events, disjoint_map_map.2 hapart.ports,
      disjoint_map_map.2 hapart.serviceMocks, disjoint_map_map.2 hapart.repoMocks,
      disjoint_map_map.2 hapart.caches, disjoint_stems_helpers.2 hapart.helpers,
      fun _ hnone => absurd hnone List.not_mem_nil⟩

end Artifact

namespace Emitter

open Artifact (Job)

/-- The paths for which a run asks to write an artifact, as far as the run comes. -/
def passed (e : Emitter) (stop : StopSignal) (p : Progress) : List Job → List String
  | [] => []
  | job :: rest =>
    match job.make p.tree, e.runJob (stop.isRaised p.report.size) p job with
    | .error _, _ => []
    | .ok a, (_, some _) => [a.path]
    | .ok a, (q, none) => a.path :: e.passed stop q rest

variable {e : Emitter} {stop : StopSignal} {p q : Progress} {jobs : List Job} {paths : List String}

theorem prefix_passed (h : List.Forall₂ Job.GoesTo jobs paths) :
    e.passed stop p jobs <+: paths := by
  induction h generalizing p with
  | nil => exact List.prefix_rfl
  | @cons job path jobs paths hjob _ ih =>
    rw [passed]
    split
    next => exact List.nil_prefix
    next a _ _ ha _ =>
      rw [hjob _ a ha]
      exact List.cons_prefix_cons.2 ⟨rfl, List.nil_prefix⟩
    next a q ha _ =>
      rw [hjob _ a ha]
      exact List.cons_prefix_cons.2 ⟨rfl, ih⟩

theorem passed_of_runJobs (h : List.Forall₂ Job.GoesTo jobs paths)
    (hrun : e.runJobs stop p jobs = (q, none)) : e.passed stop p jobs = paths := by
  induction h generalizing p with
  | nil => rfl
  | @cons job path jobs paths hjob _ ih =>
    rw [runJobs_cons] at hrun
    rcases hj : e.runJob (stop.isRaised p.report.size) p job with ⟨made, _ | fault⟩
    · rw [hj] at hrun
      obtain ⟨a, ha, -⟩ := runJob_eq_none hj
      rw [passed, hj, ha]
      exact congrArg₂ List.cons (hjob _ a ha) (ih hrun)
    · rw [hj] at hrun
      cases hrun

/-- In a run over all families, names that are distinct in lower case keep all paths apart just if
no two artifacts have names that lead to one path. This is exact for a run that succeeds; a run that
fails may do so before it comes to the second of two such artifacts. -/
theorem passed_nodup_iff (schema : Schema) (hnames : schema.NamesApart) (e : Emitter)
    (hall : e.families = none) (stop : StopSignal) (p : Progress) :
    (Artifact.PathsApart (Model.ofSchema schema) →
      (e.passed stop p (e.selected.flatMap (e.jobs (Model.ofSchema schema)))).Nodup) ∧
    ∀ q, e.emitAll stop (Model.ofSchema schema) p = (q, none) →
      ((e.passed stop p (e.selected.flatMap (e.jobs (Model.ofSchema schema)))).Nodup ↔
        Artifact.PathsApart (Model.ofSchema schema)) := by
  have hselected : e.selected = Family.all := by rw [selected, hall]
  have hpaths := Artifact.forall₂_goesTo_flatMap e (Model.ofSchema schema) Family.all
  rw [hselected]
  constructor
  · intro hapart
    exact ((Artifact.nodup_paths_iff_pathsApart hnames).2 hapart).sublist
      (prefix_passed hpaths).sublist
  · intro q hrun
    rw [emitAll, hselected] at hrun
    rw [passed_of_runJobs hpaths hrun, Artifact.nodup_paths_iff_pathsApart hnames]

def shop : Schema where
  entities := [{
    name := "Order"
    fields := [{ Field.blank with name := "id" }]
    metadata := [("storage", .str "mongo")] }]
  services := [{ name := "Orders" }]
  repos := [{ name := "OrderRepository", entity := "Order" }]

theorem namesApart_shop : shop.NamesApart := by
  constructor <;> decide +kernel

theorem passed_nodup_shop : shop.NamesApart ∧ Artifact.PathsApart (Model.ofSchema shop) ∧
    ∀ stop p, (Emitter.verbatim.passed stop p
      (Emitter.verbatim.selected.flatMap (Emitter.verbatim.jobs (Model.ofSchema shop)))).Nodup := by
  have hpaths : (Family.all.flatMap (Artifact.paths .monolith (Model.ofSchema shop))).Nodup := by
    decide +kernel
  have hapart : Artifact.PathsApart (Model.ofSchema shop) :=
    (Artifact.nodup_paths_iff_pathsApart namesApart_shop).1 hpaths
  refine ⟨namesApart_shop, hapart, fun stop p => ?_⟩
  exact (passed_nodup_iff shop namesApart_shop .verbatim rfl stop p).1 hapart

def archive : Schema where
  entities := [{ name := "Order" }]
  repos := [{ name := "Archive", entity := "Order" }, { name := "Orders", entity := "Order" }]

theorem ofSchema_archive : Model.ofSchema archive =
    { entities := archive.entities.map Model.ofEntity
      repos := archive.repos.map (Model.ofRepository (archive.entities.map Model.ofEntity)) } := by
  have hentities : Model.sortOn Model.Entity.name (archive.entities.map Model.ofEntity) =
      archive.entities.map Model.ofEntity := Model.sortOn_eq_self (by decide +kernel)
  have hrepos : Model.sortOn Model.Repository.name
      (archive.repos.map (Model.ofRepository (archive.entities.map Model.ofEntity))) =
      archive.repos.map (Model.ofRepository (archive.entities.map Model.ofEntity)) :=
    Model.sortOn_eq_self (by decide +kernel)
  rw [Model.ofSchema, hentities, hrepos]
  simp [archive, Model.sortOn]

open Template

/-- A template that says which repository or service an artifact is for, and its module. -/
def label : String := Text.unlines
  ["// \x7b% if repo or service %\x7d\x7b\x7b (repo or service).name \x7d\x7d of \x7b% endif %\x7d",
    "\x7b\x7b module \x7d\x7d"]

def subject : Expr := .or (.var "repo") (.var "service")

def labelNodes : Template :=
  [.text "// ", .branch subject [.print (.attr subject "name"), .text " of "] [],
    .print (.var "module"), .text "\n"]

theorem parse?_label : parse? label = some labelNodes := by
  apply parse?_unlines
  · repeat' first | exact Text.Spelled.nil | apply Text.Spelled.cons | rfl
  · decide +kernel

def labels : FileTree :=
  { entries := Family.all.map fun f => (["t", f.template ++ ".jinja"], .file label.toUTF8) }

def labelling : Emitter := { Emitter.verbatim with overlay := some "t" }

theorem load_labels (f : Family) (path : String) :
    load labels (some "t") f.template path = .ok label := by
  have hread : labels.read? (Path.join "t" (f.template ++ ".jinja")) = some label.toUTF8 := by
    refine FileTree.read?_eq_some_iff.2 ⟨["t", f.template ++ ".jinja"], ?_, ?_⟩
    · cases f <;> decide
    · cases f <;> rfl
  simp only [load_some, hread, Text.fromUTF8?_toUTF8]

section

variable {kit : HelperKit} {h : Artifact.Header} {more : List (String × Json)}

theorem renderNamed_label (f : Family) (name path : String) {v : Value}
    (hsubject : subject.eval kit (Routine.callWithin kit callLimit) ⟨[[]], h.told more⟩ = .ok v)
    (hname : v.isTrue = true → ∃ j, v = some j ∧ j.get? "name" = some (.str name)) :
    renderNamed labels (some "t") f.template path kit (h.told more) =
      .ok ("// " ++ (if v.isTrue then name ++ " of " else "") ++ h.module ++ "\n") := by
  have hmodule : (⟨[[]], h.told more⟩ : Scope).value "module" = some (.str h.module) := by
    rw [Scope.value_start]
    simp [Artifact.Header.told, Artifact.Header.entries, Json.get?_obj_cons]
  have hrest : Template.Writes kit (Routine.callWithin kit callLimit) ⟨[[]], h.told more⟩
      [.print (.var "module"), .text "\n"] _ _ :=
    .print (Artifact.eval_var_eq hmodule) <| .text _ .nil
  have hbranch : Template.Writes kit (Routine.callWithin kit callLimit) ⟨[[]], h.told more⟩
      [.branch subject [.print (.attr subject "name"), .text " of "] []]
      (if v.isTrue then name ++ " of " else "") ⟨[[]], h.told more⟩ := by
    cases htrue : v.isTrue with
    | false => exact .otherwise hsubject htrue .nil
    | true =>
      obtain ⟨j, rfl, hj⟩ := hname htrue
      have hprinted := Expr.eval_attr hsubject "name"
      rw [hj] at hprinted
      exact .chosen hsubject htrue ((Writes.print hprinted (.text _ .nil)).of_eq
        (by rw [String.append_empty]; rfl))
  refine renderNamed_of_writes (load_labels f path) parse?_label
    ((Writes.text _ (hbranch.append hrest)).of_eq ?_)
  simp only [Value.printed, String.append_assoc, String.append_empty]

theorem eval_subject {call : Caller} (hrepo : (Json.obj more).get? "repo" = none) :
    subject.eval kit call ⟨[[]], h.told more⟩ = .ok ((Json.obj more).get? "service") := by
  have hnone : (Expr.var "repo").eval kit call ⟨[[]], h.told more⟩ = .ok none := by
    rw [Expr.eval_var, Scope.value_start, Artifact.get?_told (by decide), hrepo]
  rw [subject, Expr.eval_or hnone, Expr.eval_var, Scope.value_start, Artifact.get?_told (by decide)]
  rfl

theorem renderNamed_label_named (f : Family) (path : String) {j : Json} {name : String}
    (hsubject : subject.eval kit (Routine.callWithin kit callLimit) ⟨[[]], h.told more⟩ =
      .ok (some j))
    (htrue : Value.isTrue (some j) = true) (hname : j.get? "name" = some (.str name)) :
    renderNamed labels (some "t") f.template path kit (h.told more) =
      .ok ("// " ++ (name ++ " of ") ++ h.module ++ "\n") := by
  rw [renderNamed_label f name path hsubject fun _ => ⟨j, rfl, hname⟩, if_pos htrue]

theorem renderNamed_label_repo (f : Family) (path : String) (p : Artifact.RepositoryPage) :
    renderNamed labels (some "t") f.template path kit (p.toJson h) =
      .ok ("// " ++ (p.repo.name ++ " of ") ++ h.module ++ "\n") := by
  have hrepo : (⟨[[]], p.toJson h⟩ : Scope).value "repo" = some p.repo.toJson :=
    Artifact.value_told (by decide) rfl
  have hsubject : subject.eval kit (Routine.callWithin kit callLimit) ⟨[[]], p.toJson h⟩ =
      .ok (some p.repo.toJson) := by
    rw [subject, Expr.eval_or (Artifact.eval_var_eq hrepo)]
    rfl
  exact renderNamed_label_named f path hsubject rfl
    (by simp [Model.Repository.toJson, Json.get?_obj_cons])

theorem renderNamed_label_impl (f : Family) (path : String) (p : Artifact.ImplPage) :
    renderNamed labels (some "t") f.template path kit (p.toJson h) =
      .ok ("// " ++ (p.service.name ++ " of ") ++ h.module ++ "\n") := by
  have hsubject : subject.eval kit (Routine.callWithin kit callLimit) ⟨[[]], p.toJson h⟩ =
      .ok (some p.service.toJson) := eval_subject rfl
  exact renderNamed_label_named f path hsubject rfl
    (by simp [Model.Service.toJson, Json.get?_obj_cons])

end

/-- Both repositories of the archive have a mock, each with a text of its own, and both go to one
file. -/
theorem mocks_collide : archive.NamesApart ∧
    (labelling.emitAll ⟨none⟩ (Model.ofSchema archive) { tree := labels }).2 = none ∧
    (labelling.passed ⟨none⟩ { tree := labels }
      (labelling.selected.flatMap (labelling.jobs (Model.ofSchema archive)))).count
        "internal/port/mock_order_test.go" = 2 ∧
    (Artifact.repoMocks labelling.header (Model.ofSchema archive)).map (fun a =>
        (a.path, renderNamed labels labelling.overlay a.template a.path a.kit a.given)) =
      [("internal/port/mock_order_test.go", .ok "// Archive of m\n"),
        ("internal/port/mock_order_test.go", .ok "// Orders of m\n")] := by
  have hrun : (labelling.emitAll ⟨none⟩ (Model.ofSchema archive) { tree := labels }).2 = none := by
    rw [← Option.isNone_iff_eq_none, ofSchema_archive]
    decide +kernel
  refine ⟨by constructor <;> decide +kernel, hrun, ?_, ?_⟩
  · rw [passed_of_runJobs (Artifact.forall₂_goesTo_flatMap labelling _ _) (Prod.ext rfl hrun),
      ofSchema_archive]
    decide +kernel
  · have hrepos : Artifact.persisted (Model.ofSchema archive) =
        archive.repos.map (Model.ofRepository (archive.entities.map Model.ofEntity)) := by
      rw [ofSchema_archive]
      rfl
    rw [Artifact.repoMocks, hrepos, List.map_map, archive]
    simp only [List.map_cons, List.map_nil, Function.comp_apply, List.cons.injEq,
      Prod.mk.injEq, and_true]
    refine ⟨⟨by decide +kernel, ?_⟩, by decide +kernel, ?_⟩
    all_goals exact (renderNamed_label_repo .repoMocks _ _).trans rfl

end Emitter

end GoScaffold
