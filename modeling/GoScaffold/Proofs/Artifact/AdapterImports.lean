import GoScaffold.Artifact.Repository
import GoScaffold.Proofs.Import

/-! What the artifacts of a repository import. An interface imports the packages that its methods
mention. The adapters declare the same methods, but import packages for reasons of their own, so it
is said exactly when an adapter imports all that its methods mention. -/

namespace GoScaffold

open Import (references path?)

namespace QuerySignature

def mentioned (m : QuerySignature) : List String :=
  (m.params.flatMap fun q => references q.1 ++ references q.2) ++ references m.returned.type

variable (m : QuerySignature)

theorem references_paramsText : references m.paramsText =
    m.params.flatMap fun q => references q.1 ++ references q.2 := by
  rw [paramsText, Import.references_join (by decide), List.flatMap_map]
  congr 1
  funext q
  exact Import.references_append (by decide) q.1 q.2

theorem references_callParams :
    references m.callParams = "context" :: references m.paramsText := by
  have hfirst : references "ctx context.Context" = ["context"] := by decide
  unfold callParams withFirst
  split
  next hempty => rw [hfirst, String.isEmpty_iff.1 hempty, Import.references_empty]
  next => rw [Import.references_append (by decide), hfirst, List.singleton_append]

theorem references_results : references m.results = references m.returned.type := by
  unfold results
  split
  next hempty =>
    rw [String.isEmpty_iff.1 hempty]
    decide
  next =>
    have hparts : "(" ++ m.returned.type ++ ", error)" =
        "" ++ "(" ++ (m.returned.type ++ ", " ++ "error)") := by
      have hending : ", error)" = ", " ++ "error)" := by decide
      rw [String.empty_append, hending, String.append_assoc, String.append_assoc]
    have hlast : references "error)" = [] := by decide
    rw [hparts, Import.references_append (by decide), Import.references_append (by decide),
      hlast, Import.references_empty, List.nil_append, List.append_nil]

theorem references_spelled :
    references (m.callParams ++ " " ++ m.results) = "context" :: m.mentioned := by
  rw [Import.references_append (by decide), references_callParams, references_paramsText,
    references_results]
  rfl

end QuerySignature

namespace Artifact

variable {h : Header} {repo : Model.Repository} {entity : Model.Entity} {name path : String}

theorem contains_port : (repositoryPage h repo).imports.contains path = true ↔
    path = "context" ∨ ∃ m ∈ repo.methodSet, ∃ name ∈ m.mentioned, path? h.module name =
    some path := by
  have hcontext : path? h.module "context" = some "context" := rfl
  unfold repositoryPage Imports.ofCode
  rw [Imports.contains_ofPaths, List.mem_append, List.mem_singleton, Import.mem_scan,
    Import.references_join (by decide), List.flatMap_map]
  simp only [QuerySignature.references_spelled, List.mem_flatMap, List.mem_cons]
  constructor
  · rintro (⟨name, ⟨m, hm, rfl | hname⟩, hpath⟩ | hpath)
    · exact .inl (Option.some.inj (hpath.symm.trans hcontext))
    · exact .inr ⟨m, hm, name, hname, hpath⟩
    · exact .inl hpath
  · rintro (hpath | ⟨m, hm, name, hname, hpath⟩)
    · exact .inr hpath
    · exact .inl ⟨name, ⟨m, hm, .inr hname⟩, hpath⟩

def memoryPackages (repo : Model.Repository) (entity : Model.Entity) : List String :=
  (repo.finders.flatMap fun f => (StubFinder.of entity f).conditions).flatMap references ++
    ["context"] ++ (if repo.methodSet.any fun m => m.kind == .save then ["fmt"] else []) ++
    (if repo.methodSet.any QuerySignature.hasTime then ["time"] else []) ++ ["domain"]

def documentPackages (repo : Model.Repository) : List String :=
  ["context", "domain"] ++ if repo.methodSet.any QuerySignature.hasTime then ["time"] else []

theorem path?_domain (h : Header) : path? h.module "domain" =
    some (h.package "internal/domain") := by
  have hdir : "/internal/domain" = "/" ++ "internal/domain" := by decide
  rw [Header.package, String.append_assoc, ← hdir]
  rfl

theorem exists_reference_iff (hpath : path? h.module name = some path) {names : List String} :
    (∃ other ∈ names, path? h.module other = some path) ↔ name ∈ names := by
  constructor
  · rintro ⟨other, hother, hpath'⟩
    exact (Import.path?_eq_iff hpath hpath').1 rfl ▸ hother
  · exact fun hname => ⟨name, hname, hpath⟩

theorem contains_memory (hpath : path? h.module name = some path) :
    (stubPage h repo entity).imports.contains path = true ↔ name ∈ memoryPackages repo entity := by
  have hcontext : path = "context" ↔ name = "context" := Import.path?_eq_iff hpath rfl
  have hfmt : path = "fmt" ↔ name = "fmt" := Import.path?_eq_iff hpath rfl
  have htime : path = "time" ↔ name = "time" := Import.path?_eq_iff hpath rfl
  have hdomain : path = h.package "internal/domain" ↔ name = "domain" :=
    Import.path?_eq_iff hpath (path?_domain h)
  -- two packages are imported that no code of a signature can refer to
  have hsync : path ≠ "sync" := Import.path?_ne hpath (by decide) (by decide)
  have hslices : path ≠ "slices" := Import.path?_ne hpath (by decide) (by decide)
  unfold stubPage Imports.ofCode
  rw [Imports.contains_ofPaths, List.mem_append, Import.mem_scan,
    Import.references_join (by decide), exists_reference_iff hpath, memoryPackages]
  simp only [List.flatMap_map, List.mem_append, List.mem_cons, List.mem_ite_nil_right,
    List.not_mem_nil, hcontext, hfmt, htime, hdomain, hsync, hslices, or_false, and_false, or_assoc]

theorem contains_documents {page : MongoPage} (hpage : mongoPage h repo entity = .ok page)
    (hpath : path? h.module name = some path) :
    page.imports.contains path = true ↔ name ∈ documentPackages repo := by
  have hcontext : path = "context" ↔ name = "context" := Import.path?_eq_iff hpath rfl
  have htime : path = "time" ↔ name = "time" := Import.path?_eq_iff hpath rfl
  have hdomain : path = h.package "internal/domain" ↔ name = "domain" :=
    Import.path?_eq_iff hpath (path?_domain h)
  -- the driver and the standard errors are imported under paths that no signature can refer to
  have hbson : path ≠ mongoDriver ++ "/bson" := Import.path?_ne hpath (by decide) (by decide)
  have hmongo : path ≠ mongoDriver ++ "/mongo" := Import.path?_ne hpath (by decide) (by decide)
  have herrors : path ≠ "errors" := Import.path?_ne hpath (by decide) (by decide)
  have hoptions : path ≠ mongoDriver ++ "/mongo/options" :=
    Import.path?_ne hpath (by decide) (by decide)
  unfold mongoPage at hpage
  cases hfinders : repo.finders.mapM (MongoFinder.of repo) with
  | error fault =>
    rw [hfinders] at hpage
    cases hpage
  | ok finders =>
    rw [hfinders] at hpage
    obtain rfl := Except.ok.inj hpage
    show (mongoImports h repo finders).contains path = true ↔ _
    unfold mongoImports
    rw [Imports.contains_ofPaths, documentPackages]
    simp only [List.mem_append, List.mem_cons, List.mem_ite_nil_right, List.not_mem_nil,
      hcontext, htime, hdomain, hbson, hmongo, herrors, hoptions, or_false, and_false]

theorem contains_all_iff {imports : Imports} {packages : List String}
    (hcontext : "context" ∈ packages)
    (himports : ∀ name path, path? h.module name = some path →
      (imports.contains path = true ↔ name ∈ packages)) :
    (∀ path, (repositoryPage h repo).imports.contains path = true → imports.contains path = true) ↔
      ∀ m ∈ repo.methodSet, ∀ name ∈ m.mentioned, (path? h.module name).isSome →
        name ∈ packages := by
  constructor
  · intro hall m hm name hname hknown
    obtain ⟨path, hpath⟩ := Option.isSome_iff_exists.1 hknown
    exact (himports name path hpath).1 (hall path
      (contains_port.2 (.inr ⟨m, hm, name, hname, hpath⟩)))
  · intro hmentioned path hport
    rcases contains_port.1 hport with rfl | ⟨m, hm, name, hname, hpath⟩
    · exact (himports "context" "context" rfl).2 hcontext
    · exact (himports name path hpath).2
        (hmentioned m hm name hname (Option.isSome_iff_exists.2 ⟨path, hpath⟩))

/-- An adapter imports all that the interface of its repository imports just if it imports, for its
own reasons, every known package that a parameter or a result of a method mentions. -/
theorem adapters_import_iff (h : Header) (repo : Model.Repository) (entity : Model.Entity) :
    ((∀ path, (repositoryPage h repo).imports.contains path = true →
        (stubPage h repo entity).imports.contains path = true) ↔
      ∀ m ∈ repo.methodSet, ∀ name ∈ m.mentioned, (path? h.module name).isSome →
        name ∈ memoryPackages repo entity) ∧
    ∀ page, mongoPage h repo entity = .ok page →
      ((∀ path, (repositoryPage h repo).imports.contains path = true →
          page.imports.contains path = true) ↔
        ∀ m ∈ repo.methodSet, ∀ name ∈ m.mentioned, (path? h.module name).isSome →
          name ∈ documentPackages repo) := by
  constructor
  · apply contains_all_iff _ fun _ _ => contains_memory
    simp [memoryPackages]
  · intro page hpage
    apply contains_all_iff _ fun _ _ => contains_documents hpage
    simp [documentPackages]

def calendar (days : String) : Model.Repository :=
  Model.ofRepository [] {
    name := "EventRepository"
    entity := "Event"
    finders := [{
      name := "ListByDay"
      returns := "many"
      conditions := [{ field := "day", op := "in", param := "days", paramType := days }] }] }

def calendarHeader : Header := { module := "m", stamp := {} }

theorem exists_mongoPage_calendar (days : String)
    (h : (mongoPage calendarHeader (calendar days) {}).isOk = true) :
    ∃ page, mongoPage calendarHeader (calendar days) {} = .ok page := by
  cases hpage : mongoPage calendarHeader (calendar days) {} with
  | error fault =>
    rw [hpage] at h
    cases h
  | ok page => exact ⟨page, rfl⟩

theorem adapters_import_calendar :
    ((∀ path, (repositoryPage calendarHeader (calendar "time.Time")).imports.contains path = true →
      (stubPage calendarHeader (calendar "time.Time") {}).imports.contains path = true)) ∧
    ∃ page, mongoPage calendarHeader (calendar "time.Time") {} = .ok page ∧
      ∀ path, (repositoryPage calendarHeader (calendar "time.Time")).imports.contains path = true →
        page.imports.contains path = true := by
  have himports := adapters_import_iff calendarHeader (calendar "time.Time") {}
  obtain ⟨page, hpage⟩ := exists_mongoPage_calendar "time.Time" (by decide +kernel)
  exact ⟨himports.1.2 (by decide +kernel), page, hpage,
    (himports.2 page hpage).2 (by decide +kernel)⟩

/-- A list of times does not count as a time. -/
theorem adapters_miss_time :
    (repositoryPage calendarHeader (calendar "[]time.Time")).imports.contains "time" = true ∧
    (stubPage calendarHeader (calendar "[]time.Time") {}).imports.contains "time" = false ∧
    ∃ page, mongoPage calendarHeader (calendar "[]time.Time") {} = .ok page ∧
      page.imports.contains "time" = false := by
  have htime : path? calendarHeader.module "time" = some "time" := rfl
  obtain ⟨page, hpage⟩ := exists_mongoPage_calendar "[]time.Time" (by decide +kernel)
  refine ⟨contains_port.2 (.inr ?_), ?_, page, hpage, ?_⟩
  · decide +kernel
  · rw [Bool.eq_false_iff, ne_eq, contains_memory htime]
    decide +kernel
  · rw [Bool.eq_false_iff, ne_eq, contains_documents hpage htime]
    decide +kernel

end Artifact

end GoScaffold
