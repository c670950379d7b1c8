import GoScaffold.Proofs.Artifact.RepositoryMethods
import GoScaffold.Proofs.Name.Boundaries

/-! Which keys documents are searched by. A condition names a field in any case, while the key to
search by is made from the name as the condition spells it. It is the key that the field is stored
under exactly if both spellings have the same words. -/

namespace GoScaffold.Artifact

theorem exists_of_mapM_eq_ok {α β : Type} {f : α → Except Error β} {as : List α} {bs : List β}
    (h : as.mapM f = .ok bs) {a : α} (ha : a ∈ as) : ∃ b ∈ bs, f a = .ok b := by
  induction as generalizing bs with
  | nil => cases ha
  | cons a' as ih =>
    rw [List.mapM_cons] at h
    cases hb : f a' with
    | error fault =>
      rw [hb] at h
      cases h
    | ok b =>
      rw [hb] at h
      cases hbs : as.mapM f with
      | error fault =>
        rw [hbs] at h
        cases h
      | ok rest =>
        rw [hbs] at h
        obtain rfl : b :: rest = bs := Except.ok.inj h
        rcases List.mem_cons.1 ha with rfl | ha
        · exact ⟨b, List.mem_cons_self, hb⟩
        · obtain ⟨b', hb', hfa⟩ := ih hbs ha
          exact ⟨b', List.mem_cons_of_mem b hb', hfa⟩

section

variable {h : Header} {repo : Model.Repository} {entity : Model.Entity}

theorem finders_of_mongoPage {page : MongoPage} (hpage : mongoPage h repo entity = .ok page) :
    page.entity = entity ∧ repo.finders.mapM (MongoFinder.of repo) = .ok page.finders := by
  unfold mongoPage at hpage
  cases hfinders : repo.finders.mapM (MongoFinder.of repo) with
  | error fault =>
    rw [hfinders] at hpage
    cases hpage
  | ok finders =>
    rw [hfinders] at hpage
    obtain rfl := Except.ok.inj hpage
    exact ⟨rfl, rfl⟩

theorem filters_mongoFinder {finder : Model.Finder} {made : MongoFinder}
    (hmade : MongoFinder.of repo finder = .ok made) :
    made.finder = finder ∧ made.filters = finder.declared.conditions.map mongoFilter := by
  unfold MongoFinder.of at hmade
  split at hmade
  · cases hmade
  · obtain rfl := Except.ok.inj hmade
    exact ⟨rfl, rfl⟩

theorem key_mongoFilter_iff {c : Condition} {f : Model.Field}
    (hf : entity.field? (conditionField c) = some f) :
    (mongoFilter c).key = Name.documentKey f.name ↔
      Text.sameLetters f.name "id" = true ∨
        (Name.words (conditionField c)).map Text.lower = (Name.words f.name).map Text.lower := by
  have hsame := List.find?_some hf
  exact Name.documentKey_eq_iff (Text.sameLetters_symm hsame)

end

/-- A repository of documents has the entity's fields under their own keys, and searches by keys
made from the conditions of its finders. Where a condition names a field of the entity, both keys
are the same exactly if the field is the identifier or the condition spells it in the same words. -/
theorem conditions_reach_documents_iff (h : Header) (model : Model) (tree : FileTree)
    {repo : Model.Repository}
    {entity : Model.Entity} {page : MongoPage} (hpage : mongoPage h repo entity = .ok page)
    {finder : Model.Finder}
    (hfinder : finder ∈ repo.finders) :
    (mongoRepos h model).map (fun job => (job.make tree).bind (bundledText tree)) =
      (((persisted model).filter fun r => r.storage == "mongo").filterMap (withEntity model)).map
      (fun q =>
        (mongoPage h q.1 q.2).map fun page => mongoText h page.imports (Name.exported q.1.entity)
          (mongoDeclarations page)) ∧
      page.entity = entity ∧
      (∀ m ∈ repo.methods, mongoStandard (Name.exported repo.entity) entity m ∈
        mongoDeclarations page) ∧
      ∃ made ∈ page.finders, made.declaration ∈ mongoDeclarations page ∧ made.finder = finder ∧
        made.filters = finder.declared.conditions.map mongoFilter ∧
        ∀ c ∈ finder.declared.conditions, ∀ f, entity.field? (conditionField c) = some f →
          ((mongoFilter c).key = Name.documentKey f.name ↔
            Text.sameLetters f.name "id" = true ∨
              (Name.words (conditionField c)).map Text.lower =
              (Name.words f.name).map Text.lower) := by
  obtain ⟨hentity, hfinders⟩ := finders_of_mongoPage hpage
  obtain ⟨made, hmem, hmade⟩ := exists_of_mapM_eq_ok hfinders hfinder
  obtain ⟨hsource, hfilters⟩ := filters_mongoFinder hmade
  refine ⟨texts_mongoRepos, hentity, fun m hm => ?_, made, hmem, ?_, hsource, hfilters,
    fun c _ f hf => key_mongoFilter_iff hf⟩
  · refine List.mem_append_left _ (List.mem_map.2 ⟨m, ?_, ?_⟩)
    · rwa [repo_of_mongoPage hpage]
    · rw [repo_of_mongoPage hpage, hentity]
  · exact List.mem_append_right _ (List.mem_map_of_mem hmem)

def ledgerHeader : Header := { module := "m", stamp := {} }

def ledgerEntry : Model.Entity where
  name := "Entry"
  fields := ["id", "account_id", "bookedAt"].map fun name =>
    { (default : Model.Field) with name, goType := "string" }

def ledgerConditions : List Condition := [
  { field := "Account_ID", param := "account", paramType := "string" },
  { param := "ID", paramType := "string" },
  { field := "bookedat", op := "gt", param := "since", paramType := "string" }]

def ledgerFinder : Finder :=
  { name := "ListByAccount", returns := "many", conditions := ledgerConditions }

def ledger : Model.Repository where
  name := "EntryRepository"
  entity := "Entry"
  finders := [{ declared := ledgerFinder, signature := .ofFinder "Entry" ledgerFinder "" }]

theorem conditions_reach_documents_ledger :
    ∃ page, mongoPage ledgerHeader ledger ledgerEntry = .ok page ∧
      ∃ made ∈ page.finders, made.filters.map MongoFilter.key = ["accountId", "_id", "bookedat"] ∧
        ledgerConditions.map (fun c =>
          (ledgerEntry.field? (conditionField c)).map Model.Field.name) =
          [some "account_id", some "id", some "bookedAt"] ∧
        ∀ c ∈ ledgerConditions, ∀ f, ledgerEntry.field? (conditionField c) = some f →
          ((mongoFilter c).key = Name.documentKey f.name ↔
            Text.sameLetters f.name "id" = true ∨
              (Name.words (conditionField c)).map Text.lower =
              (Name.words f.name).map Text.lower) := by
  have hmodes : ∀ f ∈ ledger.finders, (FinderMode.of? f).isSome := by decide +kernel
  have hpages : ∃ page, mongoPage ledgerHeader ledger ledgerEntry = .ok page ∧ _ :=
    exists_mongoPage hmodes
  obtain ⟨page, hpage, -⟩ := hpages
  obtain ⟨-, -, -, made, hmade, -, -, hfilters, hkeys⟩ :=
    conditions_reach_documents_iff ledgerHeader {} {} hpage List.mem_cons_self
  have hnames : (ledgerConditions.map mongoFilter).map MongoFilter.key =
      ["accountId", "_id", "bookedat"] := by
    decide +kernel
  refine ⟨page, hpage, made, hmade, ?_, by decide +kernel, hkeys⟩
  rw [hfilters]
  exact hnames

/-- Spelled without the capital that starts its second word, the field is found in memory but in no
document. -/
theorem bookedat_misses_document :
    ∃ c ∈ ledgerConditions, ∃ f, ledgerEntry.field? (conditionField c) = some f ∧
      StubFinder.condition? ledgerEntry c = some "v.BookedAt > since" ∧
      (mongoFilter c).key = "bookedat" ∧ documentField f = "\t\t\"bookedAt\": entity.BookedAt,\n" ∧
      (mongoFilter c).key ≠ Name.documentKey f.name := by
  refine ⟨_, List.mem_cons_of_mem _ (List.mem_cons_of_mem _ List.mem_cons_self), _, rfl, ?_⟩
  decide +kernel

end GoScaffold.Artifact
