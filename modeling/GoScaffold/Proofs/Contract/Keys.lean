import GoScaffold.Proofs.Artifact.PortTexts
import GoScaffold.Proofs.Contract.Bodies
import GoScaffold.Proofs.Name.Stability

/-! Which keys of a body reach the fields of the request. The key of a field is its name in lower
case, while its tag has the words of the name run together; up to the case of ASCII letters they
agree exactly where the name has nothing but letters and digits, or none of them. -/

namespace GoScaffold

namespace Name

open Text

variable {s : String}

theorem jsonKey_bare (h : ∀ c ∈ s.toList, c.isAlphanum = false) : jsonKey s = lower s := by
  by_cases hs : s = ""
  · subst hs
    rfl
  · unfold jsonKey
    rw [words_bare h hs]
    simp

theorem alphanum_of_length_le (h : s.toList.length ≤ (letters s).toList.length) :
    Alphanum s.toList := by
  rw [letters, String.toList_ofList] at h
  intro c hc
  exact List.length_filter_eq_length_iff.1 (le_antisymm (List.length_filter_le _ _) h) c hc

theorem sameLetters_lower_jsonKey_iff (s : String) : sameLetters (lower s) (jsonKey s) = true ↔
    Alphanum s.toList ∨ ∀ c ∈ s.toList, c.isAlphanum = false := by
  rcases some_or_none_alphanum s with hsome | hnone
  · rw [sameLetters, beq_iff_eq, map_toLower_jsonKey hsome]
    constructor
    · intro hsame
      -- lower case has no fewer characters than the name, and the key has just its letters and
      -- digits
      have hlength := congrArg List.length hsame
      rw [List.length_map, List.length_map] at hlength
      have hle : s.toList.length ≤ (lower s).toList.length := by
        rw [lower, String.toList_ofList]
        exact length_le_lowerFrom [] s.toList
      exact .inl (alphanum_of_length_le (hle.trans_eq hlength))
    · rintro (halphanum | hnone)
      · rw [toList_lower halphanum, toList_letters_of_alphanum halphanum, List.map_map]
        exact List.map_congr_left fun c _ => Char.toLower_toLower_eq_toLower c
      · exact absurd hnone (not_none_of_some_alphanum hsome)
  · rw [jsonKey_bare hnone, sameLetters, beq_self_eq_true]
    exact iff_of_true rfl (.inr hnone)

end Name

namespace Contract

open Artifact

variable {fields : List Model.Field} {exclude : List String}

theorem mem_entries_several (hdistinct :
    ((included exclude fields).map fun f => Text.lower f.name).Nodup)
    {e : String × Json} : e ∈ Dict.ofEntries ((included exclude fields).map sampleEntry) ↔
      ∃ f ∈ included exclude fields, sampleEntry f = e := by
  have hkeys : (((included exclude fields).map sampleEntry).map Prod.fst).Nodup := by
    rw [List.map_map]
    exact hdistinct
  rw [Dict.mem_ofEntries hkeys, List.mem_map]

/-- A body of several fields has an entry for each of them, and the key of an entry is the JSON key
of its field, up to the case of ASCII letters, exactly if the name of the field has nothing but
letters and digits, or none. The JSON key is what the interface of a service has in the tag of the
field. -/
theorem keys_reach_tags_iff (fields : List Model.Field) (exclude : List String)
    (hseveral : 2 ≤ (included exclude fields).length)
    (hdistinct : ((included exclude fields).map fun f => Text.lower f.name).Nodup) :
    (∃ entries, minimalBody fields exclude = .obj entries ∧
      ∀ key value, (key, value) ∈ entries ↔
        ∃ f ∈ included exclude fields, Text.lower f.name = key ∧
          sampleValue f (.ofField f) = value) ∧
      (∀ f ∈ included exclude fields,
        Text.sameLetters (Text.lower f.name) (Name.jsonKey f.name) = true ↔
          Text.Alphanum f.name.toList ∨ ∀ c ∈ f.name.toList, c.isAlphanum = false) ∧
      ∀ h model tree, (servicePorts h model).map (bundledText tree) =
        model.services.map fun service =>
        .ok (servicePortText h (portImports h service) (portTypes service) service) := by
  refine ⟨⟨_, minimalBody_of_several (by omega), fun key value => ?_⟩, ?_, texts_servicePorts⟩
  · rw [mem_entries_several hdistinct]
    simp only [sampleEntry, Prod.mk.injEq]
  · exact fun f _ => Name.sameLetters_lower_jsonKey_iff f.name

def profileFields : List Model.Field :=
  ["zipCode", "first_name", "Größe", "Ö"].map fun name =>
    { (default : Model.Field) with name, goType := "string" }

theorem keys_reach_tags_iff_profile :
    ((included [] profileFields).map fun f => Text.lower f.name) =
    ["zipcode", "first_name", "größe", "ö"] ∧
      ((included [] profileFields).map fun f => Name.jsonKey f.name) =
      ["zipCode", "firstName", "grE", "ö"] ∧
      (∃ entries, minimalBody profileFields [] = .obj entries ∧
        ∀ key value, (key, value) ∈ entries ↔
          ∃ f ∈ included [] profileFields, Text.lower f.name = key ∧
            sampleValue f (.ofField f) = value) ∧
      ∀ f ∈ included [] profileFields, Text.sameLetters (Text.lower f.name) (Name.jsonKey f.name) =
        true ↔ Text.Alphanum f.name.toList ∨ ∀ c ∈ f.name.toList, c.isAlphanum = false := by
  have hnames : ((included [] profileFields).map fun f => Text.lower f.name) =
      ["zipcode", "first_name", "größe", "ö"] := by decide +kernel
  have hdistinct : ((included [] profileFields).map fun f => Text.lower f.name).Nodup := by
    rw [hnames]
    decide
  obtain ⟨hentries, htags, -⟩ := keys_reach_tags_iff profileFields [] (by decide +kernel) hdistinct
  exact ⟨hnames, by decide +kernel, hentries, htags⟩

def personFields : List Model.Field :=
  ["first_name", "last_name"].map fun name =>
    { (default : Model.Field) with name, goType := "string" }

/-- The keys of the fields are not their tags, in whatever case. -/
theorem separated_names_miss_tags :
    (minimalBody personFields []).compact =
    "\x7b\"first_name\":\"test\",\"last_name\":\"test\"\x7d" ∧
      personFields.map portTag = ["\x60json:\"firstName\"\x60", "\x60json:\"lastName\"\x60"] ∧
      Text.sameLetters "first_name" "firstName" = false ∧
      Text.sameLetters "last_name" "lastName" = false := by
  decide +kernel

end Contract

end GoScaffold
