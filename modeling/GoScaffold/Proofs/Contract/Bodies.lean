import GoScaffold.Proofs.Contract.CaseNames
import GoScaffold.Proofs.Json.ReadBack
import GoScaffold.Proofs.Text.Case

/-! What the bodies of contract tests hold. The fields of a body are told by their names and rules
alone, and a body is read back from its text with the names of exactly these fields; so it has no
field that the path or the identity of the caller gives. -/

namespace GoScaffold.Contract

section Inclusion

variable {f : Model.Field} {fields : List Model.Field} {exclude : List String}

/-- The parts of the rule of a field: of the one in its struct tag, else of the declared one. -/
def ruleParts (f : Model.Field) : List String :=
  (Text.split ',' (if f.binding.isEmpty then f.validateTag else f.binding)).map Text.trim

/-- A field that is not excluded is in the body if it is not optional, if its rule requires it, or
if it is the name of a company or a password. -/
def Included (exclude : List String) (f : Model.Field) : Prop :=
  Text.lower f.name ∉ exclude ∧
    (f.optional = false ∨ "required" ∈ ruleParts f ∨
      Text.sameLetters f.name "companyName" = true ∨ Text.sameLetters f.name "password" = true)

instance (exclude : List String) (f : Model.Field) : Decidable (Included exclude f) :=
  inferInstanceAs (Decidable (_ ∧ _))

def included (exclude : List String) (fields : List Model.Field) : List Model.Field :=
  fields.filter fun f => decide (Included exclude f)

theorem Rules.required_add (r : Rules) (part : String) :
    (r.add part).required = (r.required || part == "required") := by
  unfold Rules.add
  split
  · exact (Bool.or_true _).symm
  · exact (Bool.or_false _).symm
  · exact (Bool.or_false _).symm
  · next hrequired _ _ =>
    rw [beq_eq_false_iff_ne.2 hrequired, Bool.or_false]
    split
    · rfl
    · split <;> rfl

theorem Rules.required_foldl (parts : List String) (r : Rules) :
    (parts.foldl Rules.add r).required = true ↔ r.required = true ∨ "required" ∈ parts := by
  induction parts generalizing r with
  | nil => simp
  | cons part parts ih =>
    rw [List.foldl_cons, ih, Rules.required_add, Bool.or_eq_true, beq_iff_eq,
      List.mem_cons, or_assoc, @eq_comm _ part]

theorem required_ofField : (Rules.ofField f).required = true ↔ "required" ∈ ruleParts f := by
  rw [Rules.ofField, Rules.ofTag, Rules.required_foldl, List.mem_filter]
  have hempty : (!"required".isEmpty) = true := by decide
  exact ⟨fun h => (h.resolve_left (by decide)).1, fun h => .inr ⟨h, hempty⟩⟩

theorem lone_forcedFields :
    forcedFields.all (fun name => name.toList.all fun x => decide (Text.Lone x)) = true := by
  decide

theorem lower_eq_forced_iff {name : String} (hname : name ∈ forcedFields) (s : String) :
    Text.lower s = name ↔ Text.sameLetters s name = true :=
  Text.lower_eq_iff fun x hx =>
    of_decide_eq_true (List.all_eq_true.1 (List.all_eq_true.1 lone_forcedFields name hname) x hx)

theorem contains_forcedFields (s : String) : forcedFields.contains (Text.lower s) = true ↔
    Text.sameLetters s "companyName" = true ∨ Text.sameLetters s "password" = true := by
  have hcompany : Text.sameLetters s "companyName" = Text.sameLetters s "companyname" := by
    have hletters : "companyName".toList.map Char.toLower =
        "companyname".toList.map Char.toLower := by decide
    rw [Text.sameLetters, hletters, Text.sameLetters]
  rw [List.contains_iff_mem, hcompany, ← lower_eq_forced_iff (by decide),
    ← lower_eq_forced_iff (by decide)]
  exact List.mem_cons.trans (or_congr_right List.mem_singleton)

theorem isIncluded_iff : isIncluded exclude f = true ↔ Included exclude f := by
  unfold isIncluded Included
  dsimp only
  rw [Bool.and_eq_true, Bool.or_eq_true, Bool.or_eq_true, required_ofField,
    contains_forcedFields, or_assoc, Bool.not_eq_true', Bool.not_eq_true', List.contains_eq_mem,
    decide_eq_false_iff_not]

theorem filter_isIncluded : fields.filter (isIncluded exclude) = included exclude fields :=
  List.filter_congr fun _ _ => Bool.eq_iff_iff.2 (isIncluded_iff.trans decide_eq_true_iff.symm)

theorem mem_included : f ∈ included exclude fields ↔ f ∈ fields ∧ Included exclude f := by
  rw [included, List.mem_filter, decide_eq_true_eq]

theorem included_ne_nil (h : hasRequired fields exclude = true) : included exclude fields ≠ [] := by
  obtain ⟨f, hf, hrequired⟩ := List.any_eq_true.1 h
  have hincluded : isIncluded exclude f = true := by
    unfold isIncluded
    dsimp only
    rw [Bool.and_eq_true, Bool.or_eq_true] at hrequired ⊢
    exact ⟨hrequired.1, .inl ((Bool.or_eq_true _ _).mpr (by simpa using hrequired.2))⟩
  exact List.ne_nil_of_mem (mem_included.2 ⟨hf, isIncluded_iff.1 hincluded⟩)

def sampleEntry (f : Model.Field) : String × Json := (Text.lower f.name, sampleValue f (.ofField f))

theorem sampleEntry_snd (f : Model.Field) : (sampleEntry f).2 = sampleValue f (.ofField f) := by
  rw [sampleEntry]

theorem minimalBody_of_single (h : included exclude fields = [f]) :
    minimalBody fields exclude = sampleValue f (.ofField f) := by
  unfold minimalBody
  rw [filter_isIncluded, h]

theorem minimalBody_of_several (h : (included exclude fields).length ≠ 1) :
    minimalBody fields exclude =
    .obj (Dict.ofEntries ((included exclude fields).map sampleEntry)) := by
  unfold minimalBody
  rw [filter_isIncluded]
  split
  next f hsingle =>
    rw [hsingle] at h
    exact absurd rfl h
  next => rfl

theorem mem_keys_several {key : String} :
    key ∈ (Dict.ofEntries ((included exclude fields).map sampleEntry)).keys ↔
      ∃ f ∈ included exclude fields, Text.lower f.name = key := by
  rw [Dict.mem_keys_ofEntries, List.map_map, List.mem_map]
  rfl

end Inclusion

/-! The text of a body. -/

theorem holdsInt_toInt64 (x : Binary64) : Width.holdsInt 64 x.toInt64 = true := by
  have hclamp (i : Int) : Width.holdsInt 64 (Width.clamp 64 i) = true := by
    rw [Width.holdsInt_iff]
    unfold Width.clamp
    have hleast : Width.least 64 = -9223372036854775808 := rfl
    have hgreatest : Width.greatest 64 = 9223372036854775807 := rfl
    rw [hleast, hgreatest]
    split_ifs <;> omega
  unfold Binary64.toInt64
  split_ifs
  · decide
  · exact hclamp _
  · decide
  · decide

theorem sampleValue_cases (f : Model.Field) (rules : Rules) :
    (∃ s, sampleValue f rules = .str s) ∨ sampleValue f rules = .bool true ∨
      sampleValue f rules = .int rules.lowerBound.toInt64 ∨
      (f.goType = "float64" ∧ sampleValue f rules = .ofFloat rules.lowerBound) ∨
      sampleValue f rules = .arr [] ∨ sampleValue f rules = .obj [] := by
  unfold sampleValue
  dsimp only
  split
  · exact .inl ⟨_, rfl⟩
  split
  · exact .inl ⟨_, rfl⟩
  split
  · exact .inl ⟨_, rfl⟩
  split
  · split <;> exact .inl ⟨_, rfl⟩
  · exact .inr (.inr (.inl rfl))
  · exact .inr (.inr (.inl rfl))
  next hfloat => exact .inr (.inr (.inr (.inl ⟨hfloat, rfl⟩)))
  · exact .inr (.inl rfl)
  · exact .inl ⟨_, rfl⟩
  · split
    · exact .inr (.inr (.inr (.inr (.inr rfl))))
    split
    · exact .inr (.inr (.inr (.inr (.inl rfl))))
    · exact .inr (.inr (.inr (.inr (.inr rfl))))

theorem sampleValue_eq_obj {f : Model.Field} {rules : Rules} {entries : List (String × Json)}
    (h : sampleValue f rules = .obj entries) : entries = [] := by
  rcases sampleValue_cases f rules with ⟨s, hs⟩ | hs | hs | ⟨-, hs⟩ | hs | hs <;> rw [hs] at h
  · cases h
  · cases h
  · cases h
  · unfold Json.ofFloat at h
    split at h <;> cases h
  · cases h
  · exact (Json.obj.inj h).symm

theorem exists_field_of_key {fields : List Model.Field} {exclude : List String}
    {entries : List (String × Json)}
    (hbody : minimalBody fields exclude = .obj entries) {key : String}
    (hkey : key ∈ entries.map Prod.fst) :
    ∃ f ∈ included exclude fields, Text.lower f.name = key := by
  by_cases hlength : (included exclude fields).length = 1
  · obtain ⟨f, hf⟩ := List.length_eq_one_iff.1 hlength
    rw [minimalBody_of_single hf] at hbody
    rw [sampleValue_eq_obj hbody] at hkey
    cases hkey
  · rw [minimalBody_of_several hlength] at hbody
    rw [← Json.obj.inj hbody] at hkey
    exact mem_keys_several.1 hkey

def Rules.Unbounded (r : Rules) : Prop := r.min = none ∧ r.gte = none

instance (r : Rules) : Decidable r.Unbounded := inferInstanceAs (Decidable (_ ∧ _))

theorem Rules.lowerBound_of_unbounded {r : Rules} (h : r.Unbounded) : r.lowerBound = .ofNat 1 := by
  rw [Rules.lowerBound, h.1, h.2]
  rfl

section Text

open Json Document

variable {f : Model.Field} {fields : List Model.Field} {exclude : List String}

theorem reads_sampleValue {rules : Rules} (h : f.goType = "float64" → rules.Unbounded) :
    Reads (sampleValue f rules) := by
  rcases sampleValue_cases f rules with ⟨s, hs⟩ | hs | hs | ⟨hfloat, hs⟩ | hs | hs <;> rw [hs]
  · exact .of_plain trivial
  · exact .of_plain trivial
  · exact .of_plain (Width.holdsEither_of_holdsInt (holdsInt_toInt64 _))
  · rw [Rules.lowerBound_of_unbounded (h hfloat), Reads.ofFloat_one]
    exact .one
  · exact .of_plain trivial
  · exact .of_plain ⟨Dict.ordered_nil, trivial⟩

theorem height_sampleValue (f : Model.Field) (rules : Rules) :
    (ofJson (sampleValue f rules)).height ≤ 1 := by
  rcases sampleValue_cases f rules with ⟨s, hs⟩ | hs | hs | ⟨-, hs⟩ | hs | hs <;> rw [hs]
  · exact Nat.zero_le _
  · exact Nat.zero_le _
  · exact Nat.zero_le _
  · unfold Json.ofFloat
    split <;> exact Nat.zero_le _
  · exact Nat.le_refl _
  · exact Nat.le_refl _

theorem height_obj_le {entries : List (String × Json)} {n : Nat}
    (h : ∀ e ∈ entries, (ofJson e.2).height ≤ n) :
    (ofJson (.obj entries)).height ≤ n + 1 := by
  rw [ofJson, height, Nat.succ_le_succ_iff]
  induction entries with
  | nil => exact Nat.zero_le _
  | cons e entries ih =>
    rw [ofEntries, heightEntries]
    exact max_le (h e List.mem_cons_self) (ih fun q hq => h q (List.mem_cons_of_mem _ hq))

theorem exists_sampleEntry {fields : List Model.Field} {e : String × Json}
    (h : e ∈ Dict.ofEntries (fields.map sampleEntry)) : ∃ f ∈ fields, sampleEntry f = e :=
  List.mem_map.1 (Dict.mem_of_mem_ofEntries h)

theorem parse?_minimalBody (h : ∀ f ∈ fields, f.goType = "float64" → (Rules.ofField f).Unbounded) :
    parse? (minimalBody fields exclude).compact = some (minimalBody fields exclude) := by
  have hfield {f : Model.Field} (hf : f ∈ included exclude fields) :
      Reads (sampleValue f (.ofField f)) :=
    reads_sampleValue (h f (mem_included.1 hf).1)
  by_cases hlength : (included exclude fields).length = 1
  · obtain ⟨f, hf⟩ := List.length_eq_one_iff.1 hlength
    rw [minimalBody_of_single hf]
    refine (hfield (by rw [hf]; exact List.mem_singleton_self f)).parse?_compact ?_
    exact (height_sampleValue f _).trans (by decide)
  · rw [minimalBody_of_several hlength]
    refine (Reads.obj (Dict.ordered_ofEntries _) fun e he => ?_).parse?_compact ?_
    · obtain ⟨f, hf, rfl⟩ := exists_sampleEntry he
      rw [sampleEntry_snd]
      exact hfield hf
    · refine (height_obj_le (n := 1) fun e he => ?_).trans (by decide)
      obtain ⟨f, -, rfl⟩ := exists_sampleEntry he
      rw [sampleEntry_snd]
      exact height_sampleValue f _

end Text

/-! The bodies of a suite. -/

section Suite

variable {model : Model} {c : Case} {input : Model.Entity}

theorem Case.eq_of_mem_suite (h : c ∈ (suite model).cases) :
    c = Case.of model c.name c.endpoint := by
  rw [cases_eq_map] at h
  obtain ⟨p, -, rfl⟩ := List.mem_map.1 h
  rw [Case.name_of, Case.endpoint_of]

theorem Case.of_eq_of_input {e : Model.Endpoint}
    (h : Model.inputOf model.services e.service e.rpc = some input)
    (name : String) : (Case.of model name e).body =
    (minimalBody input.fields (excludedFields e)).compact ∧
      (Case.of model name e).hasRequired = Contract.hasRequired input.fields
      (excludedFields e) := by
  unfold Case.of
  rw [h]
  exact ⟨rfl, rfl⟩

/-- The names that a request of the endpoint gives outside of its body. -/
def givenNames (e : Model.Endpoint) : List String :=
  e.pathParams ++ (e.declared.auth.map EndpointAuth.inject).getD []

theorem mem_excludedFields {e : Model.Endpoint} {name : String} (h : name ∈ givenNames e) :
    Text.lower name ∈ excludedFields e :=
  List.mem_map_of_mem h

theorem lower_key_ne {fields : List Model.Field} {e : Model.Endpoint}
    {entries : List (String × Json)}
    (hbody : minimalBody fields (excludedFields e) = .obj entries) {key name : String}
    (hkey : key ∈ entries.map Prod.fst) (hname : name ∈ givenNames e) :
    Text.lower key ≠ Text.lower name := by
  obtain ⟨f, hf, rfl⟩ := exists_field_of_key hbody hkey
  rw [Text.lower_lower]
  intro hsame
  exact (mem_included.1 hf).2.1 (hsame ▸ mem_excludedFields hname)

/-- A minimal body holds just the required fields. It is read back from its text; the value of a
single field stands for itself, and otherwise the names of the fields in lower case are the keys of
an object. Where a field must be sent, a field is there. In the body of an endpoint no key is a name
that the path or the identity of the caller gives. -/
theorem minimalBody_holds_required (fields : List Model.Field) (exclude : List String)
    (h : ∀ f ∈ fields, f.goType = "float64" → (Rules.ofField f).Unbounded) :
    Json.parse? (minimalBody fields exclude).compact = some (minimalBody fields exclude) ∧
      (∀ f, included exclude fields = [f] → minimalBody fields exclude =
        sampleValue f (.ofField f)) ∧
      ((included exclude fields).length ≠ 1 → ∃ entries, minimalBody fields exclude = .obj entries ∧
        (entries.map Prod.fst).Nodup ∧
        ∀ key, key ∈ entries.map Prod.fst ↔ ∃ f ∈ included exclude fields, Text.lower f.name =
          key) ∧
      (hasRequired fields exclude = true → included exclude fields ≠ []) ∧
      ∀ model, ∀ c ∈ (suite model).cases, ∀ input,
        Model.inputOf model.services c.endpoint.service c.endpoint.rpc = some input →
        c.hasRequired = hasRequired input.fields (excludedFields c.endpoint) ∧
          c.body = (minimalBody input.fields (excludedFields c.endpoint)).compact ∧
          ∀ entries, minimalBody input.fields (excludedFields c.endpoint) = .obj entries →
            ∀ key ∈ entries.map Prod.fst, ∀ name ∈ givenNames c.endpoint, Text.lower key ≠
              Text.lower name := by
  refine ⟨parse?_minimalBody h, fun f => minimalBody_of_single, fun hlength => ?_,
    included_ne_nil, ?_⟩
  · exact ⟨_, minimalBody_of_several hlength, Dict.nodup_keys (Dict.ordered_ofEntries _),
      fun key => mem_keys_several⟩
  · intro model c hc input hinput
    obtain ⟨hbody, hrequired⟩ := Case.of_eq_of_input hinput c.name
    rw [← Case.eq_of_mem_suite hc] at hbody hrequired
    exact ⟨hrequired, hbody, fun entries hentries key hkey name hname =>
      lower_key_ne hentries hkey hname⟩

def signupFields : List Model.Field := [
  { (default : Model.Field) with name := "Größe", goType := "string" },
  { (default : Model.Field) with name := "rate", goType := "float64" },
  { (default : Model.Field) with name := "COMPANYName", goType := "string", optional := true },
  { (default : Model.Field) with
    name := "Seats", goType := "int", optional := true, validateTag := "min=3, required" },
  { (default : Model.Field) with
    name := "note", goType := "string", optional := true, binding := "max=10" },
  { (default : Model.Field) with name := "userID", goType := "string" }]

def signupInput : Model.Entity := { fields := signupFields }

def signupEndpoint : Model.Endpoint where
  declared :=
    { method := "POST", path := "/signup/\x7brate\x7d", service := "Accounts", rpc := "SignUp",
      auth := some { inject := ["userId"] } }

def signup : Model where
  services := [{ name := "Accounts", methods := [{ name := "SignUp", input := some signupInput }] }]
  endpoints := [signupEndpoint]

theorem minimalBody_holds_required_signup :
    (minimalBody signupFields ["userid"]).compact =
        "\x7b\"companyname\":\"Test Company\",\"größe\":\"test\",\"rate\":1.0,\"seats\":3\x7d" ∧
      Json.parse? (minimalBody signupFields ["userid"]).compact =
      some (minimalBody signupFields ["userid"]) ∧
      (∃ entries, minimalBody signupFields ["userid"] = .obj entries ∧
        (entries.map Prod.fst).Nodup ∧ ∀ key, key ∈ entries.map Prod.fst ↔
        ∃ f ∈ included ["userid"] signupFields, Text.lower f.name = key) ∧
      included ["userid"] signupFields ≠ [] ∧
      ∀ c ∈ (suite signup).cases,
        c.body = "\x7b\"companyname\":\"Test Company\",\"größe\":\"test\",\"seats\":3\x7d" ∧
        ∀ entries, minimalBody signupFields (excludedFields c.endpoint) = .obj entries →
          ∀ key ∈ entries.map Prod.fst, ∀ name ∈ givenNames c.endpoint, Text.lower key ≠
            Text.lower name := by
  obtain ⟨hread, -, hkeys, hrequired, hsuite⟩ :=
    minimalBody_holds_required signupFields ["userid"] (by decide +kernel)
  refine ⟨by
    decide +kernel, hread, hkeys (by decide +kernel), hrequired (by decide +kernel), fun c hc => ?_⟩
  have hendpoint : c.endpoint = signupEndpoint := by
    have hmem := List.mem_map_of_mem (f := Case.endpoint) hc
    rw [endpoints_cases] at hmem
    exact List.mem_singleton.1 hmem
  obtain ⟨-, hbody, hapart⟩ := hsuite signup c hc signupInput (by rw [hendpoint]; rfl)
  refine ⟨hbody.trans ?_, hapart⟩
  rw [hendpoint]
  decide +kernel

end Suite

end GoScaffold.Contract
