import GoScaffold.GoType
import GoScaffold.Proofs.Name
import GoScaffold.Proofs.Region.Marker

/-! Types of transfer objects. They are spelled from the schema, or from the spelling of the domain
type by looking for the package name in it. Both ways give one text, since the package name with its
point stands in a domain type only where a schema entity is referred to. -/

namespace GoScaffold

namespace TypeRef

theorem nested_induction {motive : TypeRef → Prop}
    (step : ∀ t, (∀ item, t.item = some item → motive item) →
      (∀ key, t.key = some key → motive key) → motive t)
    (t : TypeRef) : motive t := by
  refine @TypeRef.rec motive (fun _ => True) (fun nested => ∀ t, nested = some t →
    motive t) (fun _ => True)
    ?_ ?_ ?_ ?_ ?_ ?_ t
  · intro kind name item key inlineFields hitem hkey _
    exact step _ hitem hkey
  · intros
    trivial
  · intro t h
    cases h
  · intro nested hnested t h
    cases h
    exact hnested
  · trivial
  · intros
    trivial

/-- The names that the Go type spells: of entities, and of list items that are described in
place. -/
def spelledNames : TypeRef → List String
  | ⟨kind, name, item, key, inlineFields⟩ =>
    match kind with
    | .entity => [name]
    | .list =>
      if !inlineFields.isEmpty then (item.map TypeRef.name).toList
      else match item with
        | some item => spelledNames item
        | none => []
    | .map =>
      (match key with
        | some key => spelledNames key
        | none => []) ++
      match item with
        | some item => spelledNames item
        | none => []
    | _ => []

section

variable (name : String) (item key : Option TypeRef) (inlineFields : List Field)

theorem goType_list (flavor : Flavor) (field : String) :
    goType flavor field ⟨.list, name, item, key, inlineFields⟩ =
      if inlineFields = [] then "[]" ++ (item.map (goType flavor field)).getD "any"
      else "[]" ++ inlineItemName ⟨.list, name, item, key, inlineFields⟩ field := by
  cases inlineFields <;> cases item <;> rfl

theorem goType_map (flavor : Flavor) (field : String) :
    goType flavor field ⟨.map, name, item, key, inlineFields⟩ =
      "map[" ++ (key.map (goType flavor field)).getD "string" ++ "]" ++
        (item.map (goType flavor field)).getD "any" := by
  cases item <;> cases key <;> rfl

theorem goType_entity (flavor : Flavor) (field : String) :
    goType flavor field ⟨.entity, name, item, key, inlineFields⟩ =
      if name.isEmpty then "any" else flavor.entityType name :=
  rfl

theorem spelledNames_list :
    spelledNames ⟨.list, name, item, key, inlineFields⟩ =
      if inlineFields = [] then (item.map spelledNames).getD []
          else (item.map TypeRef.name).toList := by
  cases inlineFields <;> cases item <;> rfl

theorem spelledNames_map :
    spelledNames ⟨.map, name, item, key, inlineFields⟩ =
      (key.map spelledNames).getD [] ++ (item.map spelledNames).getD [] := by
  cases item <;> cases key <;> rfl

end

end TypeRef

namespace GoType

open Text

def Closes (rest : List Char) : Prop := rest = [] ∨ rest.head? = some ']'

theorem closes_cons_iff {c : Char} {rest : List Char} : Closes (c :: rest) ↔ c = ']' := by
  simp [Closes]

section

variable {cs rest : List Char}

theorem afterPrefix?_eq_none (hpoint : '.' ∉ cs) (hrest : Closes rest) :
    afterPrefix? "domain.".toList (cs ++ rest) = none := by
  rw [Option.eq_none_iff_forall_ne_some]
  intro tail htail
  have hsplit : "domain.".toList ++ tail = "domain".toList ++ '.' :: tail := rfl
  have heq := (afterPrefix?_eq_some_iff.1 htail).trans hsplit
  rcases List.append_eq_append_iff.1 heq with ⟨word, hword, hclose⟩ | ⟨word, rfl, hclose⟩
  · -- The text closes within the qualifier, which has no bracket.
    cases word with
    | nil => exact absurd (closes_cons_iff.1 (hclose ▸ hrest)) (by decide)
    | cons c word =>
      have hc : c = ']' := closes_cons_iff.1 (hclose ▸ hrest)
      have hmem : ']' ∈ "domain".toList := hword ▸ hc ▸ List.mem_append_right _ List.mem_cons_self
      exact absurd hmem (by decide)
  · cases word with
    | nil =>
      rw [List.nil_append] at hclose
      exact absurd (closes_cons_iff.1 (hclose ▸ hrest)) (by decide)
    | cons c word =>
      rw [List.cons_append, List.cons.injEq] at hclose
      exact hpoint (hclose.1 ▸ List.mem_append_right _ List.mem_cons_self)

theorem toDtoFrom_of_no_d (hd : 'd' ∉ cs) :
    toDtoFrom false 0 (cs ++ rest) = cs ++ toDtoFrom false 0 rest := by
  induction cs with
  | nil => rfl
  | cons c cs ih =>
    rw [List.mem_cons, not_or] at hd
    have hnone : afterPrefix? "domain.".toList (c :: (cs ++ rest)) = none := by
      simp [afterPrefix?, hd.1]
    rw [List.cons_append, toDtoFrom, hnone, ih hd.2]
    rfl

theorem toDtoFrom_of_no_point (hpoint : '.' ∉ cs) (hrest : Closes rest) :
    toDtoFrom false 0 (cs ++ rest) = cs ++ toDtoFrom false 0 rest := by
  induction cs with
  | nil => rfl
  | cons c cs ih =>
    have hnone := afterPrefix?_eq_none hpoint hrest
    rw [List.cons_append] at hnone
    rw [List.cons_append, toDtoFrom, hnone, ih fun h => hpoint (List.mem_cons_of_mem c h)]
    rfl

theorem toDtoFrom_name (hname : ∀ c ∈ cs, isAlphanumeric c = true ∨ c = '_') (hrest : Closes rest) :
    toDtoFrom true 0 (cs ++ rest) = cs ++ "DTO".toList ++ toDtoFrom false 0 rest := by
  induction cs with
  | nil =>
    cases rest with
    | nil => rfl
    | cons c rest =>
      have hc : c = ']' := closes_cons_iff.1 hrest
      have hbracket : (isAlphanumeric ']' || ']' == '_') = false := by decide +kernel
      have hnone := @afterPrefix?_eq_none [] (c :: rest) List.not_mem_nil hrest
      rw [List.nil_append] at hnone
      rw [List.nil_append, toDtoFrom, toDtoFrom, hnone, hc, hbracket]
      rfl
  | cons c cs ih =>
    rw [List.forall_mem_cons] at hname
    have hc : (isAlphanumeric c || c == '_') = true := by simpa using hname.1
    rw [List.cons_append, toDtoFrom, if_pos hc, ih hname.2]
    rfl

end

def IsName (name : String) : Prop := ∀ c ∈ name.toList, isAlphanumeric c = true ∨ c = '_'

instance (name : String) : Decidable (IsName name) := List.decidableBAll _ name.toList

/-- In a longer type expression too, the first spelling is turned into the second. -/
def Transfers (domain dto : String) : Prop :=
  ∀ rest, Closes rest → toDtoFrom false 0 (domain.toList ++ rest) = dto.toList ++
    toDtoFrom false 0 rest

section

variable {type name : String} {key key' value value' : String}

theorem Transfers.toDto_eq (h : Transfers value value') : toDto value = value' := by
  have hall := h [] (.inl rfl)
  rw [List.append_nil, toDtoFrom] at hall
  rw [toDto, hall]
  simp

theorem transfers_of_no_d (h : 'd' ∉ type.toList) : Transfers type type :=
  fun _ _ => toDtoFrom_of_no_d h

theorem transfers_of_no_point (h : '.' ∉ type.toList) : Transfers type type :=
  fun _ => toDtoFrom_of_no_point h

theorem transfers_entity (h : IsName name) :
    Transfers (Flavor.domain.entityType name) (Flavor.dto.entityType name) := by
  intro rest hrest
  have hqualified (cs : List Char) : toDtoFrom false 0 ("domain.".toList ++ cs) =
      toDtoFrom true 0 cs := rfl
  rw [Flavor.entityType, Flavor.entityType, String.toList_append, String.toList_append,
    List.append_assoc, hqualified, toDtoFrom_name h hrest]

theorem Transfers.list (h : Transfers value value') :
    Transfers ("[]" ++ value) ("[]" ++ value') := by
  intro rest hrest
  rw [String.toList_append, String.toList_append, List.append_assoc, List.append_assoc,
    toDtoFrom_of_no_d (by decide), h rest hrest]

theorem Transfers.map (hkey : Transfers key key') (hvalue : Transfers value value') :
    Transfers ("map[" ++ key ++ "]" ++ value) ("map[" ++ key' ++ "]" ++ value') := by
  intro rest hrest
  simp only [String.toList_append, List.append_assoc]
  rw [toDtoFrom_of_no_d (by decide), hkey _ (.inr rfl), toDtoFrom_of_no_d (by decide),
    hvalue rest hrest]

end

end GoType

namespace TypeRef

open GoType

variable {field : String} {t : TypeRef}

theorem transfers_inlineItemName (h : ∀ item, t.item = some item → IsName item.name) :
    Transfers (t.inlineItemName field) (t.inlineItemName field) := by
  have hpoint : ¬ (Text.isAlphanumeric '.' = true ∨ '.' = '_') := by decide +kernel
  have hfield : Transfers (Name.exported field ++ "Item") (Name.exported field ++ "Item") := by
    rcases Name.not_mem_exported field with hfield | hfield
    · exact transfers_of_no_point (by simpa using hfield)
    · exact transfers_of_no_d (by simpa using hfield)
  unfold inlineItemName
  split
  next item hitem =>
    split_ifs
    · exact hfield
    · exact transfers_of_no_point fun hmem => hpoint (h item hitem '.' hmem)
  next => exact hfield

theorem transfers_nested {nested : Option TypeRef} {word : String} (hword : 'd' ∉ word.toList)
    (h : ∀ t, nested = some t → Transfers (t.goType .domain field) (t.goType .dto field)) :
    Transfers ((nested.map (goType .domain field)).getD word)
    ((nested.map (goType .dto field)).getD word) := by
  cases nested with
  | none => exact transfers_of_no_d hword
  | some t => exact h t rfl

theorem transfers_goType (h : ∀ name ∈ t.spelledNames, IsName name) :
    Transfers (t.goType .domain field) (t.goType .dto field) := by
  induction t using nested_induction with
  | step t ihitem ihkey =>
    obtain ⟨kind, name, item, key, inlineFields⟩ := t
    cases kind with
    | list =>
      rw [spelledNames_list] at h
      rw [goType_list, goType_list]
      split_ifs at h ⊢ with hfields
      · refine (transfers_nested (by decide) fun t ht => ihitem t ht ?_).list
        cases ht
        exact h
      · refine (transfers_inlineItemName fun t ht => ?_).list
        cases ht
        exact h t.name List.mem_cons_self
    | map =>
      rw [spelledNames_map, List.forall_mem_append] at h
      rw [goType_map, goType_map]
      refine (transfers_nested (by decide) fun t ht => ihkey t ht ?_).map
        (transfers_nested (by decide) fun t ht => ihitem t ht ?_)
      · cases ht
        exact h.1
      · cases ht
        exact h.2
    | entity =>
      rw [goType_entity, goType_entity]
      split_ifs
      · exact transfers_of_no_d (by decide)
      · exact transfers_entity (h name List.mem_cons_self)
    | _ => exact transfers_of_no_d (by simp [goType])

/-- The transfer spelling of the domain type is the type that is spelled for transfer objects,
whatever the field and however often a name has the package name in it. -/
theorem toDto_goType (field : String) (h : ∀ name ∈ t.spelledNames, IsName name) :
    toDto (t.goType .domain field) = t.goType .dto field :=
  (transfers_goType h).toDto_eq

def domains : TypeRef :=
  ⟨.map, "", some ⟨.map, "", some ⟨.list, "", none, none, [.blank]⟩,
    some ⟨.entity, "sub_domain", none, none, []⟩, []⟩, some ⟨.entity, "domain", none, none, []⟩, []⟩

theorem toDto_goType_domains :
    domains.goType .domain "domain.parts" =
    "map[domain.domain]map[domain.sub_domain][]DomainPartsItem" ∧
      domains.goType .dto "domain.parts" = "map[domainDTO]map[sub_domainDTO][]DomainPartsItem" ∧
      (∀ name ∈ domains.spelledNames, IsName name) ∧
      toDto (domains.goType .domain "domain.parts") = domains.goType .dto "domain.parts" := by
  have hnames : ∀ name ∈ domains.spelledNames, IsName name := by decide +kernel
  exact ⟨by decide +kernel, by decide +kernel, hnames, toDto_goType "domain.parts" hnames⟩

end TypeRef

end GoScaffold
