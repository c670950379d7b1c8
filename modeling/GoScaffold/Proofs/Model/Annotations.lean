import GoScaffold.Model.Field
import Mathlib.Data.List.Induction

/-! What attributes and metadata make of a field. Of the attributes that fill a slot the last one
counts. Metadata fills the validation rule and the column type only where the attributes left them
empty, but it replaces what they say about a file. -/

namespace GoScaffold.Model

def lastNamed? (names : List String) (attributes : List Attribute) : Option Attribute :=
  attributes.reverse.find? fun a => names.contains a.name

theorem lastNamed?_concat (names : List String) (attributes : List Attribute) (a : Attribute) :
    lastNamed? names (attributes ++ [a]) = if a.name ∈ names then some a
    else lastNamed? names attributes := by
  simp only [lastNamed?, List.reverse_concat, List.find?_cons, List.contains_eq_mem]
  split_ifs with hname <;> simp [hname]

/-- The file that an attribute speaks of. Images have a kind of their own and thumbnails. -/
def fileOf (a : Attribute) : FileInfo :=
  if a.name = "image" then { kind := "image", thumbnail := true }
  else { kind := textArg a.args "kind", thumbnail := boolArg a.args "thumbnail" }

structure Slots where
  validateTag : String
  columnType : String
  file : Option FileInfo
deriving DecidableEq

namespace Slots

/-- What the attributes of a field say, with the field's own rule where no attribute has one. -/
def ofAttributes (f : GoScaffold.Field) : Slots where
  validateTag :=
    ((lastNamed? ["validate"] f.attributes).map fun a => textArg a.args "rule").getD f.validateTag
  columnType := ((lastNamed? ["db"] f.attributes).map fun a => textArg a.args "type").getD ""
  file := (lastNamed? ["image", "file"] f.attributes).map fileOf

def ofAnnotations (a : Annotations) : Slots := ⟨a.validateTag, a.column.type, a.file⟩

/-- What the first slots hold is held by the other ones, too. A file without a kind does not
count. -/
def Keeps (s t : Slots) : Prop :=
  (s.validateTag ≠ "" → t.validateTag = s.validateTag) ∧
    (s.columnType ≠ "" → t.columnType = s.columnType) ∧ ∀ info, s.file = some info →
    info.kind ≠ "" → t.file = some info

end Slots

def Field.slots (f : Field) : Slots := ⟨f.validateTag, f.column.type, f.file⟩

namespace Annotations

theorem slots_addAttribute (a : Annotations) (attr : Attribute) :
    Slots.ofAnnotations (a.addAttribute attr) =
      { validateTag := if attr.name ∈ ["validate"] then textArg attr.args "rule" else a.validateTag
        columnType := if attr.name ∈ ["db"] then textArg attr.args "type" else a.column.type
        file := if attr.name ∈ ["image", "file"] then some (fileOf attr) else a.file } := by
  unfold addAttribute Slots.ofAnnotations fileOf
  dsimp only
  split
  next hname => simp [hname]
  next hname => simp [hname]
  next hname =>
    rw [hname]
    split <;> rfl
  next hname => simp [hname]
  next hname => simp [hname]
  next hdb hvalidate _ himage hfile =>
    have hneither : attr.name ∉ ["image", "file"] := by simpa using ⟨himage, hfile⟩
    rw [if_neg (by simpa using hvalidate), if_neg (by simpa using hdb), if_neg hneither]

/-- Attributes are taken in one after the other, so the last one for a slot fills it. -/
theorem slots_foldl (a : Annotations) (attributes : List Attribute) :
    Slots.ofAnnotations (attributes.foldl addAttribute a) =
      { validateTag := ((lastNamed? ["validate"] attributes).map fun b =>
        textArg b.args "rule").getD a.validateTag
        columnType :=
          ((lastNamed? ["db"] attributes).map fun b => textArg b.args "type").getD a.column.type
        file := ((lastNamed? ["image", "file"] attributes).map fileOf).or a.file } := by
  induction attributes using List.reverseRecOn with
  | nil => rfl
  | append_singleton attributes attr ih =>
    obtain ⟨htag, htype, hfile⟩ := Slots.mk.inj ih
    rw [List.foldl_append, List.foldl_cons, List.foldl_nil, slots_addAttribute, lastNamed?_concat,
      lastNamed?_concat, lastNamed?_concat, htag, htype, hfile, Slots.mk.injEq]
    refine ⟨?_, ?_, ?_⟩
    all_goals split_ifs <;> rfl

variable (a : Annotations) (m : Metadata)

theorem text_addMetadata :
    (a.addMetadata m).validateTag =
        (if a.validateTag = "" then textArg m "validate_tag" else a.validateTag) ∧
      (a.addMetadata m).column.type =
        if a.column.type = "" then textArg m "sql_type" else a.column.type := by
  simp only [addMetadata, String.isEmpty_iff, and_self]

theorem slots_addMetadata_nil : Slots.ofAnnotations (a.addMetadata []) = .ofAnnotations a := by
  obtain ⟨htag, htype⟩ := a.text_addMetadata []
  have hnone (x : String) : (if x = "" then "" else x) = x := by
    split_ifs with hx
    · exact hx.symm
    · rfl
  have hfile : (a.addMetadata []).file = a.file := rfl
  rw [Slots.ofAnnotations, htag, htype, hfile]
  exact congrArg₂ (Slots.mk · · a.file) (hnone _) (hnone _)

theorem file_addMetadata {info : FileInfo} (h : a.file = some info) :
    (a.addMetadata m).file = some
      { kind := (text? m "file_kind").getD info.kind
        thumbnail := (bool? m "generate_thumbnail").getD info.thumbnail } := by
  unfold addMetadata
  dsimp only
  rw [h]
  cases text? m "file_kind" <;> cases bool? m "generate_thumbnail" <;> rfl

end Annotations

def attributed (f : GoScaffold.Field) : Annotations :=
  f.attributes.foldl Annotations.addAttribute { validateTag := f.validateTag, envVar := f.envVar }

theorem slots_attributed (f : GoScaffold.Field) :
    Slots.ofAnnotations (attributed f) = .ofAttributes f := by
  rw [attributed, Annotations.slots_foldl, Option.or_none]
  rfl

theorem slots_ofField (f : GoScaffold.Field) :
    (ofField f).slots = .ofAnnotations ((attributed f).addMetadata f.metadata) := by
  rcases f with ⟨name, ⟨kind, typeName, item, key, inlineFields⟩, optional, default, isSecret,
    isPersonal, skipDomain, validateTag, envVar, constraints, attributes, ui, metadata, source⟩
  rw [ofField]
  rfl

theorem getD_eq_iff {α : Type} {x : Option α} {a : α} : x.getD a = a ↔ ∀ b, x = some b → b = a := by
  cases x <;> simp

/-- Without metadata a field has what its attributes say. With metadata it keeps a rule and a column
type that they give, and takes over those of the metadata otherwise. All that they say is kept
exactly if the metadata do not say otherwise about a file that they give a kind. -/
theorem ofField_keeps_attributes_iff (f : GoScaffold.Field) :
    (ofField { f with metadata := [] }).slots = .ofAttributes f ∧
      (ofField f).validateTag =
        (if (Slots.ofAttributes f).validateTag = "" then textArg f.metadata "validate_tag"
        else (Slots.ofAttributes f).validateTag) ∧
      (ofField f).column.type =
        (if (Slots.ofAttributes f).columnType = "" then textArg f.metadata "sql_type"
        else (Slots.ofAttributes f).columnType) ∧
      ((Slots.ofAttributes f).Keeps (ofField f).slots ↔
        ∀ info, (Slots.ofAttributes f).file = some info → info.kind ≠ "" →
          (∀ kind, text? f.metadata "file_kind" = some kind → kind = info.kind) ∧
          ∀ thumbnail, bool? f.metadata "generate_thumbnail" = some thumbnail →
            thumbnail = info.thumbnail) := by
  have hbare : (ofField { f with metadata := [] }).slots = .ofAttributes f := by
    rw [slots_ofField, Annotations.slots_addMetadata_nil]
    exact slots_attributed f
  obtain ⟨htag, htype, hfile⟩ := Slots.mk.inj (slots_ofField f)
  obtain ⟨hattrTag, hattrType, hattrFile⟩ := Slots.mk.inj (slots_attributed f)
  obtain ⟨hgivenTag, hgivenType⟩ := (attributed f).text_addMetadata f.metadata
  rw [hgivenTag, hattrTag] at htag
  rw [hgivenType, hattrType] at htype
  refine ⟨hbare, htag, htype, ?_⟩
  have hkept : ∀ info, (Slots.ofAttributes f).file = some info →
      ((ofField f).slots.file = some info ↔ (∀ kind, text? f.metadata "file_kind" = some kind →
        kind = info.kind) ∧
      ∀ thumbnail, bool? f.metadata "generate_thumbnail" = some thumbnail →
        thumbnail = info.thumbnail) := by
    rintro ⟨kind, thumbnail⟩ hinfo
    have hgiven := (attributed f).file_addMetadata f.metadata (hattrFile.trans hinfo)
    rw [← getD_eq_iff, ← getD_eq_iff]
    show (ofField f).file = _ ↔ _
    rw [hfile, hgiven, Option.some.injEq, FileInfo.mk.injEq]
  constructor
  · rintro ⟨-, -, hfiles⟩ info hinfo hkind
    exact (hkept info hinfo).1 (hfiles info hinfo hkind)
  · intro hagrees
    refine ⟨fun hne => ?_, fun hne => ?_, fun info hinfo hkind =>
      (hkept info hinfo).2 (hagrees info hinfo hkind)⟩
    · exact htag.trans (if_neg hne)
    · exact htype.trans (if_neg hne)

def scanField : GoScaffold.Field :=
  { GoScaffold.Field.blank with
    name := "scan"
    attributes := [{ name := "image" }]
    metadata := [("file_kind", .str "pdf"), ("generate_thumbnail", .bool false)] }

/-- The metadata take the place of what the attributes say about the file. -/
theorem scan_not_kept :
    (Slots.ofAttributes scanField).file = some { kind := "image", thumbnail := true } ∧
      (ofField scanField).file = some { kind := "pdf", thumbnail := false } ∧
      ¬(Slots.ofAttributes scanField).Keeps (ofField scanField).slots := by
  have hattributes : (Slots.ofAttributes scanField).file =
      some { kind := "image", thumbnail := true } := by
    decide +kernel
  have hgiven : (ofField scanField).file = some { kind := "pdf", thumbnail := false } := by
    decide +kernel
  refine ⟨hattributes, hgiven, ?_⟩
  rintro ⟨-, -, hfile⟩
  have hkept := hfile _ hattributes (by decide)
  exact absurd (hgiven.symm.trans hkept) (by decide)

end GoScaffold.Model
