import GoScaffold.Proofs.Artifact.DomainTypes
import GoScaffold.Proofs.GoType

/-! Item types as they are spelled and as they are declared. The Go type of a field spells a name
for each list in it whose items are described in place, also for a list within a list or a map.
Declarations are made from the outermost type of a field only, whatever its kind, and once for each
name. The two agree exactly if lists alone describe items, no list is spelled only within another
type, and lists of one name describe the same items. -/

namespace GoScaffold

namespace TypeRef

def inlineLists : TypeRef → List TypeRef
  | ⟨kind, name, item, key, inlineFields⟩ =>
    match kind with
    | .list =>
      if !inlineFields.isEmpty then [⟨kind, name, item, key, inlineFields⟩]
      else match item with
        | some item => inlineLists item
        | none => []
    | .map =>
      (match key with
        | some key => inlineLists key
        | none => []) ++
      match item with
        | some item => inlineLists item
        | none => []
    | _ => []

section

variable (name : String) (item key : Option TypeRef) (inlineFields : List Field)

theorem inlineLists_list :
    inlineLists ⟨.list, name, item, key, inlineFields⟩ =
      if inlineFields = [] then (item.map inlineLists).getD []
      else [⟨.list, name, item, key, inlineFields⟩] := by
  cases inlineFields <;> cases item <;> rfl

theorem inlineLists_map :
    inlineLists ⟨.map, name, item, key, inlineFields⟩ =
      (key.map inlineLists).getD [] ++ (item.map inlineLists).getD [] := by
  cases item <;> cases key <;> rfl

end

section

variable {t list : TypeRef} {field : String} {flavor : Flavor}

theorem exists_of_mem_getD {nested : Option TypeRef} (h : list ∈ (nested.map inlineLists).getD []) :
    ∃ t, nested = some t ∧ list ∈ t.inlineLists := by
  cases nested with
  | none => cases h
  | some t => exact ⟨t, rfl, h⟩

theorem inlineLists_induction {motive : TypeRef → Prop}
    (self : list.kind = .list → list.inlineFields ≠ [] → motive list)
    (item : ∀ t item, t.kind = .list → t.inlineFields = [] → t.item = some item →
      motive item → motive t)
    (mapKey : ∀ t key, t.kind = .map → t.key = some key → motive key → motive t)
    (mapItem : ∀ t item, t.kind = .map → t.item = some item → motive item → motive t)
    (h : list ∈ t.inlineLists) : motive t := by
  induction t using nested_induction with
  | step t ihitem ihkey =>
    obtain ⟨kind, name, item', key', inlineFields⟩ := t
    cases kind with
    | list =>
      rw [inlineLists_list] at h
      split_ifs at h with hfields
      · obtain ⟨t, ht, hmem⟩ := exists_of_mem_getD h
        exact item _ t rfl hfields ht (ihitem t ht hmem)
      · cases List.mem_singleton.1 h
        exact self rfl hfields
    | map =>
      rw [inlineLists_map, List.mem_append] at h
      rcases h with h | h
      · obtain ⟨t, ht, hmem⟩ := exists_of_mem_getD h
        exact mapKey _ t rfl ht (ihkey t ht hmem)
      · obtain ⟨t, ht, hmem⟩ := exists_of_mem_getD h
        exact mapItem _ t rfl ht (ihitem t ht hmem)
    | _ => cases h

theorem isList_of_mem_inlineLists (h : list ∈ t.inlineLists) :
    list.kind = .list ∧ list.inlineFields ≠ [] := by
  refine inlineLists_induction (motive := fun _ => list.kind = .list ∧
    list.inlineFields ≠ []) ?_ ?_ ?_ ?_ h
  · exact fun hkind hfields => ⟨hkind, hfields⟩
  · exact fun _ _ _ _ _ ih => ih
  · exact fun _ _ _ _ ih => ih
  · exact fun _ _ _ _ ih => ih

theorem mem_inlineLists_self (hkind : t.kind = .list) (hfields : t.inlineFields ≠ []) :
    t ∈ t.inlineLists := by
  obtain ⟨kind, name, item, key, inlineFields⟩ := t
  cases hkind
  rw [inlineLists_list, if_neg hfields]
  exact List.mem_singleton_self _

theorem goType_inlineList (hkind : t.kind = .list) (hfields : t.inlineFields ≠ []) :
    t.goType flavor field = "[]" ++ t.inlineItemName field := by
  obtain ⟨kind, name, item, key, inlineFields⟩ := t
  cases hkind
  rw [goType_list, if_neg hfields]

theorem goType_infix (h : list ∈ t.inlineLists) :
    (list.goType flavor field).toList <:+: (t.goType flavor field).toList := by
  refine inlineLists_induction
    (motive := fun t => (list.goType flavor field).toList <:+: (t.goType flavor field).toList) ?_ ?_
    ?_ ?_ h
  · exact fun _ _ => List.infix_rfl
  · rintro ⟨kind, name, _, key, inlineFields⟩ item rfl hfields rfl ih
    rw [goType_list, if_pos hfields, String.toList_append]
    exact ih.trans (List.suffix_append _ _).isInfix
  · rintro ⟨kind, name, item, _, inlineFields⟩ key rfl rfl ih
    rw [goType_map, String.append_assoc, String.toList_append, String.toList_append]
    exact ih.trans (((List.suffix_append _ _).isInfix).trans (List.prefix_append _ _).isInfix)
  · rintro ⟨kind, name, _, key, inlineFields⟩ item rfl rfl ih
    rw [goType_map, String.toList_append]
    exact ih.trans (List.suffix_append _ _).isInfix

theorem inlineItemName_ne_empty (t : TypeRef) (field : String) : t.inlineItemName field ≠ "" := by
  unfold inlineItemName
  have hitem : Name.exported field ++ "Item" ≠ "" := by simp
  split
  · split_ifs with hname
    · exact hitem
    · exact fun h => hname (h ▸ rfl)
  · exact hitem

end

end TypeRef

namespace Model

theorem ofFields_eq_map (fields : List GoScaffold.Field) :
    ofFields fields = fields.map ofField := by
  induction fields with
  | nil => rfl
  | cons f fields ih => rw [ofFields, ih, List.map_cons]

theorem mem_ofFields {g : Field} {fields : List GoScaffold.Field} :
    g ∈ ofFields fields ↔ ∃ f ∈ fields, ofField f = g := by
  rw [ofFields_eq_map, List.mem_map]

theorem ofFields_eq_nil {fields : List GoScaffold.Field} : ofFields fields = [] ↔ fields = [] := by
  rw [ofFields_eq_map, List.map_eq_nil_iff]

theorem itemFields_ofField (f : GoScaffold.Field) :
    (ofField f).itemFields = ofFields f.type.inlineFields := by
  obtain ⟨name, ⟨kind, typeName, item, key, inlineFields⟩, _⟩ := f
  rfl

theorem itemTypeName_ofField (f : GoScaffold.Field) :
    (ofField f).itemTypeName = f.type.itemName f.name := by
  obtain ⟨name, ⟨kind, typeName, item, key, inlineFields⟩, _⟩ := f
  rfl

theorem skipDomain_ofField (f : GoScaffold.Field) : (ofField f).skipDomain = f.skipDomain := by
  obtain ⟨name, ⟨kind, typeName, item, key, inlineFields⟩, _⟩ := f
  rfl

end Model

namespace Artifact

/-! Declarations. -/

/-- A type of items that the fields describe, or that the fields of such a type do. -/
inductive Describes (fields : List Model.Field) : TypeDecl → Prop
  | here {f : Model.Field} : f ∈ fields → f.itemFields ≠ [] → Describes fields (itemType f)
  | inside {t : TypeDecl} {f : Model.Field} :
      Describes fields t → f ∈ t.fields → f.itemFields ≠ [] → Describes fields (itemType f)

theorem Describes.mono {fields more : List Model.Field} {t : TypeDecl} (hsub : fields ⊆ more)
    (h : Describes fields t) : Describes more t := by
  induction h with
  | here hf hitems => exact .here (hsub hf) hitems
  | inside _ hf hitems ih => exact .inside ih hf hitems

theorem Describes.trans {fields : List Model.Field} {t u : TypeDecl} (ht : Describes fields t)
    (h : Describes t.fields u) : Describes fields u := by
  induction h with
  | here hf hitems => exact .inside ht hf hitems
  | inside _ hf hitems ih => exact .inside ih hf hitems

theorem describes_of_mem_addItemTypes (found : List TypeDecl) (fields : List Model.Field) :
    ∀ t ∈ addItemTypes found fields, t ∈ found ∨ Describes fields t := by
  induction found, fields using addItemTypes_induction
    (fun found f => ∀ t ∈ addItemType found f, t ∈ found ∨ Describes [f] t) with
  | declared found f h t ht =>
    rw [addItemType_of_declared h] at ht
    exact .inl ht
  | fresh found f hitems hfresh ih t ht =>
    rw [addItemType_of_fresh hitems hfresh] at ht
    have hf : Describes [f] (itemType f) := .here (List.mem_singleton_self f) hitems
    rcases ih t ht with hmem | hdescribes
    · rcases List.mem_append.1 hmem with hmem | hmem
      · exact .inl hmem
      · rw [List.mem_singleton.1 hmem]
        exact .inr hf
    · exact .inr (hf.trans hdescribes)
  | nil found => exact fun t ht => .inl ht
  | cons found f rest ihf ih =>
    intro t ht
    rcases ih t ht with hmem | hdescribes
    · exact (ihf t hmem).imp_right (.mono (by simp))
    · exact .inr (hdescribes.mono (List.subset_cons_self f rest))

theorem describes_of_mem_itemTypes {fields : List Model.Field} {t : TypeDecl}
    (ht : t ∈ itemTypes fields) :
    Describes fields t :=
  (describes_of_mem_addItemTypes [] fields t ht).resolve_left List.not_mem_nil

/-! Spellings. -/

/-- The fields, and the fields that describe the items of a list which the type of such a field
spells. -/
inductive Below (fields : List Field) : Field → Prop
  | here {f : Field} : f ∈ fields → Below fields f
  | inside {f g : Field} {list : TypeRef} :
      Below fields f → list ∈ f.type.inlineLists → g ∈ list.inlineFields → Below fields g

/-- As before, but the list is the type of the field. -/
inductive Reached (fields : List Field) : Field → Prop
  | here {f : Field} : f ∈ fields → Reached fields f
  | inside {f g : Field} : Reached fields f → f.type.kind = .list → g ∈ f.type.inlineFields →
      Reached fields g

theorem Reached.isBelow {fields : List Field} {f : Field} (h : Reached fields f) :
    Below fields f := by
  induction h with
  | here hf => exact .here hf
  | inside _ hkind hg ih =>
    exact .inside ih (TypeRef.mem_inlineLists_self hkind (List.ne_nil_of_mem hg)) hg

def listType (field : String) (list : TypeRef) : TypeDecl :=
  { name := list.inlineItemName field, fields := Model.ofFields list.inlineFields }

/-- Every item type that is spelled is declared, under the name that is spelled, with the fields
that describe the items. No declaration lacks a name. -/
structure DeclaresSpelled (fields : List Field) (declared : List TypeDecl) : Prop where
  spelled : ∀ f, Below fields f → ∀ list ∈ f.type.inlineLists, ∃ name,
    (∀ flavor, list.goType flavor f.name = "[]" ++ name ∧
      (list.goType flavor f.name).toList <:+: (f.type.goType flavor f.name).toList) ∧
    { name, fields := Model.ofFields list.inlineFields } ∈ declared
  named : ∀ t ∈ declared, t.name ≠ ""

/-- What lets the names that are spelled be declared. -/
structure Orderly (fields : List Field) : Prop where
  listsOnly : ∀ f, Below fields f → f.type.inlineFields ≠ [] → f.type.kind = .list
  reached : ∀ f, Below fields f → ∀ list ∈ f.type.inlineLists, ∃ g, Reached fields g ∧
    g.type.kind = .list ∧ g.type.inlineFields ≠ [] ∧ g.type.inlineItemName g.name =
    list.inlineItemName f.name
  agree : ∀ f, Below fields f → ∀ a ∈ f.type.inlineLists, ∀ g, Below fields g →
      ∀ b ∈ g.type.inlineLists,
    a.inlineItemName f.name = b.inlineItemName g.name →
      Model.ofFields a.inlineFields = Model.ofFields b.inlineFields

section

variable {fields : List Field}

theorem itemType_ofField {f : Field} (hkind : f.type.kind = .list)
    (hfields : f.type.inlineFields ≠ []) :
    itemType (Model.ofField f) = listType f.name f.type := by
  have hname : f.type.itemName f.name = f.type.inlineItemName f.name := by
    unfold TypeRef.itemName
    simp [hkind, hfields]
  rw [itemType, Model.itemTypeName_ofField, Model.itemFields_ofField, hname]
  rfl

theorem itemFields_ofField_ne_nil {f : Field} :
    (Model.ofField f).itemFields ≠ [] ↔ f.type.inlineFields ≠ [] := by
  rw [Model.itemFields_ofField, ne_eq, Model.ofFields_eq_nil]

theorem exists_reached_of_describes
    (hlists : ∀ f, Reached fields f → f.type.inlineFields ≠ [] → f.type.kind = .list) {t : TypeDecl}
    (h : Describes (Model.ofFields fields) t) :
    ∃ f, Reached fields f ∧ f.type.kind = .list ∧ f.type.inlineFields ≠ [] ∧
      t = listType f.name f.type := by
  induction h with
  | here hf hitems =>
    obtain ⟨f, hmem, rfl⟩ := Model.mem_ofFields.1 hf
    rw [itemFields_ofField_ne_nil] at hitems
    have hreached : Reached fields f := .here hmem
    have hkind := hlists f hreached hitems
    exact ⟨f, hreached, hkind, hitems, itemType_ofField hkind hitems⟩
  | inside _ hg hitems ih =>
    obtain ⟨f, hf, hkind, -, rfl⟩ := ih
    obtain ⟨g, hmem, rfl⟩ := Model.mem_ofFields.1 hg
    rw [itemFields_ofField_ne_nil] at hitems
    have hreached : Reached fields g := .inside hf hkind hmem
    have hkind' := hlists g hreached hitems
    exact ⟨g, hreached, hkind', hitems, itemType_ofField hkind' hitems⟩

theorem mem_names_of_declares {declared : List TypeDecl}
    (h : Declares declared (Model.ofFields fields)) {f : Field}
    (hf : f ∈ fields) (hfields : f.type.inlineFields ≠ []) :
    (itemType (Model.ofField f)).name ∈ declared.map TypeDecl.name :=
  h _ (Model.mem_ofFields.2 ⟨f, hf, rfl⟩) (itemFields_ofField_ne_nil.2 hfields)

theorem mem_itemTypes_of_name (h : Orderly fields) {f : Field} (hf : Reached fields f)
    (hfields : f.type.inlineFields ≠ [])
    (hname : (itemType (Model.ofField f)).name ∈
      (itemTypes (Model.ofFields fields)).map TypeDecl.name) :
    listType f.name f.type ∈ itemTypes (Model.ofFields fields) := by
  have hlists : ∀ g, Reached fields g → g.type.inlineFields ≠ [] → g.type.kind = .list :=
    fun g hg => h.listsOnly g hg.isBelow
  have hkind := hlists f hf hfields
  obtain ⟨t, ht, hsame⟩ := List.mem_map.1 hname
  obtain ⟨g, hg, hkind', hfields', rfl⟩ :=
    exists_reached_of_describes hlists (describes_of_mem_itemTypes ht)
  rw [itemType_ofField hkind hfields] at hsame
  have hitems :=
    h.agree g hg.isBelow _ (TypeRef.mem_inlineLists_self hkind' hfields') f hf.isBelow _
    (TypeRef.mem_inlineLists_self hkind hfields) hsame
  have hequal : listType g.name g.type = listType f.name f.type := by
    unfold listType
    rw [show g.type.inlineItemName g.name = f.type.inlineItemName f.name from hsame, hitems]
  exact hequal ▸ ht

theorem mem_itemTypes_of_reached (h : Orderly fields) {f : Field} (hf : Reached fields f)
    (hfields : f.type.inlineFields ≠ []) :
    listType f.name f.type ∈ itemTypes (Model.ofFields fields) := by
  obtain ⟨hall, hnested⟩ := closes_addItemTypes [] (Model.ofFields fields)
  refine mem_itemTypes_of_name h hf hfields ?_
  induction hf with
  | here hf => exact mem_names_of_declares hall hf hfields
  | inside hf hkind hg ih =>
    -- the list around it is declared as it is described, and with it what its fields describe
    have hlist := mem_itemTypes_of_name h hf (List.ne_nil_of_mem hg) (ih (List.ne_nil_of_mem hg))
    exact mem_names_of_declares ((hnested _ hlist).resolve_left List.not_mem_nil) hg hfields

theorem declaresSpelled_of_orderly (h : Orderly fields) :
    DeclaresSpelled fields (itemTypes (Model.ofFields fields)) := by
  constructor
  · intro f hf list hlist
    obtain ⟨hkind, hfields⟩ := TypeRef.isList_of_mem_inlineLists hlist
    obtain ⟨g, hg, hkind', hfields', hname⟩ := h.reached f hf list hlist
    have hitems :=
      h.agree g hg.isBelow _ (TypeRef.mem_inlineLists_self hkind' hfields') f hf list hlist hname
    refine ⟨list.inlineItemName f.name, fun flavor => ⟨TypeRef.goType_inlineList hkind hfields, ?_⟩,
      ?_⟩
    · exact TypeRef.goType_infix hlist
    · rw [← hname, ← hitems]
      exact mem_itemTypes_of_reached h hg hfields'
  · intro t ht
    obtain ⟨f, -, -, -, rfl⟩ := exists_reached_of_describes (fun g hg => h.listsOnly g hg.isBelow)
      (describes_of_mem_itemTypes ht)
    exact TypeRef.inlineItemName_ne_empty f.type f.name

section

variable (h : DeclaresSpelled fields (itemTypes (Model.ofFields fields)))
include h

theorem DeclaresSpelled.listType_mem {f : Field} (hf : Below fields f) {list : TypeRef}
    (hlist : list ∈ f.type.inlineLists) :
    listType f.name list ∈ itemTypes (Model.ofFields fields) := by
  obtain ⟨hkind, hfields⟩ := TypeRef.isList_of_mem_inlineLists hlist
  obtain ⟨name, hspelled, hmem⟩ := h.spelled f hf list hlist
  have hname : "[]" ++ name = "[]" ++ list.inlineItemName f.name :=
    (hspelled .domain).1.symm.trans (TypeRef.goType_inlineList hkind hfields)
  rw [String.append_right_inj] at hname
  rw [listType, ← hname]
  exact hmem

theorem DeclaresSpelled.kind_eq_list {f : Field} (hf : Below fields f)
    (hfields : f.type.inlineFields ≠ []) :
    f.type.kind = .list := by
  obtain ⟨hall, hnested⟩ := closes_addItemTypes [] (Model.ofFields fields)
  have hname : (itemType (Model.ofField f)).name ∈
      (itemTypes (Model.ofFields fields)).map TypeDecl.name := by
    cases hf with
    | here hf => exact mem_names_of_declares hall hf hfields
    | inside hf hlist hg =>
      exact mem_names_of_declares ((hnested _ (h.listType_mem hf hlist)).resolve_left
        List.not_mem_nil) hg hfields
  obtain ⟨t, ht, hsame⟩ := List.mem_map.1 hname
  by_contra hkind
  refine h.named t ht (hsame.trans ?_)
  rw [itemType, Model.itemTypeName_ofField, TypeRef.itemName, if_pos (by simpa using hkind)]

theorem orderly_of_declaresSpelled : Orderly fields := by
  refine ⟨fun f => h.kind_eq_list, ?_, ?_⟩
  · intro f hf list hlist
    obtain ⟨g, hg, hkind, hfields, hsame⟩ := exists_reached_of_describes
      (fun g hg => h.kind_eq_list hg.isBelow) (describes_of_mem_itemTypes (h.listType_mem hf hlist))
    exact ⟨g, hg, hkind, hfields, (congrArg TypeDecl.name hsame).symm⟩
  · intro f hf a ha g hg b hb hname
    have hsame := List.inj_on_of_nodup_map (nodup_itemTypes _) (h.listType_mem hf ha)
      (h.listType_mem hg hb) hname
    exact congrArg TypeDecl.fields hsame

end

theorem declaresSpelled_iff (fields : List Field) :
    DeclaresSpelled fields (itemTypes (Model.ofFields fields)) ↔ Orderly fields :=
  ⟨orderly_of_declaresSpelled, declaresSpelled_of_orderly⟩

end

def transferred (e : Entity) : List Field := e.fields.filter fun f => !f.skipDomain

theorem dtoFields_ofEntity (e : Entity) :
    (Model.ofEntity e).dtoFields = Model.ofFields (transferred e) := by
  unfold Model.Entity.dtoFields Model.ofEntity transferred
  rw [Model.ofFields_eq_map, Model.ofFields_eq_map, List.filter_map]
  simp only [Function.comp_def, Model.skipDomain_ofField]

/-- The file of an entity, and that of its transfer object, declare every item type that they spell
just when the fields are orderly. -/
theorem pages_declare_spelled_iff (h : Header) (e : Entity) :
    (DeclaresSpelled e.fields (entityPage h inDomain (Model.ofEntity e)
      (Model.ofEntity e).fields).nested ↔
        Orderly e.fields) ∧
      (DeclaresSpelled (transferred e)
          (entityPage h GoType.toDto (Model.ofEntity e) (Model.ofEntity e).dtoFields).nested ↔
        Orderly (transferred e)) := by
  refine ⟨declaresSpelled_iff e.fields, ?_⟩
  rw [dtoFields_ofEntity]
  exact declaresSpelled_iff (transferred e)

def board : Entity where
  name := "Board"
  fields := [{ Field.blank with
    name := "grid"
    type :=
      ⟨.list, "", some ⟨.list, "", none, none, [{ Field.blank with name := "mark" }]⟩, none, []⟩ }]

/-- The cells are items of a list within a list: their type is spelled, but not declared. -/
theorem gridItem_not_declared :
    (Model.ofEntity board).fields.map Model.Field.goType = ["[][]GridItem"] ∧
      (entityPage ⟨"example.com/game", {}⟩ inDomain (Model.ofEntity board)
        (Model.ofEntity board).fields).nested = [] ∧
      ¬DeclaresSpelled board.fields
        (entityPage ⟨"example.com/game", {}⟩ inDomain (Model.ofEntity board)
          (Model.ofEntity board).fields).nested := by
  have hnone : (entityPage ⟨"example.com/game", {}⟩ inDomain (Model.ofEntity board)
      (Model.ofEntity board).fields).nested = [] := rfl
  refine ⟨by decide +kernel, hnone, fun hdeclares => ?_⟩
  obtain ⟨name, -, hmem⟩ := hdeclares.spelled _ (.here List.mem_cons_self) _ List.mem_cons_self
  rw [hnone] at hmem
  exact List.not_mem_nil hmem

end Artifact

end GoScaffold
