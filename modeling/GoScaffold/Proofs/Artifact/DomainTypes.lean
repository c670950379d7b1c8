import GoScaffold.Proofs.Artifact.DomainTexts
import GoScaffold.Proofs.Artifact.RepositoryMethods
import GoScaffold.Proofs.Model.Reordering
import Mathlib.Data.List.Flatten
import Mathlib.Data.List.Nodup
import Mathlib.Data.List.Perm.Basic

/-! The types that the files of the domain package declare. The items of a list that are described
in place become a type, which is declared once in the file of its entity, with all the item types
that it mentions. No file knows of another: a type is declared once in the package just when the
item types of different entities have different names, which no entity and no event has either. -/

namespace GoScaffold

namespace Artifact

/-! Item types. -/

def itemType (f : Model.Field) : TypeDecl := { name := f.itemTypeName, fields := f.itemFields }

theorem addItemType_of_declared {found : List TypeDecl} {f : Model.Field}
    (h : f.itemFields = [] ∨ f.itemTypeName ∈ found.map TypeDecl.name) :
    addItemType found f = found := by
  cases f
  rw [addItemType, if_pos]
  simpa using h

theorem addItemType_of_fresh {found : List TypeDecl} {f : Model.Field} (hitems : f.itemFields ≠ [])
    (hfresh : f.itemTypeName ∉ found.map TypeDecl.name) :
    addItemType found f = addItemTypes (found ++ [itemType f]) f.itemFields := by
  cases f
  rw [addItemType, if_neg]
  · rfl
  · simpa using ⟨hitems, by simpa using hfresh⟩

theorem addItemTypes_induction (one : List TypeDecl → Model.Field → Prop)
    {many : List TypeDecl → List Model.Field → Prop}
    (declared : ∀ found f, f.itemFields = [] ∨ f.itemTypeName ∈ found.map TypeDecl.name →
      one found f)
    (fresh : ∀ found f, f.itemFields ≠ [] → f.itemTypeName ∉ found.map TypeDecl.name →
      many (found ++ [itemType f]) f.itemFields → one found f)
    (nil : ∀ found, many found [])
    (cons : ∀ found f rest, one found f → many (addItemType found f) rest → many found (f :: rest))
    (found : List TypeDecl) (fields : List Model.Field) : many found fields := by
  refine addItemTypes.induct one many ?_ ?_ nil cons found fields
  · intros
    rename_i hdeclared
    exact declared _ _ (by simpa using hdeclared)
  · intros
    rename_i hfresh ih
    rw [Bool.or_eq_true, not_or] at hfresh
    exact fresh _ _ (by simpa using hfresh.1) (by simpa using hfresh.2) ih

/-- Declarations are only ever added, and only under names that are not there yet. -/
theorem addItemTypes_invariant {P : List TypeDecl → Prop}
    (hadd : ∀ found t, P found → t.name ∉ found.map TypeDecl.name → P (found ++ [t]))
    (found : List TypeDecl) (fields : List Model.Field) (hfound : P found) :
    P (addItemTypes found fields) := by
  induction found, fields using addItemTypes_induction
    (fun found f => P found → P (addItemType found f)) with
  | declared found f h hfound => rwa [addItemType_of_declared h]
  | fresh found f hitems hfresh ih hfound =>
    rw [addItemType_of_fresh hitems hfresh]
    exact ih (hadd found _ hfound hfresh)
  | nil => exact hfound
  | cons found f rest ihf ih => exact ih (ihf hfound)

theorem prefix_addItemTypes (found : List TypeDecl) (fields : List Model.Field) :
    found <+: addItemTypes found fields :=
  addItemTypes_invariant (P := fun result => found <+: result)
    (fun _ _ h _ => h.trans (List.prefix_append _ _)) found fields List.prefix_rfl

theorem nodup_itemTypes (fields : List Model.Field) :
    ((itemTypes fields).map TypeDecl.name).Nodup := by
  refine addItemTypes_invariant (P := fun result => (result.map TypeDecl.name).Nodup) ?_ [] fields
    List.nodup_nil
  intro found t hfound hfresh
  rw [List.map_append, List.map_singleton]
  exact hfound.append (List.nodup_singleton _) (List.disjoint_singleton.2 hfresh)

def Declares (declared : List TypeDecl) (fields : List Model.Field) : Prop :=
  ∀ f ∈ fields, f.itemFields ≠ [] → f.itemTypeName ∈ declared.map TypeDecl.name

theorem Declares.mono {declared more : List TypeDecl} {fields : List Model.Field}
    (h : Declares declared fields) (hsub : declared ⊆ more) : Declares more fields :=
  fun f hf hitems => List.map_subset _ hsub (h f hf hitems)

/-- All that the fields, and the fields of what is added, describe is declared. -/
def Closes (found result : List TypeDecl) (fields : List Model.Field) : Prop :=
  Declares result fields ∧ ∀ t ∈ result, t ∈ found ∨ Declares result t.fields

theorem closes_addItemTypes (found : List TypeDecl) (fields : List Model.Field) :
    Closes found (addItemTypes found fields) fields := by
  induction found, fields using addItemTypes_induction
    (fun found f => Closes found (addItemType found f) [f]) with
  | declared found f h =>
    rw [addItemType_of_declared h]
    refine ⟨?_, fun t ht => .inl ht⟩
    intro g hg hitems
    rw [List.mem_singleton.1 hg] at hitems ⊢
    exact h.resolve_left hitems
  | fresh found f hitems hfresh ih =>
    rw [addItemType_of_fresh hitems hfresh]
    have hmem : itemType f ∈ addItemTypes (found ++ [itemType f]) f.itemFields :=
      (prefix_addItemTypes _ _).subset (by simp)
    refine ⟨?_, fun t ht => ?_⟩
    · intro g hg _
      rw [List.mem_singleton.1 hg]
      exact List.mem_map_of_mem hmem
    · rcases ih.2 t ht with hfound | hdeclares
      · rcases List.mem_append.1 hfound with hfound | hitem
        · exact .inl hfound
        · rw [List.mem_singleton.1 hitem]
          exact .inr ih.1
      · exact .inr hdeclares
  | nil found => exact ⟨fun _ hf => absurd hf List.not_mem_nil, fun t ht => .inl ht⟩
  | cons found f rest ihf ih =>
    -- what the first field has closed stays closed, for nothing is taken away
    have hsub : addItemType found f ⊆ addItemTypes (addItemType found f) rest :=
      (prefix_addItemTypes _ rest).subset
    rw [addItemTypes]
    refine ⟨?_, fun t ht => ?_⟩
    · intro g hg
      rcases List.mem_cons.1 hg with rfl | hg
      · exact ihf.1.mono hsub g (List.mem_singleton_self g)
      · exact ih.1 g hg
    · rcases ih.2 t ht with hmem | hdeclares
      · exact (ihf.2 t hmem).imp_right fun h => h.mono hsub
      · exact .inr hdeclares

/-! Files. -/

def fielded (model : Model) : List Model.Entity := model.entities.filter fun e => !e.fields.isEmpty

def domainPages (h : Header) (model : Model) : List EntityPage :=
  (fielded model).map fun e => entityPage h inDomain e e.fields

def EntityPage.types (p : EntityPage) : List TypeDecl := p.type :: p.nested

def domainTypes (h : Header) (model : Model) : List TypeDecl :=
  (domainPages h model).flatMap EntityPage.types ++ model.events.map eventType

def itemNames (e : Model.Entity) : List String := (itemTypes e.fields).map TypeDecl.name

/-- No item type has the name of another type of the package. -/
structure ItemNamesApart (model : Model) : Prop where
  fromOthers : ∀ e ∈ fielded model, ∀ name ∈ itemNames e,
    name ∉ (fielded model).map Model.Entity.name ++ model.events.map Model.Event.name
  fromEachOther : (fielded model).Pairwise fun a b => ∀ name ∈ itemNames a, name ∉ itemNames b

open Template

variable {h : Header} {model : Model} {tree : FileTree}

theorem exists_writes_domain (p : EntityPage) : ∃ after,
    Writes .mongo (Routine.callWithin .mongo callLimit) ⟨[[]], p.toJson h⟩ Bundled.domainNodes
      (entityText h p) after := by
  have hentity : (⟨[[]], p.toJson h⟩ : Scope).value "entity" = some p.entity.toJson :=
    value_told (by decide) rfl
  have hfields : (⟨[[]], p.toJson h⟩ : Scope).value "fields" =
      some (.arr (Model.fieldsJson p.fields)) :=
    value_told (by decide) rfl
  have hnested : (⟨[[]], p.toJson h⟩ : Scope).value "nested" =
      some (.arr (p.nested.map TypeDecl.toJson)) := value_told (by decide) rfl
  -- the part of the template for tags calls no other, so one call within the limit is enough
  show ∃ after, Writes .mongo (Routine.callWithin .mongo (49 + 1)) _ _ _ after
  exact writes_domain (stamped_told rfl) hentity hfields hnested

theorem texts_domain : (domain h model).map (bundledText tree) =
    (domainPages h model).map fun p => .ok (entityText h p) := by
  unfold domain domainPages fielded
  rw [List.map_map, List.map_map]
  apply List.map_congr_left
  intro e _
  rw [Function.comp_apply, Function.comp_apply]
  have hsource : Bundled.template? Family.domain.template = some Bundled.domain := rfl
  obtain ⟨after, hwrites⟩ := exists_writes_domain (entityPage h inDomain e e.fields)
  exact bundledText_of_writes hsource Bundled.parse?_domain hwrites

theorem exists_text_events : ∃ imports,
    (events h model).bundledText tree = .ok (eventsText h imports model.events) := by
  have hsource : Bundled.template? Family.events.template = some Bundled.events := rfl
  exact ⟨_, bundledText_of_writes hsource Bundled.parse?_events
    (writes_events (stamped_told rfl) (value_told (by decide) rfl))⟩

theorem declares_nested {p : EntityPage} (hp : p ∈ domainPages h model) {t : TypeDecl}
    (ht : t ∈ p.types) : Declares p.nested t.fields := by
  obtain ⟨e, -, rfl⟩ := List.mem_map.1 hp
  obtain ⟨hfields, hnested⟩ := closes_addItemTypes [] e.fields
  rcases List.mem_cons.1 ht with rfl | ht
  · exact hfields
  · exact (hnested t ht).resolve_left List.not_mem_nil

theorem names_domainTypes : ((domainTypes h model).map TypeDecl.name).Perm
    (((fielded model).map Model.Entity.name ++ model.events.map Model.Event.name) ++
      (fielded model).flatMap itemNames) := by
  have hnames : (domainTypes h model).map TypeDecl.name =
      (fielded model).flatMap (fun e => [e.name] ++ itemNames e) ++
      model.events.map Model.Event.name := by
    unfold domainTypes domainPages
    rw [List.map_append, List.map_flatMap, List.flatMap_map, List.map_map]
    rfl
  have hperm := List.flatMap_append_perm (fielded model) (fun e => [e.name]) itemNames
  rw [← List.map_eq_flatMap] at hperm
  rw [hnames]
  refine (hperm.symm.append_right _).trans ?_
  rw [List.append_assoc, List.append_assoc]
  exact List.perm_append_comm.append_left _

theorem nodup_names_domainTypes_iff
    (hdeclared : ((fielded model).map Model.Entity.name ++
      model.events.map Model.Event.name).Nodup) :
    ((domainTypes h model).map TypeDecl.name).Nodup ↔ ItemNamesApart model := by
  rw [names_domainTypes.nodup_iff, List.nodup_append', List.nodup_flatMap]
  constructor
  · rintro ⟨-, ⟨-, heach⟩, hothers⟩
    exact ⟨fun e he name hname hmem => hothers hmem (List.mem_flatMap.2 ⟨e, he, hname⟩), heach⟩
  · rintro ⟨hothers, heach⟩
    refine ⟨hdeclared, ⟨fun e _ => nodup_itemTypes e.fields, heach⟩, ?_⟩
    intro name hmem hitem
    obtain ⟨e, he, hname⟩ := List.mem_flatMap.1 hitem
    exact hothers e he name hname hmem

theorem nodup_names_ofSchema {schema : Schema}
    (hdistinct : (schema.entities.map Entity.name ++ schema.events.map Event.name).Nodup) :
    ((fielded (Model.ofSchema schema)).map Model.Entity.name ++
      (Model.ofSchema schema).events.map Model.Event.name).Nodup := by
  have hentities : ((Model.ofSchema schema).entities.map Model.Entity.name).Perm
      (schema.entities.map Entity.name) := by
    have hperm := (Model.sortOn_perm Model.Entity.name (schema.entities.map Model.ofEntity)).map
      Model.Entity.name
    rwa [List.map_map] at hperm
  have hevents : ((Model.ofSchema schema).events.map Model.Event.name).Perm
      (schema.events.map Event.name) := by
    have hperm := (Model.sortOn_perm Model.Event.name (schema.events.map Model.ofEvent)).map
      Model.Event.name
    rwa [List.map_map] at hperm
  have hsub : ((fielded (Model.ofSchema schema)).map Model.Entity.name).Sublist
      ((Model.ofSchema schema).entities.map Model.Entity.name) := List.filter_sublist.map _
  exact ((hentities.append hevents).nodup_iff.2 hdistinct).sublist (hsub.append_right _)

/-- The files of the domain package are these texts, and each declares all the item types that it
mentions. No type is declared twice just when no item type has the name of another type. -/
theorem domainTypes_nodup_iff (h : Header) (schema : Schema) (tree : FileTree)
    (hdistinct : (schema.entities.map Entity.name ++ schema.events.map Event.name).Nodup) :
    (domain h (Model.ofSchema schema)).map (bundledText tree) =
        (domainPages h (Model.ofSchema schema)).map (fun p => .ok (entityText h p)) ∧
      (∃ imports, (events h (Model.ofSchema schema)).bundledText tree =
        .ok (eventsText h imports (Model.ofSchema schema).events)) ∧
      (∀ p ∈ domainPages h (Model.ofSchema schema), ∀ t ∈ p.types, Declares p.nested t.fields) ∧
      (((domainTypes h (Model.ofSchema schema)).map TypeDecl.name).Nodup ↔
        ItemNamesApart (Model.ofSchema schema)) :=
  ⟨texts_domain, exists_text_events, fun _ hp _ ht => declares_nested hp ht,
    nodup_names_domainTypes_iff (nodup_names_ofSchema hdistinct)⟩

def listed (name : String) (items : List Field) : Field :=
  { Field.blank with name, type := ⟨.list, "", none, none, items⟩ }

def market : Schema where
  entities := [
    { name := "Cart", fields := [listed "lines" [{ Field.blank with name := "sku" },
        listed "gifts" [{ Field.blank with name := "note" }]]] },
    { name := "Invoice", fields := [listed "positions" [{ Field.blank with name := "sku" }]] }]
  events := [{ name := "CartClosed", fields := [{ Field.blank with name := "cart" }] }]

theorem entities_market : (Model.ofSchema market).entities = market.entities.map Model.ofEntity :=
  Model.sortOn_eq_self (by decide +kernel)

theorem domainTypes_nodup_market :
    (market.entities.map Entity.name ++ market.events.map Event.name).Nodup ∧
      ItemNamesApart (Model.ofSchema market) ∧
      ((domainTypes ⟨"example.com/market", {}⟩ (Model.ofSchema market)).map
        TypeDecl.name).Nodup := by
  have hdistinct : (market.entities.map Entity.name ++ market.events.map Event.name).Nodup := by
    decide +kernel
  have hapart : ItemNamesApart (Model.ofSchema market) := by
    constructor
    all_goals
      unfold fielded
      rw [entities_market]
      decide +kernel
  obtain ⟨-, -, -, hiff⟩ := domainTypes_nodup_iff ⟨"example.com/market", {}⟩ market {} hdistinct
  exact ⟨hdistinct, hapart, hiff.2 hapart⟩

def baskets : Schema where
  entities := ["Cart", "Order"].map fun name =>
    { name, fields := [listed "lines" [{ Field.blank with name := "sku" }]] }

theorem linesItem_declared_twice :
    (baskets.entities.map Entity.name ++ baskets.events.map Event.name).Nodup ∧
      (domainTypes ⟨"example.com/shop", {}⟩ (Model.ofSchema baskets)).map TypeDecl.name =
        ["Cart", "LinesItem", "Order", "LinesItem"] := by
  have hentities : (Model.ofSchema baskets).entities = baskets.entities.map Model.ofEntity :=
    Model.sortOn_eq_self (by decide +kernel)
  refine ⟨by decide +kernel, ?_⟩
  unfold domainTypes domainPages fielded
  rw [hentities]
  decide +kernel

end Artifact

end GoScaffold
