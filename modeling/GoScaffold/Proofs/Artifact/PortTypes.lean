import GoScaffold.Proofs.Artifact.ItemTypes

/-! The types that the interface of a service declares. The inputs and outputs of its methods come
first, sorted by name, each as it occurs first; then come the item types that these describe. No
name is declared twice, however many methods share a type. -/

namespace GoScaffold

namespace Artifact

/-- The inputs and outputs of the methods, in order of the methods, the input of each before its
output. -/
def exchanged (service : Model.Service) : List Model.Entity :=
  service.methods.flatMap fun m => m.input.toList ++ m.output.toList

def exchangedType (e : Model.Entity) : TypeDecl :=
  { name := e.name, description := e.description, fields := e.fields }

/-! First occurrences. -/

theorem nodup_addPortTypes (found entities : List Model.Entity)
    (hfound : (found.map Model.Entity.name).Nodup) :
    ((addPortTypes found entities).map Model.Entity.name).Nodup := by
  induction entities generalizing found with
  | nil => exact hfound
  | cons e rest ih =>
    rw [addPortTypes]
    split
    next => exact ih found hfound
    next hfresh =>
      have hname : e.name ∉ found.map Model.Entity.name := by simpa using hfresh
      refine ih (found ++ [e]) ?_
      rw [List.map_append, List.map_singleton]
      exact hfound.append (List.nodup_singleton _) (List.disjoint_singleton.2 hname)

theorem find?_addPortTypes (name : String) (found entities : List Model.Entity) :
    (addPortTypes found entities).find? (fun e => e.name == name) =
      (found ++ entities).find? fun e => e.name == name := by
  induction entities generalizing found with
  | nil => rw [addPortTypes, List.append_nil]
  | cons e rest ih =>
    rw [addPortTypes]
    split
    next htaken =>
      obtain ⟨f, hf, hsame⟩ := List.any_eq_true.1 htaken
      rw [ih, List.find?_append, List.find?_append]
      cases hfound : found.find? (fun e => e.name == name) with
      | some g => rfl
      | none =>
        have hother : (e.name == name) = false := by
          rw [← beq_iff_eq.1 hsame]
          exact Bool.eq_false_iff.2 (List.find?_eq_none.1 hfound f hf)
        rw [List.find?_cons, hother]
    next => rw [ih, List.append_assoc, List.singleton_append]

section

variable {service : Model.Service} {e : Model.Entity}

theorem nodup_portEntities : ((portEntities service).map Model.Entity.name).Nodup :=
  nodup_addPortTypes [] _ List.nodup_nil

theorem find?_portEntities (name : String) :
    (portEntities service).find? (fun f => f.name == name) = (exchanged service).find? fun f =>
      f.name == name :=
  find?_addPortTypes name [] _

theorem mem_portEntities_of_find? {name : String}
    (h : (exchanged service).find? (fun f => f.name == name) = some e) :
    e ∈ portEntities service :=
  List.mem_of_find?_eq_some ((find?_portEntities name).trans h)

theorem mem_exchanged_of_mem_portEntities (h : e ∈ portEntities service) :
    e ∈ exchanged service := by
  cases hfound : (portEntities service).find? (fun f => f.name == e.name) with
  | none => exact absurd (beq_self_eq_true e.name) (List.find?_eq_none.1 hfound e h)
  | some f =>
    have hname := List.find?_some hfound
    have hsame := List.inj_on_of_nodup_map nodup_portEntities (List.mem_of_find?_eq_some hfound) h
      (beq_iff_eq.1 hname)
    rw [find?_portEntities, hsame] at hfound
    exact List.mem_of_find?_eq_some hfound

/-! Item types. -/

theorem addItemTypes_append (found : List TypeDecl) (a b : List Model.Field) :
    addItemTypes found (a ++ b) = addItemTypes (addItemTypes found a) b := by
  induction a generalizing found with
  | nil => rfl
  | cons f a ih => exact ih (addItemType found f)

theorem foldl_addItemTypes (found : List TypeDecl) (entities : List Model.Entity) :
    entities.foldl (fun found e => addItemTypes found e.fields) found =
      addItemTypes found (entities.flatMap Model.Entity.fields) := by
  induction entities generalizing found with
  | nil => rfl
  | cons e entities ih => rw [List.foldl_cons, ih, List.flatMap_cons, addItemTypes_append]

theorem Describes.exists_of_flatMap {entities : List Model.Entity} {t : TypeDecl}
    (h : Describes (entities.flatMap Model.Entity.fields) t) :
    ∃ e ∈ entities, Describes e.fields t := by
  induction h with
  | here hf hitems =>
    obtain ⟨e, he, hmem⟩ := List.mem_flatMap.1 hf
    exact ⟨e, he, .here hmem hitems⟩
  | inside _ hf hitems ih =>
    obtain ⟨e, he, hdescribes⟩ := ih
    exact ⟨e, he, .inside hdescribes hf hitems⟩

/-! Declarations. -/

def sortedTypes (service : Model.Service) : List TypeDecl :=
  Model.sortOn TypeDecl.name ((portEntities service).map exchangedType)

def freshItems (service : Model.Service) : List TypeDecl :=
  (itemTypes ((portEntities service).flatMap Model.Entity.fields)).filter fun t =>
    !(portEntities service).any fun e => e.name == t.name

theorem portTypes_eq_append (service : Model.Service) :
    portTypes service = sortedTypes service ++ freshItems service := by
  unfold portTypes
  dsimp only
  rw [foldl_addItemTypes]
  rfl

theorem mem_sortedTypes {t : TypeDecl} :
    t ∈ sortedTypes service ↔ ∃ e ∈ portEntities service, exchangedType e = t := by
  rw [sortedTypes, (Model.sortOn_perm _ _).mem_iff, List.mem_map]

theorem mem_freshItems {t : TypeDecl} : t ∈ freshItems service ↔
    t ∈ itemTypes ((portEntities service).flatMap Model.Entity.fields) ∧
      t.name ∉ (portEntities service).map Model.Entity.name := by
  rw [freshItems, List.mem_filter]
  simp

theorem names_sortedTypes :
    ((sortedTypes service).map TypeDecl.name).Perm
    ((portEntities service).map Model.Entity.name) := by
  have hperm :=
    (Model.sortOn_perm TypeDecl.name ((portEntities service).map exchangedType)).map TypeDecl.name
  rwa [List.map_map] at hperm

theorem nodup_names_portTypes : ((portTypes service).map TypeDecl.name).Nodup := by
  rw [portTypes_eq_append, List.map_append, List.nodup_append']
  refine ⟨names_sortedTypes.nodup_iff.2 nodup_portEntities, ?_, ?_⟩
  · exact (nodup_itemTypes _).sublist (List.filter_sublist.map _)
  · intro name hsorted hfresh
    obtain ⟨t, ht, rfl⟩ := List.mem_map.1 hfresh
    exact (mem_freshItems.1 ht).2 (names_sortedTypes.mem_iff.1 hsorted)

theorem pairwise_lt_sortedTypes : (sortedTypes service).Pairwise fun a b => a.name < b.name := by
  have hle := Model.pairwise_sortOn TypeDecl.name ((portEntities service).map exchangedType)
  have hne : (sortedTypes service).Pairwise fun a b => a.name ≠ b.name :=
    List.pairwise_map.1 (names_sortedTypes.nodup_iff.2 nodup_portEntities)
  refine (List.Pairwise.and hle hne).imp fun {a b} h => ?_
  by_contra hlt
  exact h.2 (String.le_antisymm h.1 (String.not_lt.1 hlt))

theorem describes_of_mem_freshItems {t : TypeDecl} (ht : t ∈ freshItems service) :
    ∃ d ∈ sortedTypes service, Describes d.fields t := by
  obtain ⟨e, he, hdescribes⟩ :=
    (describes_of_mem_itemTypes (mem_freshItems.1 ht).1).exists_of_flatMap
  exact ⟨exchangedType e, mem_sortedTypes.2 ⟨e, he, rfl⟩, hdescribes⟩

theorem Declares.portTypes {fields : List Model.Field}
    (h : Declares (itemTypes ((portEntities service).flatMap Model.Entity.fields)) fields) :
    Declares (portTypes service) fields := by
  intro f hf hitems
  obtain ⟨t, ht, hname⟩ := List.mem_map.1 (h f hf hitems)
  rw [portTypes_eq_append, List.map_append, List.mem_append, ← hname]
  by_cases htaken : t.name ∈ (portEntities service).map Model.Entity.name
  · exact .inl (names_sortedTypes.mem_iff.2 htaken)
  · exact .inr (List.mem_map_of_mem (mem_freshItems.2 ⟨ht, htaken⟩))

theorem declares_portTypes {t : TypeDecl} (ht : t ∈ portTypes service) :
    Declares (portTypes service) t.fields := by
  obtain ⟨hall, hnested⟩ :=
    closes_addItemTypes [] ((portEntities service).flatMap Model.Entity.fields)
  rw [portTypes_eq_append] at ht
  refine Declares.portTypes ?_
  rcases List.mem_append.1 ht with ht | ht
  · obtain ⟨e, he, rfl⟩ := mem_sortedTypes.1 ht
    exact fun f hf => hall f (List.mem_flatMap.2 ⟨e, he, hf⟩)
  · exact (hnested t (mem_freshItems.1 ht).1).resolve_left List.not_mem_nil

end

/-- The interface of a service declares no type twice. The inputs and outputs are declared first,
sorted by name, each name as it occurs first, and then item types that they describe. Whatever a
declared type describes is declared as well. -/
theorem portTypes_declare_once (service : Model.Service) :
    ((portTypes service).map TypeDecl.name).Nodup ∧
      (∃ first rest, portTypes service = first ++ rest ∧
        (first.Pairwise fun a b => a.name < b.name) ∧
        (∀ e ∈ exchanged service, ∃ f, (exchanged service).find? (fun f => f.name == e.name) =
          some f ∧ exchangedType f ∈ first) ∧
        (∀ t ∈ first, ∃ e ∈ exchanged service, exchangedType e = t) ∧
        ∀ t ∈ rest, ∃ d ∈ first, Describes d.fields t) ∧
      ∀ t ∈ portTypes service, Declares (portTypes service) t.fields := by
  refine ⟨nodup_names_portTypes, ?_, fun _ => declares_portTypes⟩
  refine ⟨sortedTypes service, freshItems service, portTypes_eq_append service,
    pairwise_lt_sortedTypes, ?_, ?_, fun _ => describes_of_mem_freshItems⟩
  · intro e he
    obtain ⟨f, hf⟩ : ∃ f, (exchanged service).find? (fun f => f.name == e.name) = some f :=
      Option.isSome_iff_exists.1 (List.find?_isSome.2 ⟨e, he, beq_self_eq_true e.name⟩)
    exact ⟨f, hf, mem_sortedTypes.2 ⟨f, mem_portEntities_of_find? hf, rfl⟩⟩
  · intro t ht
    obtain ⟨e, he, hsame⟩ := mem_sortedTypes.1 ht
    exact ⟨e, mem_exchanged_of_mem_portEntities he, hsame⟩

end Artifact

end GoScaffold
