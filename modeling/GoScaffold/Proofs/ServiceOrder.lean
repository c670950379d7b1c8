import GoScaffold.Proofs.ServiceOrder.Counted
import Mathlib.Data.List.Perm.Basic

/-! The order of services names every declared service once. -/

namespace GoScaffold

namespace ServiceOrder

variable {services : List Dependent}

theorem place_subperm (steps : Nat) (placed remaining : List String) :
    (place services steps placed remaining).Subperm remaining := by
  induction steps generalizing placed remaining with
  | zero => exact List.nil_subperm
  | succ steps ih =>
    rw [place]
    cases hfind : remaining.find? (isReady services placed) with
    | none => exact List.nil_subperm
    | some name =>
      have hmem : name ∈ remaining := List.mem_of_find?_eq_some hfind
      have hrest : (place services steps (name :: placed) (remaining.erase name)).Subperm
          (remaining.erase name) := ih _ _
      exact (List.subperm_cons name).2 hrest |>.trans (List.perm_cons_erase hmem).symm.subperm

theorem resolved_subperm (services : List Dependent) :
    (resolved services).Subperm (names services) :=
  resolved_eq_place services ▸ place_subperm _ _ _

end ServiceOrder

theorem nodup_serviceOrder (services : List Dependent) : (serviceOrder services).Nodup := by
  obtain ⟨names, hperm, hsub⟩ := ServiceOrder.resolved_subperm services
  have hfirst : (ServiceOrder.resolved services).Nodup :=
    hperm.nodup_iff.1 (ServiceOrder.nodup_names.sublist hsub)
  apply List.Nodup.append hfirst ((nodup_eraseDups _).filter _)
  intro name hplaced hleft
  have hnot : name ∉ ServiceOrder.resolved services := by
    simpa using (List.mem_filter.1 hleft).2
  exact hnot hplaced

theorem mem_serviceOrder {services : List Dependent} {name : String} :
    name ∈ serviceOrder services ↔ ∃ s ∈ services, s.name = name := by
  have hfirst : name ∈ ServiceOrder.resolved services → ∃ s ∈ services, s.name = name :=
    fun h => ServiceOrder.mem_names.1 ((ServiceOrder.resolved_subperm services).subset h)
  simp only [serviceOrder, List.mem_append, List.mem_filter, List.mem_eraseDups, List.mem_map]
  constructor
  · rintro (h | ⟨h, -⟩)
    · exact hfirst h
    · exact h
  · intro h
    by_cases hplaced : name ∈ ServiceOrder.resolved services
    · exact .inl hplaced
    · exact .inr ⟨h, by simpa using hplaced⟩

end GoScaffold
