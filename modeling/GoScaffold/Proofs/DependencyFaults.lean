import GoScaffold.Proofs.ServiceDependencies
import Mathlib.Data.String.Basic

/-! What the check of dependencies finds. Services are refused for the uses of services that nobody
declares, which are listed one by one, or else for cycles, and then all services are listed that
lead into one. -/

namespace GoScaffold

namespace ServiceOrder

open Relation

variable {services : List Dependent}

theorem undeclaredUses_eq_nil_iff : undeclaredUses services = [] ↔
    ∀ s ∈ services, ∀ dep ∈ s.uses, dep ∈ services.map Dependent.name := by
  simp [undeclaredUses, List.filter_eq_nil_iff]

theorem unknownUses_eq (services : List Dependent) : unknownUses services =
    ((undeclaredUses services).map fun use => use.1 ++ " -> " ++ use.2).mergeSort := by
  rw [unknownUses, unknown_ofServices]

theorem eq_unknownUses_iff {texts : List String} : texts = unknownUses services ↔
    texts.Perm ((undeclaredUses services).map fun use => use.1 ++ " -> " ++ use.2) ∧
      texts.Pairwise (· ≤ ·) := by
  rw [unknownUses_eq]
  generalize (undeclaredUses services).map _ = uses
  have hsorted : uses.mergeSort.Pairwise (· ≤ ·) := List.pairwise_mergeSort' (· ≤ ·) uses
  have hperm : uses.mergeSort.Perm uses := List.mergeSort_perm uses _
  constructor
  · rintro rfl
    exact ⟨hperm, hsorted⟩
  · rintro ⟨htexts, hpairwise⟩
    exact List.Perm.eq_of_pairwise (fun a b _ _ => le_antisymm) hpairwise hsorted
      (htexts.trans hperm.symm)

theorem unknownUses_eq_nil_iff : unknownUses services = [] ↔ undeclaredUses services = [] := by
  rw [eq_comm, eq_unknownUses_iff, List.nil_perm, List.map_eq_nil_iff]
  exact and_iff_left List.Pairwise.nil

/-! The services that cannot be placed. -/

theorem pairwise_stuck : (stuck services).Pairwise (· < ·) :=
  stuck_eq_filter services ▸ pairwise_names.sublist List.filter_sublist

theorem mem_names_of_reachesCycle {name : String} (h : ReachesCycle services name) :
    name ∈ names services := by
  have hdeclared : ∀ {a b}, Uses services a b → a ∈ names services :=
    fun ⟨_, s, hs, hname, _⟩ => mem_names.2 ⟨s, hs, hname⟩
  obtain ⟨dep, hreach, hcycle⟩ := h
  -- the first step of the way to the cycle, or of the cycle itself, is a use by the service
  obtain ⟨next, huses, -⟩ := TransGen.head'_iff.1 (TransGen.trans_right hreach hcycle)
  exact hdeclared huses

theorem mem_stuck_iff {name : String} : name ∈ stuck services ↔ ReachesCycle services name := by
  rw [stuck_eq_filter, List.mem_filter, decide_eq_true_eq, mem_resolved_iff, not_and, not_not]
  exact ⟨fun ⟨hdeclared, hstuck⟩ => hstuck hdeclared,
    fun h => ⟨mem_names_of_reachesCycle h, fun _ => h⟩⟩

theorem eq_stuck_iff {found : List String} : found = stuck services ↔
    found.Pairwise (· < ·) ∧ ∀ name, name ∈ found ↔ ReachesCycle services name := by
  constructor
  · rintro rfl
    exact ⟨pairwise_stuck, fun name => mem_stuck_iff⟩
  · rintro ⟨hsorted, hmem⟩
    exact eq_of_pairwise_lt hsorted pairwise_stuck fun name => (hmem name).trans mem_stuck_iff.symm

theorem stuck_eq_nil_iff : stuck services = [] ↔ ¬∃ name, TransGen (Uses services) name name := by
  rw [List.eq_nil_iff_forall_not_mem]
  constructor
  · rintro h ⟨name, hcycle⟩
    exact h name (mem_stuck_iff.2 ⟨name, .refl, hcycle⟩)
  · intro h name hname
    obtain ⟨dep, -, hcycle⟩ := mem_stuck_iff.1 hname
    exact h ⟨dep, hcycle⟩

end ServiceOrder

open Relation ServiceOrder

variable {services : List Dependent}

theorem checkDependencies_eq (services : List Dependent) : checkDependencies services =
    if undeclaredUses services = [] then
      if stuck services = [] then .ok () else .error (.cycle (stuck services))
    else .error (.unknown (unknownUses services)) := by
  simp only [← unknownUses_eq_nil_iff]
  simp [checkDependencies]

theorem checkDependencies_eq_ok_iff : checkDependencies services = .ok () ↔
    undeclaredUses services = [] ∧ stuck services = [] := by
  rw [checkDependencies_eq]
  split_ifs with hdeclared hstuck
  · exact iff_of_true rfl ⟨hdeclared, hstuck⟩
  · exact iff_of_false id fun h => hstuck h.2
  · exact iff_of_false id fun h => hdeclared h.1

theorem checkDependencies_eq_unknown_iff {texts : List String} :
    checkDependencies services = .error (.unknown texts) ↔
      undeclaredUses services ≠ [] ∧ texts = unknownUses services := by
  rw [checkDependencies_eq]
  split_ifs with hdeclared hstuck
  · exact iff_of_false id fun h => h.1 hdeclared
  · exact iff_of_false (fun h => DependencyFault.noConfusion (Except.error.inj h)) fun h =>
      h.1 hdeclared
  · rw [Except.error.injEq, DependencyFault.unknown.injEq, eq_comm]
    exact (and_iff_right hdeclared).symm

theorem checkDependencies_eq_cycle_iff {found : List String} :
    checkDependencies services = .error (.cycle found) ↔
      undeclaredUses services = [] ∧ found ≠ [] ∧ found = stuck services := by
  rw [checkDependencies_eq]
  split_ifs with hdeclared hstuck
  · exact iff_of_false id fun h => h.2.1 (h.2.2.trans hstuck)
  · rw [Except.error.injEq, DependencyFault.cycle.injEq]
    exact ⟨fun h => ⟨hdeclared, h ▸ hstuck, h.symm⟩, fun h => h.2.2.symm⟩
  · exact iff_of_false (fun h => DependencyFault.noConfusion (Except.error.inj h)) fun h =>
      hdeclared h.1

/-- The check accepts services that use declared services only, and without a cycle. It lists in
order each use of an undeclared service, as often as it is written, and if there is none, the
services from which a cycle can be reached, each once and in order. -/
theorem checkDependencies_exact (services : List Dependent) :
    (checkDependencies services = .ok () ↔
      (∀ s ∈ services, ∀ dep ∈ s.uses, dep ∈ services.map Dependent.name) ∧
        ¬∃ name, TransGen (Uses services) name name) ∧
    (∀ texts, checkDependencies services = .error (.unknown texts) ↔
      undeclaredUses services ≠ [] ∧
        texts.Perm ((undeclaredUses services).map fun use => use.1 ++ " -> " ++ use.2) ∧
        texts.Pairwise (· ≤ ·)) ∧
    ∀ found, checkDependencies services = .error (.cycle found) ↔
      undeclaredUses services = [] ∧ found ≠ [] ∧
        found.Pairwise (· < ·) ∧ ∀ name, name ∈ found ↔ ReachesCycle services name := by
  refine ⟨?_, fun texts => ?_, fun found => ?_⟩
  · rw [checkDependencies_eq_ok_iff, undeclaredUses_eq_nil_iff, stuck_eq_nil_iff]
  · rw [checkDependencies_eq_unknown_iff, eq_unknownUses_iff]
  · rw [checkDependencies_eq_cycle_iff, eq_stuck_iff]

end GoScaffold
