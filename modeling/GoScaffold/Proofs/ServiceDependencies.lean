import GoScaffold.Proofs.ServiceOrder
import Mathlib.Data.Set.Finite.List
import Mathlib.Data.Fintype.Pigeonhole
import Mathlib.Logic.Relation

/-! The order of services respects their dependencies. The services that are placed first are those
from which no cycle can be reached, each after all that it uses. A service that is left over uses
another one that is left over, so it leads into a cycle. -/

namespace GoScaffold

namespace ServiceOrder

open Relation

variable {services : List Dependent}

/-- A declaration of the first service uses the second one, which is declared too. -/
def Uses (services : List Dependent) (name dep : String) : Prop :=
  dep ∈ names services ∧ ∃ s ∈ services, s.name = name ∧ dep ∈ s.uses

def ReachesCycle (services : List Dependent) (name : String) : Prop :=
  ∃ dep, ReflTransGen (Uses services) name dep ∧ TransGen (Uses services) dep dep

theorem uses_iff {name dep : String} : Uses services name dep ↔
    (name, dep) ∈ declaredUses services :=
  mem_declaredUses.symm

theorem isReady_iff {placed : List String} {name : String} :
    isReady services placed name = true ↔ ∀ dep, Uses services name dep → dep ∈ placed := by
  simp only [isReady_iff_forall, uses_iff]

theorem mem_of_place_eq {steps : Nat} {placed remaining before after : List String}
    {name dep : String}
    (h : place services steps placed remaining = before ++ name :: after)
    (huses : Uses services name dep) : dep ∈ placed ∨ dep ∈ before := by
  induction steps generalizing placed remaining before with
  | zero => simp [place] at h
  | succ steps ih =>
    rw [place] at h
    cases hfind : remaining.find? (isReady services placed) with
    | none => simp [hfind] at h
    | some next =>
      rw [hfind] at h
      cases before with
      | nil =>
        obtain ⟨rfl, -⟩ := List.cons.inj h
        exact .inl (isReady_iff.1 (List.find?_some hfind) dep huses)
      | cons first before =>
        obtain ⟨rfl, hrest⟩ := List.cons.inj h
        rcases ih hrest with hdep | hdep
        · exact (List.mem_cons.1 hdep).elim (fun heq => .inr (heq ▸ List.mem_cons_self)) .inl
        · exact .inr (List.mem_cons_of_mem _ hdep)

/-- A name that a run leaves over uses one that the run has not placed either. -/
theorem exists_uses_of_not_mem_place {steps : Nat} {placed remaining : List String} {name : String}
    (hsteps : remaining.length ≤ steps) (hname : name ∈ remaining)
    (hleft : name ∉ place services steps placed remaining) :
    ∃ dep, Uses services name dep ∧ dep ∉ placed ∧ dep ∉ place services steps placed remaining := by
  induction steps generalizing placed remaining with
  | zero =>
    rw [List.eq_nil_of_length_eq_zero (Nat.le_zero.1 hsteps)] at hname
    exact absurd hname List.not_mem_nil
  | succ steps ih =>
    rw [place] at hleft ⊢
    cases hfind : remaining.find? (isReady services placed) with
    | none =>
      -- no name that is left is ready, and this one is left
      have hready := mt isReady_iff.2 (List.find?_eq_none.1 hfind name hname)
      push Not at hready
      obtain ⟨dep, huses, hdep⟩ := hready
      exact ⟨dep, huses, hdep, List.not_mem_nil⟩
    | some next =>
      rw [hfind] at hleft
      simp only [List.mem_cons, not_or] at hleft ⊢
      have hlength : (remaining.erase next).length ≤ steps := by
        rw [List.length_erase_of_mem (List.mem_of_find?_eq_some hfind)]
        omega
      have hmem : name ∈ remaining.erase next := (List.mem_erase_of_ne hleft.1).2 hname
      obtain ⟨dep, huses, hplaced, hdep⟩ := ih hlength hmem hleft.2
      rw [List.mem_cons, not_or] at hplaced
      exact ⟨dep, huses, hplaced.2, hplaced.1, hdep⟩

theorem mem_before_of_resolved_eq {before after : List String} {name dep : String}
    (h : resolved services = before ++ name :: after) (huses : Uses services name dep) :
    dep ∈ before := by
  rw [resolved_eq_place] at h
  exact (mem_of_place_eq h huses).resolve_left List.not_mem_nil

/-! No cycle can be reached from a service that is placed. -/

theorem idxOf_lt_of_uses {name dep : String} (hname : name ∈ resolved services)
    (huses : Uses services name dep) :
    dep ∈ resolved services ∧ (resolved services).idxOf dep < (resolved services).idxOf name := by
  obtain ⟨before, after, heq, hfirst⟩ := List.eq_append_cons_of_mem hname
  have hdep : dep ∈ before := mem_before_of_resolved_eq heq huses
  rw [heq, List.idxOf_append_of_mem hdep, List.idxOf_append_of_notMem hfirst]
  exact ⟨List.mem_append_left _ hdep, Nat.lt_add_right _ (List.idxOf_lt_length_iff.2 hdep)⟩

theorem idxOf_lt_of_transGen {name dep : String} (hname : name ∈ resolved services)
    (h : TransGen (Uses services) name dep) :
    dep ∈ resolved services ∧ (resolved services).idxOf dep < (resolved services).idxOf name := by
  induction h with
  | single huses => exact idxOf_lt_of_uses hname huses
  | tail _ huses ih =>
    obtain ⟨hdep, hlt⟩ := idxOf_lt_of_uses ih.1 huses
    exact ⟨hdep, hlt.trans ih.2⟩

theorem not_reachesCycle_of_mem_resolved {name : String} (hname : name ∈ resolved services) :
    ¬ReachesCycle services name := by
  rintro ⟨dep, hreach, hcycle⟩
  have hdep : dep ∈ resolved services := by
    rcases reflTransGen_iff_eq_or_transGen.1 hreach with rfl | htrans
    · exact hname
    · exact (idxOf_lt_of_transGen hname htrans).1
  exact lt_irrefl _ (idxOf_lt_of_transGen hdep hcycle).2

/-! A cycle can be reached from every service that is left over. -/

theorem exists_uses_of_not_mem_resolved {name : String} (hdeclared : name ∈ names services)
    (hleft : name ∉ resolved services) :
    ∃ dep, Uses services name dep ∧ dep ∈ names services ∧ dep ∉ resolved services := by
  rw [resolved_eq_place] at hleft ⊢
  obtain ⟨dep, huses, -, hdep⟩ := exists_uses_of_not_mem_place le_rfl hdeclared hleft
  exact ⟨dep, huses, huses.1, hdep⟩

theorem reflTransGen_iterate {α : Type} {r : α → α → Prop} {next : α → α}
    (hnext : ∀ a, r a (next a))
    (n : Nat) (a : α) : ReflTransGen r a (next^[n] a) := by
  induction n generalizing a with
  | zero => exact .refl
  | succ n ih => exact .head (hnext a) (ih (next a))

theorem exists_cycle_of_next {α : Type} [Finite α] {r : α → α → Prop} (next : α → α)
    (hnext : ∀ a, r a (next a)) (a : α) : ∃ b, ReflTransGen r a b ∧ TransGen r b b := by
  obtain ⟨m, n, hlt, heq⟩ : ∃ m n, m < n ∧ next^[m] a = next^[n] a := by
    obtain ⟨m, n, hne, heq⟩ := Finite.exists_ne_map_eq_of_infinite fun n => next^[n] a
    rcases lt_or_gt_of_ne hne with hlt | hlt
    · exact ⟨m, n, hlt, heq⟩
    · exact ⟨n, m, hlt, heq.symm⟩
  obtain ⟨k, rfl⟩ := Nat.exists_eq_add_of_lt hlt
  -- the way from the first of two equal iterates to the second one is the cycle
  have hround : next^[m] a = next^[k] (next (next^[m] a)) := by
    rw [← Function.iterate_succ_apply, ← Function.iterate_add_apply, heq]
    congr 1
    omega
  have hcycle := TransGen.head' (hnext (next^[m] a)) (reflTransGen_iterate hnext k _)
  rw [← hround] at hcycle
  exact ⟨next^[m] a, reflTransGen_iterate hnext m a, hcycle⟩

/-- Where every element of a finite set has a successor in it, each one leads into a cycle. -/
theorem exists_cycle_of_successors {α : Type} {r : α → α → Prop} {S : Set α} (hfinite : S.Finite)
    (h : ∀ a ∈ S, ∃ b, r a b ∧ b ∈ S) {a : α} (ha : a ∈ S) :
    ∃ b, ReflTransGen r a b ∧ TransGen r b b := by
  have hsubtype := hfinite.to_subtype
  choose next hnext using fun a : S => h a a.2
  obtain ⟨b, hreach, hcycle⟩ := exists_cycle_of_next (r := fun a b : S => r a b)
    (fun a => ⟨next a, (hnext a).2⟩) (fun a => (hnext a).1) ⟨a, ha⟩
  exact ⟨b, hreach.lift Subtype.val fun _ _ h => h, hcycle.lift Subtype.val fun _ _ h => h⟩

theorem reachesCycle_of_not_mem_resolved {name : String} (hdeclared : name ∈ names services)
    (hleft : name ∉ resolved services) : ReachesCycle services name := by
  have hfinite : {n | n ∈ names services ∧ n ∉ resolved services}.Finite :=
    (names services).finite_toSet.subset fun _ h => h.1
  exact exists_cycle_of_successors hfinite (fun _ h => exists_uses_of_not_mem_resolved h.1 h.2)
    ⟨hdeclared, hleft⟩

theorem mem_resolved_iff {name : String} :
    name ∈ resolved services ↔ name ∈ names services ∧ ¬ReachesCycle services name := by
  constructor
  · intro hname
    exact ⟨(resolved_subperm services).subset hname, not_reachesCycle_of_mem_resolved hname⟩
  · rintro ⟨hdeclared, hcycle⟩
    by_contra hleft
    exact hcycle (reachesCycle_of_not_mem_resolved hdeclared hleft)

end ServiceOrder

/-- The order names every declared service once, and nothing else. In front stand the services from
which no cycle can be reached, each after all that it uses, and the others follow in the order of
their first declarations. -/
theorem serviceOrder_topological (services : List Dependent) :
    (serviceOrder services).Nodup ∧
    (∀ name, name ∈ serviceOrder services ↔ ∃ s ∈ services, s.name = name) ∧
    ∃ first last, serviceOrder services = first ++ last ∧
      (∀ name, name ∈ first ↔
        (∃ s ∈ services, s.name = name) ∧ ¬ServiceOrder.ReachesCycle services name) ∧
      (∀ before name after, first = before ++ name :: after →
        ∀ dep, ServiceOrder.Uses services name dep → dep ∈ before) ∧
      last.Sublist (services.map Dependent.name).eraseDups := by
  refine ⟨nodup_serviceOrder services, fun name => mem_serviceOrder,
    ServiceOrder.resolved services, _, rfl, fun name => ?_, fun before name after heq dep huses =>
      ?_, List.filter_sublist⟩
  · rw [ServiceOrder.mem_resolved_iff, ServiceOrder.mem_names]
  · exact ServiceOrder.mem_before_of_resolved_eq heq huses

end GoScaffold
