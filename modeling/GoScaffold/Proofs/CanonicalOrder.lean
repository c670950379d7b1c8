import GoScaffold.Proofs.DependencyFaults
import GoScaffold.Proofs.Text.ByteOrder

/-! Of all orders that place every service after those it uses, the order of services is the first
one. Any other order of the remaining services begins with one that is ready, and the run takes the
least of these. So the order is a matter of what is declared and used alone. -/

namespace GoScaffold

namespace ServiceOrder

variable {services : List Dependent}

/-- The list names each declared service once, after all the declared services that it uses. -/
structure Orders (services : List Dependent) (order : List String) : Prop where
  nodup : order.Nodup
  mem_iff : ∀ name, name ∈ order ↔ name ∈ services.map Dependent.name
  after : ∀ before name rest, order = before ++ name :: rest →
    ∀ dep, Uses services name dep → dep ∈ before

theorem le_of_find?_eq_some {p : String → Bool} {texts : List String} {found text : String}
    (hsorted : texts.Pairwise (· < ·)) (hfind : texts.find? p = some found) (hmem : text ∈ texts)
    (hp : p text = true) : found ≤ text := by
  obtain ⟨-, before, after, rfl, hbefore⟩ := List.find?_eq_some_iff_append.1 hfind
  have hnot : text ∉ before := fun h => by simpa [hp] using hbefore text h
  rcases List.mem_cons.1 ((List.mem_append.1 hmem).resolve_left hnot) with rfl | hafter
  · exact le_rfl
  · exact ((List.pairwise_cons.1 (List.pairwise_append.1 hsorted).2.1).1 text hafter).le

/-- No order in which each of the remaining names comes after what it uses is before the one in
which a run places them. -/
theorem not_lt_place {steps : Nat} {placed remaining order : List String}
    (hsorted : remaining.Pairwise (· < ·)) (hperm : order.Perm remaining)
    (hafter : ∀ before name rest, order = before ++ name :: rest →
      ∀ dep, Uses services name dep → dep ∈ placed ∨ dep ∈ before) :
    ¬order < place services steps placed remaining := by
  induction steps generalizing placed remaining order with
  | zero => exact List.not_lt_nil order
  | succ steps ih =>
    rw [place]
    cases hfind : remaining.find? (isReady services placed) with
    | none => exact List.not_lt_nil order
    | some next =>
      have hnext : next ∈ order := hperm.mem_iff.2 (List.mem_of_find?_eq_some hfind)
      obtain ⟨first, rest, rfl⟩ := List.exists_cons_of_ne_nil (List.ne_nil_of_mem hnext)
      -- what the other order begins with is ready too, as nothing stands before it
      have hready : isReady services placed first = true :=
        isReady_iff.2 fun dep huses => (hafter [] first rest rfl dep huses).resolve_right
          List.not_mem_nil
      have hle : next ≤ first :=
        le_of_find?_eq_some hsorted hfind (hperm.subset List.mem_cons_self) hready
      intro hlt
      rcases List.cons_lt_cons_iff.1 hlt with hless | ⟨rfl, hrest⟩
      · exact absurd hless hle.not_gt
      · refine ih (hsorted.sublist List.erase_sublist) ?_ ?_ hrest
        · exact (List.cons_perm_iff_perm_erase.1 hperm).2
        · intro before name after heq dep huses
          have hdep := hafter (first :: before) name after (congrArg _ heq) dep huses
          rw [List.mem_cons] at hdep ⊢
          tauto

theorem Orders.perm_names {order : List String} (h : Orders services order) :
    order.Perm (names services) := by
  refine (List.perm_ext_iff_of_nodup h.nodup nodup_names).2 fun name => ?_
  rw [h.mem_iff, mem_names, List.mem_map]

theorem Orders.not_lt_resolved {order : List String} (h : Orders services order) :
    ¬order < resolved services :=
  resolved_eq_place services ▸ not_lt_place pairwise_names h.perm_names fun before name rest
    heq dep huses =>
    .inr (h.after before name rest heq dep huses)

theorem Orders.congr {others : List Dependent} {order : List String} (h : Orders services order)
    (hnames : ∀ name, name ∈ others.map Dependent.name ↔ name ∈ services.map Dependent.name)
    (huses : ∀ name dep, Uses others name dep ↔ Uses services name dep) : Orders others order where
  nodup := h.nodup
  mem_iff name := (h.mem_iff name).trans (hnames name).symm
  after before name rest heq dep hdep := h.after before name rest heq dep ((huses name dep).1 hdep)

end ServiceOrder

open ServiceOrder

variable {services : List Dependent}

theorem serviceOrder_eq_resolved (h : stuck services = []) :
    serviceOrder services = resolved services := by
  have hplaced : ∀ s ∈ services, s.name ∈ resolved services := by
    intro s hs
    have hnot : ¬ReachesCycle services s.name := fun hcycle => by
      simpa [h] using mem_stuck_iff.2 hcycle
    exact mem_resolved_iff.2 ⟨mem_names.2 ⟨s, hs, rfl⟩, hnot⟩
  have hlast : ((services.map Dependent.name).eraseDups.filter
      fun name => !(resolved services).contains name) = [] := by
    simpa [List.filter_eq_nil_iff] using hplaced
  rw [serviceOrder, hlast, List.append_nil]

theorem orders_serviceOrder (h : stuck services = []) :
    Orders services (serviceOrder services) where
  nodup := nodup_serviceOrder services
  mem_iff name := by rw [mem_serviceOrder, List.mem_map]
  after before name rest heq dep huses :=
    mem_before_of_resolved_eq ((serviceOrder_eq_resolved h).symm.trans heq) huses

theorem serviceOrder_eq {others : List Dependent} (h : stuck services = [])
    (hothers : stuck others = [])
    (hnames : ∀ name, name ∈ others.map Dependent.name ↔ name ∈ services.map Dependent.name)
    (huses : ∀ name dep, Uses others name dep ↔ Uses services name dep) :
    serviceOrder others = serviceOrder services := by
  have hservices : Orders others (serviceOrder services) :=
    (orders_serviceOrder h).congr hnames huses
  have hback : Orders services (serviceOrder others) :=
    (orders_serviceOrder hothers).congr (fun name => (hnames name).symm) fun name dep =>
      (huses name dep).symm
  have hle : ¬serviceOrder services < serviceOrder others :=
    serviceOrder_eq_resolved hothers ▸ hservices.not_lt_resolved
  have hge : ¬serviceOrder others < serviceOrder services :=
    serviceOrder_eq_resolved h ▸ hback.not_lt_resolved
  exact le_antisymm (not_lt.1 hle) (not_lt.1 hge)

theorem stuck_congr {others : List Dependent}
    (huses : ∀ name dep, Uses others name dep ↔ Uses services name dep)
    (h : stuck services = []) : stuck others = [] := by
  have hsame : Uses others = Uses services := by
    funext name dep
    exact propext (huses name dep)
  rwa [stuck_eq_nil_iff, hsame, ← stuck_eq_nil_iff]

/-- Where the dependencies are valid, the order of services is the first one, by the bytes of the
names, of all orders that place every service after those it uses. It depends on the declared names
and on which service uses which alone. -/
theorem serviceOrder_canonical {services : List Dependent}
    (hvalid : checkDependencies services = .ok ()) :
    Orders services (serviceOrder services) ∧
    (∀ order, Orders services order →
      (serviceOrder services).map Text.encoded ≤ order.map Text.encoded) ∧
    ∀ others : List Dependent,
      (∀ name, name ∈ others.map Dependent.name ↔ name ∈ services.map Dependent.name) →
      (∀ name dep, Uses others name dep ↔ Uses services name dep) →
      serviceOrder others = serviceOrder services := by
  have hstuck : stuck services = [] := (checkDependencies_eq_ok_iff.1 hvalid).2
  refine ⟨orders_serviceOrder hstuck, fun order horder => ?_, fun others hnames huses => ?_⟩
  · rw [serviceOrder_eq_resolved hstuck, ← List.not_lt, Text.map_encoded_lt_iff]
    exact horder.not_lt_resolved
  · exact serviceOrder_eq hstuck (stuck_congr huses hstuck) hnames huses

def ledger : List Dependent := [⟨"Audit", []⟩, ⟨"Billing", ["Users"]⟩, ⟨"Users", []⟩]

def ledgerRepeated : List Dependent :=
  [⟨"Users", []⟩, ⟨"Billing", ["Users", "Users"]⟩, ⟨"Audit", []⟩, ⟨"Billing", []⟩]

theorem checkDependencies_ledger : checkDependencies ledger = .ok () := by
  exact checkDependencies_eq_ok_iff.2 ⟨by decide, by decide +kernel⟩

theorem orders_ledger : Orders ledger ["Users", "Billing", "Audit"] where
  nodup := by decide
  mem_iff name := by
    simp only [ledger, List.map_cons, List.map_nil, List.mem_cons, List.not_mem_nil, or_false]
    tauto
  after before name rest heq dep huses := by
    have hledger : declaredUses ledger = [("Billing", "Users")] := by decide
    rw [uses_iff, hledger, List.mem_singleton, Prod.mk.injEq] at huses
    obtain ⟨rfl, rfl⟩ := huses
    cases before with
    | nil => simp at heq
    | cons first before => simp [(List.cons.inj heq).1]

theorem serviceOrder_canonical_ledger :
    checkDependencies ledger = .ok () ∧ Orders ledger ["Users", "Billing", "Audit"] ∧
    (serviceOrder ledger).map Text.encoded ≤ ["Users", "Billing", "Audit"].map Text.encoded ∧
    ledgerRepeated ≠ ledger ∧ serviceOrder ledgerRepeated = serviceOrder ledger := by
  obtain ⟨-, hleast, hsame⟩ := serviceOrder_canonical checkDependencies_ledger
  refine ⟨checkDependencies_ledger, orders_ledger, hleast _ orders_ledger,
    by decide, hsame _ (fun name => ?_) ?_⟩
  · simp only [ledgerRepeated, ledger, List.map_cons, List.map_nil, List.mem_cons,
      List.not_mem_nil, or_false]
    tauto
  · intro name dep
    have hmore : declaredUses ledgerRepeated ⊆ declaredUses ledger := by decide
    have hless : declaredUses ledger ⊆ declaredUses ledgerRepeated := by decide
    rw [uses_iff, uses_iff]
    exact ⟨@hmore (name, dep), @hless (name, dep)⟩

end GoScaffold
