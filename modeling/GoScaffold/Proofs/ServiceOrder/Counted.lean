import GoScaffold.ServiceOrder
import GoScaffold.Proofs.Dict
import GoScaffold.Proofs.FirstSight
import Mathlib.Data.List.Induction
import Mathlib.Data.List.Sort

/-! The counts by which services are placed. At every step of the loop they are the numbers of uses
of services that are not placed yet, so a service is ready exactly when it uses placed services
only. No count is taken below zero, no service becomes ready twice, and the loop ends because
nothing is ready any more. -/

namespace GoScaffold.ServiceOrder

variable {services : List Dependent}

/-! Placing services by looking at all their uses. -/

def names (services : List Dependent) : List String :=
  (services.map Dependent.name).eraseDups.mergeSort

def isKnown (services : List Dependent) (name : String) : Bool :=
  services.any fun s => s.name == name

/-- All that the service uses, by any of its declarations, was placed. Undeclared services do not
count. -/
def isReady (services : List Dependent) (placed : List String) (name : String) : Bool :=
  services.all fun s =>
    s.name != name || s.uses.all fun dep => !isKnown services dep || placed.contains dep

/-- Places the first of the remaining names that is ready, for the given number of steps or until
none is. -/
def place (services : List Dependent) : (steps : Nat) → (placed remaining : List String) →
    List String
  | 0, _, _ => []
  | steps + 1, placed, remaining =>
    match remaining.find? (isReady services placed) with
    | none => []
    | some name => name :: place services steps (name :: placed) (remaining.erase name)

theorem nodup_names : (names services).Nodup :=
  (List.mergeSort_perm _ _).nodup_iff.2 (nodup_eraseDups _)

theorem mem_names {name : String} : name ∈ names services ↔ ∃ s ∈ services, s.name = name := by
  simp [names]

theorem pairwise_names : (names services).Pairwise (· < ·) := by
  have hle : (names services).Pairwise (· ≤ ·) := List.pairwise_mergeSort' (· ≤ ·) _
  exact hle.imp₂ (fun _ _ hle hne => lt_of_le_of_ne hle hne) nodup_names

theorem eq_of_pairwise_lt {xs ys : List String} (hxs : xs.Pairwise (· < ·))
    (hys : ys.Pairwise (· < ·))
    (h : ∀ name, name ∈ xs ↔ name ∈ ys) : xs = ys := by
  have hperm : xs.Perm ys := (List.perm_ext_iff_of_nodup (hxs.imp ne_of_lt) (hys.imp ne_of_lt)).2 h
  exact hperm.eq_of_pairwise (fun _ _ _ _ hab hba => absurd hba hab.asymm) hxs hys

/-! Uses as pairs of the service that uses and the service that is used. -/

def declaredUses (services : List Dependent) : List (String × String) :=
  services.flatMap fun s => (s.uses.filter (· ∈ services.map Dependent.name)).map (s.name, ·)

def undeclaredUses (services : List Dependent) : List (String × String) :=
  services.flatMap fun s => (s.uses.filter (· ∉ services.map Dependent.name)).map (s.name, ·)

def users (services : List Dependent) (dep : String) : List String :=
  ((declaredUses services).filter (·.2 = dep)).map Prod.fst

/-- How many uses of services that are not placed a service has. -/
def openUses (services : List Dependent) (placed : List String) (name : String) : Nat :=
  (declaredUses services).countP fun use => use.1 = name ∧ use.2 ∉ placed

theorem filter_uses (p : String → Bool) :
    (services.flatMap fun s => s.uses.map (s.name, ·)).filter (fun use => p use.2) =
      services.flatMap fun s => (s.uses.filter p).map (s.name, ·) := by
  rw [List.filter_flatMap]
  refine List.flatMap_congr fun s _ => ?_
  rw [List.filter_map]
  rfl

theorem filter_uses_declared : (services.flatMap fun s => s.uses.map (s.name, ·)).filter
    (fun use => decide (use.2 ∈ services.map Dependent.name)) = declaredUses services :=
  filter_uses fun dep => decide (dep ∈ services.map Dependent.name)

theorem filter_uses_undeclared : (services.flatMap fun s => s.uses.map (s.name, ·)).filter
    (fun use => !decide (use.2 ∈ services.map Dependent.name)) = undeclaredUses services := by
  rw [filter_uses fun dep => !decide (dep ∈ services.map Dependent.name), undeclaredUses]
  simp only [decide_not]

theorem mem_declaredUses {name dep : String} : (name, dep) ∈ declaredUses services ↔
    dep ∈ names services ∧ ∃ s ∈ services, s.name = name ∧ dep ∈ s.uses := by
  simp only [declaredUses, List.mem_flatMap, List.mem_map, List.mem_filter, Prod.mk.injEq,
    decide_eq_true_eq, mem_names]
  constructor
  · rintro ⟨s, hs, dep, ⟨hdep, hdeclared⟩, hname, rfl⟩
    exact ⟨hdeclared, s, hs, hname, hdep⟩
  · rintro ⟨hdeclared, s, hs, hname, hdep⟩
    exact ⟨s, hs, dep, ⟨hdep, hdeclared⟩, hname, rfl⟩

theorem isKnown_iff {name : String} : isKnown services name = true ↔ name ∈ names services := by
  rw [mem_names, isKnown, List.any_eq_true]
  simp only [beq_iff_eq]

theorem isReady_iff_forall {placed : List String} {name : String} :
    isReady services placed name = true ↔ ∀ dep, (name, dep) ∈ declaredUses services →
    dep ∈ placed := by
  have hknown : ∀ dep, isKnown services dep = false ↔ dep ∉ names services := fun dep => by
    rw [← isKnown_iff, Bool.not_eq_true]
  simp only [isReady, List.all_eq_true, Bool.or_eq_true, bne_iff_ne, ne_eq, Bool.not_eq_true',
    List.contains_iff_mem, hknown, mem_declaredUses]
  constructor
  · rintro h dep ⟨hdeclared, s, hs, hname, hdep⟩
    have hall := (h s hs).resolve_left (not_not_intro hname)
    exact (hall dep hdep).resolve_left (not_not_intro hdeclared)
  · intro h s hs
    by_cases hname : s.name = name
    · refine .inr fun dep hdep => ?_
      by_cases hdeclared : dep ∈ names services
      · exact .inr (h dep ⟨hdeclared, s, hs, hname, hdep⟩)
      · exact .inl hdeclared
    · exact .inl hname

theorem isReady_iff_openUses {placed : List String} {name : String} :
    isReady services placed name = true ↔ openUses services placed name = 0 := by
  rw [isReady_iff_forall, openUses, List.countP_eq_zero]
  simp only [decide_eq_true_eq, not_and, not_not]
  exact ⟨fun h use huse hname => h use.2 (hname ▸ huse), fun h dep hdep => h (name, dep) hdep rfl⟩

theorem mem_users {name dep : String} : name ∈ users services dep ↔
    (name, dep) ∈ declaredUses services := by
  simp only [users, List.mem_map, List.mem_filter, decide_eq_true_eq]
  constructor
  · rintro ⟨use, ⟨huse, rfl⟩, rfl⟩
    exact huse
  · intro h
    exact ⟨(name, dep), ⟨h, rfl⟩, rfl⟩

theorem mem_names_of_mem_users {name dep : String} (h : name ∈ users services dep) :
    name ∈ names services := by
  obtain ⟨-, s, hs, hname, -⟩ := mem_declaredUses.1 (mem_users.1 h)
  exact mem_names.2 ⟨s, hs, hname⟩

theorem openUses_cons {placed : List String} {dep : String} (hdep : dep ∉ placed) (name : String) :
    openUses services placed name =
      openUses services (dep :: placed) name + (users services dep).count name := by
  unfold openUses users
  induction declaredUses services with
  | nil => rfl
  | cons use uses ih =>
    rw [List.countP_cons, List.countP_cons, ih]
    by_cases hused : use.2 = dep
    · have hclosed : ¬(use.1 = name ∧ use.2 ∉ dep :: placed) := by simp [hused]
      have hopen : use.1 = name ∧ use.2 ∉ placed ↔ use.1 = name := by simp [hused, hdep]
      rw [List.filter_cons_of_pos (by simpa using hused), List.map_cons, List.count_cons]
      simp only [hclosed, hopen, decide_eq_true_eq, beq_iff_eq, if_false]
      omega
    · have hsame : use.2 ∉ dep :: placed ↔ use.2 ∉ placed := by simp [hused]
      rw [List.filter_cons_of_neg (by simpa using hused)]
      simp only [hsame]
      omega

/-! The graph holds the uses of declared services. -/

namespace Graph

variable {g : Graph} {known : String → Bool}

theorem contains_counts_add (g : Graph) (use : String × String) (q : String) :
    (g.add use).counts.contains q = g.counts.contains q := by
  unfold add
  split_ifs
  · exact Dict.contains_update ..
  · rfl

theorem sorted_counts_foldl_add (h : g.counts.Sorted) (uses : List (String × String)) :
    (uses.foldl add g).counts.Sorted := by
  refine List.foldlRecOn (motive := fun g : Graph => g.counts.Sorted) uses _ h fun g h use _ => ?_
  unfold add
  split_ifs
  · exact h.update _ _
  · exact h

theorem get?_counts_foldl_add (hknown : ∀ q, g.counts.contains q = known q)
    (uses : List (String × String)) (q : String) : (uses.foldl add g).counts.get? q =
      (g.counts.get? q).map (· + (uses.filter fun use => known use.2).countP fun use =>
        use.1 = q) := by
  induction uses generalizing g with
  | nil => simp
  | cons use uses ih =>
    rw [List.foldl_cons, ih fun q => (contains_counts_add ..).trans (hknown q)]
    unfold add
    rw [hknown]
    cases hdep : known use.2 with
    | false => rw [List.filter_cons_of_neg (by simp [hdep]), if_neg Bool.false_ne_true]
    | true =>
      rw [List.filter_cons_of_pos (by simp [hdep]), if_pos rfl, List.countP_cons, Dict.get?_update]
      by_cases hq : q = use.1
      · subst hq
        simp [Nat.add_assoc, Nat.add_comm, Function.comp_def]
      · simp [hq, Ne.symm hq]

theorem get?_dependents_foldl_add (hknown : ∀ q, g.counts.contains q = known q)
    (uses : List (String × String)) (dep : String) :
    ((uses.foldl add g).dependents.get? dep).getD [] =
      (g.dependents.get? dep).getD [] ++
        ((uses.filter fun use => known use.2).filter (·.2 = dep)).map Prod.fst := by
  induction uses generalizing g with
  | nil => simp
  | cons use uses ih =>
    rw [List.foldl_cons, ih fun q => (contains_counts_add ..).trans (hknown q)]
    unfold add
    rw [hknown]
    cases hused : known use.2 with
    | false => rw [List.filter_cons_of_neg (by simp [hused]), if_neg Bool.false_ne_true]
    | true =>
      rw [List.filter_cons_of_pos (by simp [hused]), if_pos rfl, Dict.get?_insert]
      by_cases hdep : dep = use.2
      · subst hdep
        simp
      · simp [hdep, Ne.symm hdep]

theorem unknown_foldl_add (hknown : ∀ q, g.counts.contains q = known q)
    (uses : List (String × String)) :
    (uses.foldl add g).unknown = g.unknown ++
      (uses.filter fun use => !known use.2).map fun use => use.1 ++ " -> " ++ use.2 := by
  induction uses generalizing g with
  | nil => simp
  | cons use uses ih =>
    rw [List.foldl_cons, ih fun q => (contains_counts_add ..).trans (hknown q)]
    unfold add
    rw [hknown]
    cases hdep : known use.2 with
    | false => simp [hdep]
    | true => simp [hdep]

end Graph

theorem get?_foldl_insert_zero (entries : List Dependent) (d : Dict Nat) (q : String) :
    ((entries.map fun s => (s.name, 0)).foldl (fun d (k, v) => Dict.insert k v d) d).get? q =
      if q ∈ entries.map Dependent.name then some 0 else d.get? q := by
  induction entries generalizing d with
  | nil => simp
  | cons s entries ih =>
    rw [List.map_cons, List.foldl_cons, ih, Dict.get?_insert]
    by_cases hq : q = s.name
    · simp [hq]
    · simp [hq]

theorem get?_ofEntries_zero (q : String) :
    (Dict.ofEntries (services.map fun s => (s.name, 0))).get? q =
      if q ∈ names services then some 0 else none := by
  rw [Dict.ofEntries, get?_foldl_insert_zero]
  simp only [mem_names, List.mem_map]
  rfl

theorem contains_ofEntries_zero (q : String) :
    (Dict.ofEntries (services.map fun s => (s.name, 0))).contains q =
      decide (q ∈ services.map Dependent.name) := by
  rw [Dict.contains, get?_ofEntries_zero]
  by_cases hq : q ∈ names services
  · rw [if_pos hq, decide_eq_true (List.mem_map.2 (mem_names.1 hq))]
    rfl
  · rw [if_neg hq, decide_eq_false fun h => hq (mem_names.2 (List.mem_map.1 h))]
    rfl

theorem get?_counts_ofServices (q : String) : (Graph.ofServices services).counts.get? q =
    if q ∈ names services then some (openUses services [] q) else none := by
  rw [Graph.ofServices, Graph.get?_counts_foldl_add contains_ofEntries_zero, get?_ofEntries_zero,
    filter_uses_declared]
  by_cases hq : q ∈ names services
  · rw [if_pos hq, if_pos hq, Option.map_some, Nat.zero_add]
    simp [openUses]
  · rw [if_neg hq, if_neg hq, Option.map_none]

theorem get?_dependents_ofServices (dep : String) :
    ((Graph.ofServices services).dependents.get? dep).getD [] = users services dep := by
  rw [Graph.ofServices, Graph.get?_dependents_foldl_add contains_ofEntries_zero,
    filter_uses_declared]
  rfl

theorem unknown_ofServices (services : List Dependent) : (Graph.ofServices services).unknown =
    (undeclaredUses services).map fun use => use.1 ++ " -> " ++ use.2 := by
  rw [Graph.ofServices, Graph.unknown_foldl_add contains_ofEntries_zero, filter_uses_undeclared,
    List.nil_append]

theorem sorted_counts_ofServices : (Graph.ofServices services).counts.Sorted :=
  Graph.sorted_counts_foldl_add (Dict.sorted_ofEntries _) _

theorem keys_counts_ofServices (services : List Dependent) :
    (Graph.ofServices services).counts.keys = names services := by
  refine eq_of_pairwise_lt sorted_counts_ofServices pairwise_names fun name => ?_
  rw [Dict.mem_keys_iff, get?_counts_ofServices]
  by_cases hname : name ∈ names services <;> simp [hname]

/-! Settling uses. -/

namespace Pending

variable {p : Pending}

section

variable {name q : String} {count : Nat}

theorem settle_of_get? (h : p.counts.get? name = some count) : p.settle name =
    { counts := p.counts.insert name (count - 1)
      ready := if count - 1 = 0 then p.ready.insert name () else p.ready } := by
  rw [settle, h]

theorem get?_counts_settle (h : p.counts.get? name = some count) :
    (p.settle name).counts.get? q = if q = name then some (count - 1) else p.counts.get? q := by
  rw [settle_of_get? h, Dict.get?_insert]

theorem mem_ready_settle (h : p.counts.get? name = some count) :
    q ∈ (p.settle name).ready.keys ↔ q ∈ p.ready.keys ∨ q = name ∧ count - 1 = 0 := by
  rw [settle_of_get? h]
  dsimp only
  split_ifs with hlast
  · rw [Dict.mem_keys_insert, or_comm, and_iff_left hlast]
  · rw [or_iff_left fun h => hlast h.2]

end

/-- Uses are settled as often as they are listed, and a service becomes ready when its last one is.
The services are supposed to have as many uses to settle. -/
theorem foldl_settle (waiting : List String)
    (hopen : ∀ q ∈ waiting, ∃ count, p.counts.get? q = some count ∧ waiting.count q ≤ count) :
    (∀ q, (waiting.foldl settle p).counts.get? q = (p.counts.get? q).map (· - waiting.count q)) ∧
    ∀ q, q ∈ (waiting.foldl settle p).ready.keys ↔
      q ∈ p.ready.keys ∨ q ∈ waiting ∧ p.counts.get? q = some (waiting.count q) := by
  induction waiting using List.reverseRecOn with
  | nil => simp
  | append_singleton done next ih =>
    have hself : (done ++ [next]).count next = done.count next + 1 := by simp
    have hother {q : String} (hq : q ≠ next) : (done ++ [next]).count q = done.count q := by
      simp [Ne.symm hq]
    obtain ⟨hcounts, hready⟩ := ih fun q hq => by
      obtain ⟨count, hget, hle⟩ := hopen q (List.mem_append_left _ hq)
      rw [List.count_append] at hle
      exact ⟨count, hget, by omega⟩
    obtain ⟨count, hget, hle⟩ := hopen next (by simp)
    rw [hself] at hle
    have hnext : (done.foldl settle p).counts.get? next = some (count - done.count next) := by
      rw [hcounts, hget, Option.map_some]
    rw [List.foldl_concat]
    constructor
    · intro q
      rw [get?_counts_settle hnext]
      split_ifs with hq
      · rw [hq, hget, Option.map_some, hself, Nat.sub_sub]
      · rw [hcounts, hother hq]
    · intro q
      rw [mem_ready_settle hnext, hready]
      by_cases hq : q = next
      · subst hq
        have hlast : count - done.count q - 1 = 0 ↔ count = done.count q + 1 := by omega
        have hbefore : ¬count = done.count q := by omega
        simp [hget, hself, hlast, hbefore]
      · simp [hq, hother hq]

theorem sorted_counts_settle (h : p.counts.Sorted) (name : String) :
    (p.settle name).counts.Sorted := by
  unfold settle
  split
  · exact h
  · exact h.insert _ _

theorem sorted_ready_settle (h : p.ready.Sorted) (name : String) :
    (p.settle name).ready.Sorted := by
  unfold settle
  split
  · exact h
  · dsimp only
    split_ifs
    · exact h.insert _ _
    · exact h

/-- What is pending after the services were placed. -/
structure Tracks (services : List Dependent) (placed : List String) (p : Pending) : Prop where
  counts : ∀ name, p.counts.get? name =
    if name ∈ names services then some (openUses services placed name) else none
  sorted_counts : p.counts.Sorted
  sorted_ready : p.ready.Sorted
  mem_ready : ∀ name, name ∈ p.ready.keys ↔
    name ∈ names services ∧ name ∉ placed ∧ openUses services placed name = 0
  settled : ∀ name ∈ placed, openUses services placed name = 0

theorem tracks_ofCounts (services : List Dependent) :
    Tracks services [] (ofCounts (Graph.ofServices services).counts) where
  counts := get?_counts_ofServices
  sorted_counts := sorted_counts_ofServices
  sorted_ready := by
    have hsorted := sorted_counts_ofServices.sublist
      (List.filter_sublist (l := (Graph.ofServices services).counts) (p := (·.2 == 0)))
    unfold Dict.Sorted Dict.keys at hsorted ⊢
    rwa [ofCounts, List.map_map]
  mem_ready name := by
    have hkeys : name ∈ (ofCounts (Graph.ofServices services).counts).ready.keys ↔
        (name, 0) ∈ (Graph.ofServices services).counts := by
      simp [ofCounts, Dict.keys]
    rw [hkeys, sorted_counts_ofServices.mem_iff, get?_counts_ofServices]
    by_cases hname : name ∈ names services <;> simp [hname]
  settled := nofun

section

variable {placed : List String} {name : String} {ready : Dict Unit}

theorem Tracks.get?_user (h : Tracks services placed p) {q : String}
    (hq : q ∈ users services name) :
    p.counts.get? q = some (openUses services placed q) := by
  rw [h.counts, if_pos (mem_names_of_mem_users hq)]

theorem Tracks.of_ready (h : Tracks services placed p) (hready : p.ready = (name, ()) :: ready) :
    name ∈ names services ∧ name ∉ placed ∧ openUses services placed name = 0 :=
  (h.mem_ready name).1 (hready ▸ List.mem_cons_self)

theorem Tracks.mem_ready_tail (h : Tracks services placed p)
    (hready : p.ready = (name, ()) :: ready)
    {q : String} : q ∈ ready.keys ↔
      q ≠ name ∧ q ∈ names services ∧ q ∉ placed ∧ openUses services placed q = 0 := by
  have hsorted := h.sorted_ready
  rw [hready] at hsorted
  have hfirst := (List.pairwise_cons.1 hsorted).1
  rw [← h.mem_ready, hready]
  constructor
  · intro hq
    exact ⟨(hfirst q hq).ne', List.mem_cons_of_mem _ hq⟩
  · rintro ⟨hne, hq⟩
    exact (List.mem_cons.1 hq).resolve_left hne

theorem Tracks.not_mem_of_user (h : Tracks services placed p)
    (hready : p.ready = (name, ()) :: ready)
    {q : String} (hq : q ∈ users services name) : q ∉ ready.keys ∧ q ∉ name :: placed := by
  obtain ⟨-, hplaced, hopen⟩ := h.of_ready hready
  have hwaits : openUses services placed q ≠ 0 := by
    have hcount := List.count_pos_iff.2 hq
    rw [openUses_cons hplaced]
    omega
  refine ⟨fun hmem => hwaits ((h.mem_ready_tail hready).1 hmem).2.2.2, fun hmem => ?_⟩
  rcases List.mem_cons.1 hmem with rfl | hmem
  · exact hwaits hopen
  · exact hwaits (h.settled q hmem)

theorem Tracks.covers (h : Tracks services placed p) (hready : p.ready = (name, ()) :: ready)
    {part : List String} (hpart : part.Sublist (users services name)) :
    ∀ q ∈ part, ∃ count, p.counts.get? q = some count ∧ part.count q ≤ count := by
  intro q hq
  refine ⟨_, h.get?_user (hpart.subset hq), ?_⟩
  rw [openUses_cons (h.of_ready hready).2.1]
  exact (hpart.count_le q).trans (Nat.le_add_left _ _)

/-- While the uses of a placed service are settled, no count is taken below zero, and no service
becomes ready that was ready or placed before. -/
theorem Tracks.settle_fresh (h : Tracks services placed p) (hready : p.ready = (name, ()) :: ready)
    {done rest : List String} {next : String}
    (hsplit : users services name = done ++ next :: rest) :
    (∃ count, (done.foldl settle { p with ready }).counts.get? next = some (count + 1)) ∧
      next ∉ (done.foldl settle { p with ready }).ready.keys ∧ next ∉ name :: placed := by
  have hdone : done.Sublist (users services name) := hsplit ▸ List.sublist_append_left _ _
  have hnext : next ∈ users services name := by simp [hsplit]
  have hwaits : done.count next + 1 ≤ openUses services placed next := by
    rw [openUses_cons (h.of_ready hready).2.1, hsplit, List.count_append, List.count_cons_self]
    omega
  obtain ⟨hcounts, hkeys⟩ := foldl_settle (p := { p with ready }) done (h.covers hready hdone)
  obtain ⟨hnot, hfresh⟩ := h.not_mem_of_user hready hnext
  refine ⟨⟨openUses services placed next - done.count next - 1, ?_⟩, fun hmem => ?_, hfresh⟩
  · rw [hcounts, h.get?_user hnext, Option.map_some]
    congr 1
    omega
  · rcases (hkeys next).1 hmem with hmem | ⟨-, hlast⟩
    · exact hnot hmem
    · have := Option.some.inj ((h.get?_user hnext).symm.trans hlast)
      omega

theorem Tracks.step (h : Tracks services placed p) (hready : p.ready = (name, ()) :: ready) :
    Tracks services (name :: placed) ((users services name).foldl settle { p with ready }) := by
  obtain ⟨hname, hplaced, hopen⟩ := h.of_ready hready
  have hcount : ∀ q, openUses services placed q = _ := openUses_cons hplaced
  obtain ⟨hcounts, hkeys⟩ := foldl_settle (p := { p with ready }) (users services name)
    (h.covers hready (List.Sublist.refl _))
  constructor
  · intro q
    rw [hcounts, h.counts]
    by_cases hq : q ∈ names services
    · rw [if_pos hq, if_pos hq, Option.map_some, hcount q, Nat.add_sub_cancel]
    · rw [if_neg hq, if_neg hq, Option.map_none]
  · exact List.foldlRecOn (motive := fun p : Pending => p.counts.Sorted) _ _ h.sorted_counts
      fun _ h q _ => sorted_counts_settle h q
  · have hrest : Dict.Sorted ready := (hready ▸ h.sorted_ready).sublist (List.sublist_cons_self _ _)
    exact List.foldlRecOn (motive := fun p : Pending => p.ready.Sorted) _ _ hrest
      fun _ h q _ => sorted_ready_settle h q
  · intro q
    rw [hkeys, h.mem_ready_tail hready, List.mem_cons, not_or]
    have hq := hcount q
    constructor
    · rintro (⟨hne, hdeclared, hleft, hzero⟩ | ⟨huser, hlast⟩)
      · exact ⟨hdeclared, ⟨hne, hleft⟩, by omega⟩
      · have hfresh := (h.not_mem_of_user hready huser).2
        rw [List.mem_cons, not_or] at hfresh
        have hall := Option.some.inj ((h.get?_user huser).symm.trans hlast)
        exact ⟨mem_names_of_mem_users huser, hfresh, by omega⟩
    · rintro ⟨hdeclared, ⟨hne, hleft⟩, hzero⟩
      by_cases huser : q ∈ users services name
      · refine .inr ⟨huser, ?_⟩
        rw [h.get?_user huser, hq, hzero, Nat.zero_add]
      · rw [List.count_eq_zero.2 huser] at hq
        exact .inl ⟨hne, hdeclared, hleft, by omega⟩
  · intro q hq
    have hmono := hcount q
    rcases List.mem_cons.1 hq with rfl | hq
    · omega
    · have := h.settled q hq
      omega

theorem Tracks.find?_isReady (h : Tracks services placed p) :
    ((names services).filter (· ∉ placed)).find? (isReady services placed) =
    p.ready.keys.head? := by
  rw [← List.head?_filter]
  congr 1
  refine eq_of_pairwise_lt ((pairwise_names.filter _).filter _) h.sorted_ready fun q => ?_
  rw [h.mem_ready, List.mem_filter, List.mem_filter, isReady_iff_openUses,
    decide_eq_true_eq, and_assoc]

theorem erase_filter_names (name : String) : ((names services).filter (· ∉ placed)).erase name =
    (names services).filter (· ∉ name :: placed) := by
  rw [List.Nodup.erase_eq_filter (nodup_names.filter _), List.filter_filter]
  refine List.filter_congr fun q _ => ?_
  simp [not_or, bne, Bool.beq_eq_decide_eq]

variable {dependents : Dict (List String)}

theorem drain_of_ready_nil (hready : p.ready = []) (steps : Nat) :
    ServiceOrder.drain dependents steps p = ([], p) := by
  cases steps with
  | zero => rfl
  | succ steps => rw [ServiceOrder.drain, hready]

theorem drain_of_ready_cons (hready : p.ready = (name, ()) :: ready) (steps : Nat) :
    ServiceOrder.drain dependents (steps + 1) p =
      (name :: (ServiceOrder.drain dependents steps
          (((dependents.get? name).getD []).foldl settle { p with ready })).1,
        (ServiceOrder.drain dependents steps
          (((dependents.get? name).getD []).foldl settle { p with ready })).2) := by
  rw [ServiceOrder.drain, hready]

/-- The loop places the services that a look at all uses would, in the same order, and keeps the
counts. -/
theorem Tracks.drain (h : Tracks services placed p)
    (hdependents : ∀ name, (dependents.get? name).getD [] = users services name) (steps : Nat) :
    (ServiceOrder.drain dependents steps p).1 =
        place services steps placed ((names services).filter (· ∉ placed)) ∧
      Tracks services ((ServiceOrder.drain dependents steps p).1.reverse ++ placed)
        (ServiceOrder.drain dependents steps p).2 := by
  induction steps generalizing placed p with
  | zero => exact ⟨rfl, h⟩
  | succ steps ih =>
    have hfind := h.find?_isReady
    rw [place]
    cases hready : p.ready with
    | nil =>
      rw [hready] at hfind
      rw [hfind, drain_of_ready_nil hready]
      exact ⟨rfl, h⟩
    | cons entry ready =>
      obtain ⟨name, ⟨⟩⟩ := entry
      obtain ⟨horder, hlast⟩ := ih (h.step hready)
      have hfirst : p.ready.keys.head? = some name := by rw [hready]; rfl
      rw [hfind, hfirst, drain_of_ready_cons hready, hdependents]
      dsimp only
      rw [erase_filter_names, ← horder]
      refine ⟨rfl, ?_⟩
      rwa [List.reverse_cons, List.append_assoc, List.singleton_append]

/-- A step for each service is enough: the loop ends with nothing that is ready. -/
theorem Tracks.ready_drain (h : Tracks services placed p)
    (hdependents : ∀ name, (dependents.get? name).getD [] = users services name) {steps : Nat}
    (hsteps : ((names services).filter (· ∉ placed)).length ≤ steps) :
    (ServiceOrder.drain dependents steps p).2.ready = [] := by
  induction steps generalizing placed p with
  | zero =>
    have hnone : (names services).filter (· ∉ placed) = [] :=
      List.eq_nil_of_length_eq_zero (by omega)
    have hfind := h.find?_isReady
    rw [hnone, List.find?_nil, eq_comm, List.head?_eq_none_iff, Dict.keys, List.map_eq_nil_iff]
      at hfind
    exact hfind
  | succ steps ih =>
    cases hready : p.ready with
    | nil =>
      rw [drain_of_ready_nil hready]
      exact hready
    | cons entry ready =>
      obtain ⟨name, ⟨⟩⟩ := entry
      obtain ⟨hname, hplaced, -⟩ := h.of_ready hready
      have hmem : name ∈ (names services).filter (· ∉ placed) := by simp [hname, hplaced]
      have hlength := List.length_erase_of_mem hmem
      have hpos := List.length_pos_of_mem hmem
      rw [erase_filter_names] at hlength
      rw [drain_of_ready_cons hready, hdependents]
      exact ih (h.step hready) (by omega)

end

end Pending

/-! The whole run. -/

/-- At every step of the loop, each count that is taken down is positive, and a service that becomes
ready was neither ready nor placed before. -/
theorem settle_fresh_drain (services : List Dependent) (steps : Nat) {p : Pending}
    {order : List String}
    (hdrain : drain (Graph.ofServices services).dependents steps
      (.ofCounts (Graph.ofServices services).counts) = (order, p))
    {name : String} {ready : Dict Unit} (hready : p.ready = (name, ()) :: ready)
    {done rest : List String} {next : String}
    (hsplit : ((Graph.ofServices services).dependents.get? name).getD [] = done ++ next :: rest) :
    (∃ count, (done.foldl Pending.settle { p with ready }).counts.get? next = some (count + 1)) ∧
      next ∉ (done.foldl Pending.settle { p with ready }).ready.keys ∧ next ≠ name ∧
          next ∉ order := by
  have htracks := ((Pending.tracks_ofCounts services).drain get?_dependents_ofServices steps).2
  rw [hdrain, List.append_nil] at htracks
  rw [get?_dependents_ofServices] at hsplit
  obtain ⟨hcount, hnot, hfresh⟩ := htracks.settle_fresh hready hsplit
  rw [List.mem_cons, List.mem_reverse, not_or] at hfresh
  exact ⟨hcount, hnot, hfresh⟩

theorem length_counts_ofServices (services : List Dependent) :
    (Graph.ofServices services).counts.length = (names services).length := by
  rw [← keys_counts_ofServices, Dict.keys, List.length_map]

theorem filter_names_nil (services : List Dependent) :
    (names services).filter (· ∉ ([] : List String)) = names services :=
  List.filter_eq_self.2 (by simp)

theorem resolved_eq_place (services : List Dependent) :
    resolved services = place services (names services).length [] (names services) := by
  have horder := ((Pending.tracks_ofCounts services).drain get?_dependents_ofServices
    (Graph.ofServices services).counts.length).1
  rw [filter_names_nil] at horder
  rw [← length_counts_ofServices]
  exact horder

theorem tracks_drained (services : List Dependent) :
    (drained services).2.Tracks services (resolved services).reverse := by
  have hlast := ((Pending.tracks_ofCounts services).drain get?_dependents_ofServices
    (Graph.ofServices services).counts.length).2
  rwa [List.append_nil] at hlast

theorem ready_drained (services : List Dependent) : (drained services).2.ready = [] :=
  (Pending.tracks_ofCounts services).ready_drain get?_dependents_ofServices
    (by rw [filter_names_nil, length_counts_ofServices])

theorem stuck_eq_filter (services : List Dependent) :
    stuck services = (names services).filter (· ∉ resolved services) := by
  have hlast := tracks_drained services
  have hready := hlast.mem_ready
  rw [ready_drained] at hready
  refine eq_of_pairwise_lt (hlast.sorted_counts.sublist List.filter_sublist)
    (pairwise_names.filter _)
    fun name => ?_
  have hkeys : name ∈ stuck services ↔ ∃ count, (name, count) ∈ (drained services).2.counts ∧
      0 < count := by
    simp [stuck, Dict.keys]
  rw [hkeys, List.mem_filter, decide_eq_true_eq]
  simp only [hlast.sorted_counts.mem_iff, hlast.counts]
  constructor
  · rintro ⟨count, hcount, hopen⟩
    split_ifs at hcount with hname
    refine ⟨hname, fun hplaced => ?_⟩
    have hzero := hlast.settled name (List.mem_reverse.2 hplaced)
    have := Option.some.inj hcount
    omega
  · rintro ⟨hname, hleft⟩
    refine ⟨_, if_pos hname, Nat.pos_of_ne_zero fun hzero => ?_⟩
    exact absurd ((hready name).2 ⟨hname, mt List.mem_reverse.1 hleft, hzero⟩) List.not_mem_nil

end GoScaffold.ServiceOrder
