import GoScaffold.Model.Projection
import Mathlib.Data.List.Forall2
import Mathlib.Data.List.Nodup
import Mathlib.Data.List.Perm.Basic

/-! The order in which the parts of a schema are declared. Every list of a model is sorted by a key
that no two of its values share, and what is looked up is looked up in sorted lists, so two schemas
that differ in nothing but this order have the same model. -/

namespace GoScaffold

structure Service.Reordered (s t : Service) : Prop where
  methods : s.methods.Perm t.methods
  rest : t = { s with methods := t.methods }

structure Repository.Reordered (r q : Repository) : Prop where
  finders : r.finders.Perm q.finders
  rest : q = { r with finders := q.finders }

/-- The same schema, with its declarations in any order, also within services and repositories. -/
structure Schema.Reordered (a b : Schema) : Prop where
  entities : a.entities.Perm b.entities
  services : Relation.Comp List.Perm (List.Forall₂ Service.Reordered) a.services b.services
  events : a.events.Perm b.events
  errors : a.errors.Perm b.errors
  endpoints : a.endpoints.Perm b.endpoints
  repos : Relation.Comp List.Perm (List.Forall₂ Repository.Reordered) a.repos b.repos
  schedules : a.schedules.Perm b.schedules
  version : a.version = b.version
  project : a.project = b.project
  auth : a.auth = b.auth
  metadata : a.metadata = b.metadata

def Endpoint.route (e : Endpoint) : String × String × String × String :=
  (e.service, e.path, Text.upper e.method, e.rpc)

/-- No two declarations of a kind have one name, and no two endpoints one route. -/
structure Schema.DistinctNames (s : Schema) : Prop where
  entities : (s.entities.map Entity.name).Nodup
  services : (s.services.map Service.name).Nodup
  methods : ∀ service ∈ s.services, (service.methods.map Method.name).Nodup
  events : (s.events.map Event.name).Nodup
  errors : (s.errors.map BusinessError.name).Nodup
  endpoints : (s.endpoints.map Endpoint.route).Nodup
  repos : (s.repos.map Repository.name).Nodup
  finders : ∀ repo ∈ s.repos, (repo.finders.map Finder.name).Nodup
  schedules : (s.schedules.map Schedule.name).Nodup

namespace Model

variable {α β : Type}

/-! Sorting. -/

theorem mergeSort_eq_of_perm {le : α → α → Bool} (htrans : ∀ a b c, le a b → le b c → le a c)
    (htotal : ∀ a b, (le a b || le b a) = true) {xs ys : List α} (hperm : xs.Perm ys)
    (hantisymm : ∀ a ∈ xs, ∀ b ∈ xs, le a b → le b a → a = b) :
    xs.mergeSort le = ys.mergeSort le := by
  have hsorted : (xs.mergeSort le).Perm (ys.mergeSort le) :=
    (List.mergeSort_perm xs le).trans (hperm.trans (List.mergeSort_perm ys le).symm)
  apply List.Perm.eq_of_pairwise _ (List.pairwise_mergeSort htrans htotal xs)
    (List.pairwise_mergeSort htrans htotal ys) hsorted
  intro a b ha hb hab hba
  have hxs : b ∈ xs := hperm.mem_iff.2 (List.mem_mergeSort.1 hb)
  exact hantisymm a (List.mem_mergeSort.1 ha) b hxs hab hba

theorem decide_key_le_trans (key : α → String) (a b c : α) (hab : decide (key a ≤ key b))
    (hbc : decide (key b ≤ key c)) : decide (key a ≤ key c) := by
  simp only [decide_eq_true_eq] at hab hbc ⊢
  exact String.le_trans hab hbc

theorem decide_key_le_total (key : α → String) (a b : α) :
    (decide (key a ≤ key b) || decide (key b ≤ key a)) = true := by
  simpa using String.le_total (key a) (key b)

theorem sortOn_perm (key : α → String) (values : List α) : (sortOn key values).Perm values :=
  List.mergeSort_perm values _

theorem pairwise_sortOn (key : α → String) (values : List α) :
    (sortOn key values).Pairwise fun a b => key a ≤ key b := by
  have hsorted := List.pairwise_mergeSort (decide_key_le_trans key) (decide_key_le_total key) values
  exact hsorted.imp of_decide_eq_true

theorem sortOn_eq_self {key : α → String} {values : List α}
    (hsorted : values.Pairwise fun a b => key a ≤ key b) : sortOn key values = values :=
  List.mergeSort_of_pairwise (hsorted.imp decide_eq_true)

theorem sortOn_eq_of_perm {key : α → String} {xs ys : List α} (hperm : xs.Perm ys)
    (hdistinct : (xs.map key).Nodup) : sortOn key xs = sortOn key ys := by
  unfold sortOn
  apply mergeSort_eq_of_perm (decide_key_le_trans key) (decide_key_le_total key) hperm
  intro a ha b hb hab hba
  simp only [decide_eq_true_eq] at hab hba
  exact List.inj_on_of_nodup_map hdistinct ha hb (String.le_antisymm hab hba)

theorem keyLe_trans {as bs cs : List String} (hab : keyLe as bs) (hbc : keyLe bs cs) :
    keyLe as cs := by
  fun_induction keyLe as bs generalizing cs with
  | case1 => simp [keyLe]
  | case2 => cases hab
  | case3 as a bs ih =>
    cases cs with
    | nil => cases hbc
    | cons c cs =>
      by_cases hac : a = c
      · simp only [keyLe, hac, if_pos] at hbc ⊢
        exact ih hab hbc
      · simp only [keyLe, hac, if_false] at hbc ⊢
        exact hbc
  | case4 a as b bs hne =>
    cases cs with
    | nil => cases hbc
    | cons c cs =>
      simp only [decide_eq_true_eq] at hab
      have hle : b ≤ c := by
        by_cases hb : b = c
        · exact hb ▸ String.le_refl b
        · simpa [keyLe, hb] using hbc
      -- `a` differs from `b`, so it stays below `c` even where `b` is `c`.
      have hac : a ≠ c := by
        rintro rfl
        exact hne (String.le_antisymm hab hle)
      simpa [keyLe, hac] using String.le_trans hab hle

theorem keyLe_total (as bs : List String) : (keyLe as bs || keyLe bs as) = true := by
  fun_induction keyLe as bs with
  | case1 => rfl
  | case2 => rfl
  | case3 as a bs ih => simpa [keyLe] using ih
  | case4 a as b bs hne =>
    have hne' : ¬ b = a := fun h => hne h.symm
    simpa [keyLe, hne'] using String.le_total a b

theorem keyLe_antisymm {as bs : List String} (hab : keyLe as bs) (hba : keyLe bs as) : as = bs := by
  fun_induction keyLe as bs with
  | case1 bs =>
    cases bs with
    | nil => rfl
    | cons b bs => cases hba
  | case2 => cases hab
  | case3 as a bs ih =>
    simp only [keyLe, if_pos] at hba
    rw [ih hab hba]
  | case4 a as b bs hne =>
    have hne' : ¬ b = a := fun h => hne h.symm
    simp only [keyLe, hne', if_false, decide_eq_true_eq] at hab hba
    exact absurd (String.le_antisymm hab hba) hne

/-! What is made of lists that are the same up to their order. -/

theorem map_perm_of_comp {same : α → α → Prop} {f : α → β} {xs ys : List α}
    (h : Relation.Comp List.Perm (List.Forall₂ same) xs ys)
    (hf : ∀ x ∈ xs, ∀ y, same x y → f x = f y) : (xs.map f).Perm (ys.map f) := by
  obtain ⟨zs, hperm, hsame⟩ := h
  have hzs : ∀ z ∈ zs, ∀ y, same z y → f z = f y := fun z hz => hf z (hperm.mem_iff.2 hz)
  have hmap : zs.map f = ys.map f := by
    clear hperm hf
    induction hsame with
    | nil => rfl
    | cons hab hrest ih =>
      rw [List.forall_mem_cons] at hzs
      rw [List.map_cons, List.map_cons, hzs.1 _ hab, ih hzs.2]
  exact hmap ▸ hperm.map f

theorem ofService_eq_of_reordered {s t : GoScaffold.Service} (h : s.Reordered t)
    (hdistinct : (s.methods.map GoScaffold.Method.name).Nodup) (dtoNames : List String) :
    ofService dtoNames s = ofService dtoNames t := by
  have hmethods : sortOn Method.name (s.methods.map ofMethod) =
      sortOn Method.name (t.methods.map ofMethod) := by
    apply sortOn_eq_of_perm (h.methods.map ofMethod)
    rw [List.map_map]
    exact hdistinct
  rw [h.rest]
  simp only [ofService, hmethods]

theorem ofRepository_eq_of_reordered {r q : GoScaffold.Repository} (h : r.Reordered q)
    (hdistinct : (r.finders.map GoScaffold.Finder.name).Nodup) (entities : List Entity) :
    ofRepository entities r = ofRepository entities q := by
  have hfinders : sortOn GoScaffold.Finder.name r.finders =
      sortOn GoScaffold.Finder.name q.finders :=
    sortOn_eq_of_perm h.finders hdistinct
  rw [h.rest]
  simp only [ofRepository, hfinders]

theorem route_eq_of_sortKey {services : List Service} {e f : GoScaffold.Endpoint}
    (h : (ofEndpoint services e).sortKey = (ofEndpoint services f).sortKey) :
    e.route = f.route := by
  simp only [Endpoint.sortKey, Endpoint.service, Endpoint.path, Endpoint.method, Endpoint.rpc,
    ofEndpoint, List.cons.injEq, and_true] at h
  obtain ⟨hservice, hpath, hmethod, hrpc⟩ := h
  simp only [GoScaffold.Endpoint.route, hservice, hpath, hmethod, hrpc]

theorem sort_endpoints_eq_of_perm (services : List Service) {es fs : List GoScaffold.Endpoint}
    (hperm : es.Perm fs) (hdistinct : (es.map GoScaffold.Endpoint.route).Nodup) :
    ((es.map (ofEndpoint services)).mergeSort fun a b => keyLe a.sortKey b.sortKey) =
      (fs.map (ofEndpoint services)).mergeSort fun a b => keyLe a.sortKey b.sortKey := by
  apply mergeSort_eq_of_perm _ _ (hperm.map _)
  · intro a ha b hb hab hba
    obtain ⟨e, he, rfl⟩ := List.mem_map.1 ha
    obtain ⟨f, hf, rfl⟩ := List.mem_map.1 hb
    have hroute : e.route = f.route := route_eq_of_sortKey (keyLe_antisymm hab hba)
    rw [List.inj_on_of_nodup_map hdistinct he hf hroute]
  · exact fun a b c => keyLe_trans
  · exact fun a b => keyLe_total _ _

/-- Two schemas that differ in the order of their declarations only have the same model, and so the
same order of services and the same websockets. -/
theorem ofSchema_eq_of_reordered {a b : Schema} (hdistinct : a.DistinctNames) (h : a.Reordered b) :
    ofSchema a = ofSchema b ∧ (ofSchema a).order = (ofSchema b).order ∧
      (ofSchema a).wsServices = (ofSchema b).wsServices ∧
      (ofSchema a).wsEventMap = (ofSchema b).wsEventMap := by
  have hentities : sortOn Entity.name (a.entities.map ofEntity) =
      sortOn Entity.name (b.entities.map ofEntity) := by
    apply sortOn_eq_of_perm (h.entities.map ofEntity)
    rw [List.map_map]
    exact hdistinct.entities
  have hservices (dtos : List String) : sortOn Service.name (a.services.map (ofService dtos)) =
      sortOn Service.name (b.services.map (ofService dtos)) := by
    apply sortOn_eq_of_perm
    · apply map_perm_of_comp h.services
      intro s hs t hst
      exact ofService_eq_of_reordered hst (hdistinct.methods s hs) dtos
    · rw [List.map_map]
      exact hdistinct.services
  have hrepos (entities : List Entity) :
      sortOn Repository.name (a.repos.map (ofRepository entities)) =
        sortOn Repository.name (b.repos.map (ofRepository entities)) := by
    apply sortOn_eq_of_perm
    · apply map_perm_of_comp h.repos
      intro r hr q hrq
      exact ofRepository_eq_of_reordered hrq (hdistinct.finders r hr) entities
    · rw [List.map_map]
      exact hdistinct.repos
  have hevents : sortOn Event.name (a.events.map ofEvent) =
      sortOn Event.name (b.events.map ofEvent) := by
    apply sortOn_eq_of_perm (h.events.map ofEvent)
    rw [List.map_map]
    exact hdistinct.events
  have herrors : sortOn BusinessError.name a.errors = sortOn BusinessError.name b.errors :=
    sortOn_eq_of_perm h.errors hdistinct.errors
  have hschedules : sortOn Schedule.name a.schedules = sortOn Schedule.name b.schedules :=
    sortOn_eq_of_perm h.schedules hdistinct.schedules
  have hmodel : ofSchema a = ofSchema b := by
    simp only [ofSchema, hentities, hservices, hrepos, hevents, herrors, hschedules,
      h.project, h.auth, sort_endpoints_eq_of_perm _ h.endpoints hdistinct.endpoints]
  rw [hmodel]
  exact ⟨rfl, rfl, rfl, rfl⟩

end Model

def Schema.reversed (s : Schema) : Schema :=
  { s with
    entities := s.entities.reverse
    services :=
      s.services.reverse.map fun service => { service with methods := service.methods.reverse }
    events := s.events.reverse
    errors := s.errors.reverse
    endpoints := s.endpoints.reverse
    repos := s.repos.reverse.map fun repo => { repo with finders := repo.finders.reverse }
    schedules := s.schedules.reverse }

theorem Schema.reordered_reversed (s : Schema) : s.Reordered s.reversed where
  entities := (List.reverse_perm _).symm
  services := by
    refine ⟨s.services.reverse, (List.reverse_perm _).symm, ?_⟩
    rw [Schema.reversed, List.forall₂_map_right_iff, List.forall₂_same]
    exact fun service _ => ⟨(List.reverse_perm _).symm, rfl⟩
  events := (List.reverse_perm _).symm
  errors := (List.reverse_perm _).symm
  endpoints := (List.reverse_perm _).symm
  repos := by
    refine ⟨s.repos.reverse, (List.reverse_perm _).symm, ?_⟩
    rw [Schema.reversed, List.forall₂_map_right_iff, List.forall₂_same]
    exact fun repo _ => ⟨(List.reverse_perm _).symm, rfl⟩
  schedules := (List.reverse_perm _).symm
  version := rfl
  project := rfl
  auth := rfl
  metadata := rfl

namespace Model

def bazaar : Schema :=
  { entities := [{ name := "Order" }, { name := "Bid", metadata := [("dto", .bool true)] }]
    services := [
      { name := "Orders"
        uses := ["Bids"]
        methods :=
          [{ name := "Place", sources := [{ entity := "Order" }] }, { name := "Cancel" }] },
      { name := "Bids" }]
    events := [{ name := "Placed" }, { name := "Cancelled" }]
    errors := [{ name := "NotFound" }, { name := "Closed" }]
    endpoints := [
      { method := "ws", path := "/live", service := "Bids", messages := ["Placed"] },
      { method := "get", path := "/live", service := "Bids" }]
    repos := [
      { name := "OrderRepository", entity := "Order",
        finders := [{ name := "Open" }, { name := "Count" }] },
      { name := "BidRepository", entity := "Bid" }]
    schedules := [{ name := "nightly" }, { name := "hourly" }] }

theorem ofSchema_bazaar_reversed : bazaar.DistinctNames ∧ bazaar.Reordered bazaar.reversed ∧
    bazaar.entities.map GoScaffold.Entity.name ≠
    bazaar.reversed.entities.map GoScaffold.Entity.name ∧
    ofSchema bazaar = ofSchema bazaar.reversed ∧
    (ofSchema bazaar).order = (ofSchema bazaar.reversed).order ∧
    (ofSchema bazaar).wsServices = (ofSchema bazaar.reversed).wsServices ∧
    (ofSchema bazaar).wsEventMap = (ofSchema bazaar.reversed).wsEventMap := by
  have hdistinct : bazaar.DistinctNames := by
    constructor <;> decide +kernel
  exact ⟨hdistinct, bazaar.reordered_reversed, by decide,
    ofSchema_eq_of_reordered hdistinct bazaar.reordered_reversed⟩

end Model

end GoScaffold
