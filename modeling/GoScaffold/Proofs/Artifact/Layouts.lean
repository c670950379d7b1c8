import GoScaffold.Proofs.Artifact.Wiring
import GoScaffold.Proofs.ServiceOrder

/-! One command for all services against one command for each. No two commands are for services of
one name, so what belongs to a service by its name is served by one command only. Whatever a command
needs it needs for one of its services, so the command for all needs what the others need
together. -/

namespace GoScaffold.Artifact

variable {α : Type} {h : Header} {model : Model} {services : List Model.Service}

/-- Every value of the whole is in one of the parts and in no other, as often as in the whole, and
the parts hold nothing else. -/
structure SplitInto (whole : List α) (parts : List (List α)) : Prop where
  perm : parts.flatten.Perm whole
  unique : ∀ a ∈ whole, ∃! i : Nat, ∃ part, parts[i]? = some part ∧ a ∈ part

/-! The services of a model, each name once. -/

theorem service?_eq_some {name : String} {s : Model.Service} (hs : model.service? name = some s) :
    s.name = name := by
  simpa using List.find?_some hs

theorem exists_service?_of_mem_order {name : String} (hname : name ∈ model.order) :
    ∃ s, model.service? name = some s := by
  obtain ⟨d, hd, rfl⟩ := mem_serviceOrder.1 hname
  obtain ⟨s, hs, rfl⟩ := List.mem_map.1 hd
  rw [← Option.isSome_iff_exists, Model.service?, List.find?_isSome]
  exact ⟨s, hs, beq_self_eq_true s.name⟩

theorem map_name_orderedServices : (orderedServices model).map Model.Service.name =
    model.order := by
  have hfound : ∀ name ∈ model.order, (model.service? name).map Model.Service.name = some name := by
    intro name hname
    obtain ⟨s, hs⟩ := exists_service?_of_mem_order hname
    rw [hs, Option.map_some, service?_eq_some hs]
  rw [orderedServices, List.map_filterMap, List.filterMap_congr hfound, List.filterMap_some]

theorem nodup_name_orderedServices : ((orderedServices model).map Model.Service.name).Nodup := by
  rw [map_name_orderedServices]
  exact nodup_serviceOrder _

theorem exists_orderedService {s : Model.Service} (hs : s ∈ model.services) :
    ∃ t ∈ orderedServices model, t.name = s.name := by
  have hname : s.name ∈ model.order :=
    mem_serviceOrder.2 ⟨s.dependent, List.mem_map_of_mem hs, rfl⟩
  rw [← map_name_orderedServices] at hname
  exact List.mem_map.1 hname

theorem existsUnique_place (hnames : (services.map Model.Service.name).Nodup) {name : String}
    (h : ∃ s ∈ services, s.name = name) : ∃! i : Nat, ∃ s, services[i]? = some s ∧
    s.name = name := by
  obtain ⟨s, hs, rfl⟩ := h
  obtain ⟨i, hi⟩ := List.mem_iff_getElem?.1 hs
  refine ⟨i, ⟨s, hi, rfl⟩, ?_⟩
  rintro j ⟨t, ht, hname⟩
  have hj : j < (services.map Model.Service.name).length := by
    simpa using (List.getElem?_eq_some_iff.1 ht).1
  apply (List.getElem?_inj hj hnames).1
  rw [List.getElem?_map, List.getElem?_map, ht, hi, Option.map_some, Option.map_some, hname]

/-! What belongs to services by a name. -/

def claimed (services : List Model.Service) (key : α → String) (values : List α) : List α :=
  values.filter fun a => services.any fun s => s.name == key a

theorem mem_claimed {key : α → String} {values : List α} {a : α} :
    a ∈ claimed services key values ↔ a ∈ values ∧ ∃ s ∈ services, s.name = key a := by
  simp [claimed]

theorem claimed_cons_perm {s : Model.Service} (hs : ∀ t ∈ services, t.name ≠ s.name)
    (key : α → String) (values : List α) :
    (claimed [s] key values ++ claimed services key values).Perm
      (claimed (s :: services) key values) := by
  let mine (a : α) : Bool := s.name == key a
  have hmine : (claimed (s :: services) key values).filter mine = claimed [s] key values := by
    rw [claimed, List.filter_filter, claimed]
    congr 1
    funext a
    by_cases ha : s.name = key a <;> simp [mine, ha]
  have hothers : (claimed (s :: services) key values).filter (!mine ·) =
      claimed services key values := by
    rw [claimed, List.filter_filter, claimed]
    congr 1
    funext a
    cases ha : s.name == key a with
    | true =>
      have hnone : (services.any fun t => t.name == key a) = false := by
        rw [List.any_eq_false]
        intro t ht
        simpa [← beq_iff_eq.1 ha] using hs t ht
      simp [mine, ha, hnone]
    | false => simp [mine, ha]
  rw [← hmine, ← hothers]
  exact List.filter_append_perm mine _

theorem splitInto_claimed (hnames : (services.map Model.Service.name).Nodup) (key : α → String)
    (values : List α) :
    SplitInto (claimed services key values) (services.map fun s => claimed [s] key values) := by
  constructor
  · induction services with
    | nil => simp [claimed]
    | cons s rest ih =>
      rw [List.map_cons, List.nodup_cons] at hnames
      have hs : ∀ t ∈ rest, t.name ≠ s.name :=
        fun t ht heq => hnames.1 (heq ▸ List.mem_map_of_mem ht)
      rw [List.map_cons, List.flatten_cons]
      exact ((ih hnames.2).append_left _).trans (claimed_cons_perm hs key values)
  · intro a ha
    obtain ⟨hvalue, hserved⟩ := mem_claimed.1 ha
    have hplace (i : Nat) : (∃ part, (services.map fun s => claimed [s] key values)[i]? =
        some part ∧ a ∈ part) ↔ ∃ s, services[i]? = some s ∧ s.name = key a := by
      simp [List.getElem?_map, mem_claimed, hvalue]
    simpa only [hplace] using existsUnique_place hnames hserved

/-! What commands need. -/

theorem mem_repoWirings_iff_single {w : RepoWiring} : w ∈ repoWirings model services ↔
    ∃ s ∈ services, w ∈ repoWirings model [s] := by
  have hmentions : ∀ name, Mentions services name ↔ ∃ s ∈ services, Mentions [s] name := by
    intro name
    simp [Mentions]
  simp only [mem_repoWirings, mem_readEntities, hmentions]
  constructor
  · rintro ⟨⟨⟨name, ⟨s, hs, hname⟩, hexported⟩, hstored⟩, hrest⟩
    exact ⟨s, hs, ⟨⟨name, hname, hexported⟩, hstored⟩, hrest⟩
  · rintro ⟨s, hs, ⟨⟨name, hname, hexported⟩, hstored⟩, hrest⟩
    exact ⟨⟨⟨name, ⟨s, hs, hname⟩, hexported⟩, hstored⟩, hrest⟩

theorem any_repoWirings (p : RepoWiring → Bool) : (repoWirings model services).any p =
    services.any fun s => (repoWirings model [s]).any p := by
  rw [Bool.eq_iff_iff]
  simp only [List.any_eq_true]
  constructor
  · rintro ⟨w, hw, hp⟩
    obtain ⟨s, hs, hw⟩ := mem_repoWirings_iff_single.1 hw
    exact ⟨s, hs, w, hw, hp⟩
  · rintro ⟨s, hs, w, hw, hp⟩
    exact ⟨w, mem_repoWirings_iff_single.2 ⟨s, hs, hw⟩, hp⟩

def required (pages : List ServerPage) : Requirements :=
  { sql := pages.any fun p => p.requires.sql
    mongo := pages.any fun p => p.requires.mongo
    redis := pages.any fun p => p.requires.redis
    nats := pages.any fun p => p.requires.nats
    s3 := pages.any fun p => p.requires.s3 }

def servicePages (h : Header) (model : Model) : List ServerPage :=
  (servers h .microservices model).map Prod.snd

theorem servicePages_eq : servicePages h model =
    (orderedServices model).map fun s => serverPage h model (some s.name) [s] := by
  simp only [servicePages, servers, List.map_map]
  rfl

theorem any_or {β : Type} (p q : β → Bool) (xs : List β) :
    (xs.any p || xs.any q) = xs.any fun x => p x || q x := by
  rw [Bool.eq_iff_iff]
  simp only [Bool.or_eq_true, List.any_eq_true]
  grind

theorem requirements_eq_required : requirements (repoWirings model (orderedServices model))
    (orderedServices model) = required (servicePages h model) := by
  rw [requirements, any_repoWirings, any_repoWirings, any_or, any_or, required, servicePages_eq]
  simp [serverPage, requirements, Function.comp_def]

theorem authOwner_service_iff {s : Model.Service} :
    (serverPage h model (some s.name) services).authOwner = true ↔
      ∃ auth, model.auth = some auth ∧ s.name = auth.service := by
  cases hauth : model.auth with
  | none => simp [serverPage, hauth]
  | some auth =>
    have hserves : (serverPage h model (some s.name) services).authOwner =
        (auth.service == s.name) := by
      simp only [serverPage, hauth]
    rw [hserves, beq_iff_eq, eq_comm]
    simp

/-- One command for all services serves what the commands of single services serve, of which each
serves its own part, and needs what any of them needs. One of them serves logins, if logins belong
to a service. -/
theorem servers_split (h : Header) (model : Model) :
    ∃ all, servers h .monolith model = [("cmd/server/main.go", all)] ∧
      SplitInto all.endpoints ((servicePages h model).map ServerPage.endpoints) ∧
      SplitInto all.schedules ((servicePages h model).map ServerPage.schedules) ∧
      SplitInto all.wsServices ((servicePages h model).map ServerPage.wsServices) ∧
      SplitInto all.wsEvents ((servicePages h model).map ServerPage.wsEvents) ∧
      (∀ w, w ∈ all.repos ↔ ∃ page ∈ servicePages h model, w ∈ page.repos) ∧
      all.requires = required (servicePages h model) ∧
      all.publisher = (servicePages h model).any ServerPage.publisher ∧
      all.hasCache = (servicePages h model).any ServerPage.hasCache ∧
      ∀ auth, model.auth = some auth → (∃ s ∈ model.services, s.name = auth.service) →
        ∃! i : Nat, ∃ page, (servicePages h model)[i]? = some page ∧ page.authOwner = true := by
  have hsplit {α : Type} (key : α → String) (values : List α) :
      SplitInto (claimed (orderedServices model) key values)
        ((orderedServices model).map fun s => claimed [s] key values) :=
    splitInto_claimed nodup_name_orderedServices key values
  refine ⟨serverPage h model none (orderedServices model), rfl, ?_, ?_, ?_, ?_, ?_, ?_, ?_, ?_, ?_⟩
  · rw [servicePages_eq, List.map_map]
    exact hsplit Model.Endpoint.service model.endpoints
  · rw [servicePages_eq, List.map_map]
    exact hsplit Schedule.service model.schedules
  · rw [servicePages_eq, List.map_map]
    exact hsplit id model.wsServices
  · rw [servicePages_eq, List.map_map]
    exact hsplit Prod.fst model.wsEventMap
  · intro w
    simp only [servicePages_eq, List.mem_map, exists_exists_and_eq_and]
    exact mem_repoWirings_iff_single
  · exact requirements_eq_required
  · simp [servicePages_eq, serverPage, Function.comp_def]
  · simp [servicePages_eq, serverPage, Function.comp_def]
  · rintro auth hauth ⟨s, hs, hname⟩
    obtain ⟨t, ht, hsame⟩ := exists_orderedService hs
    have hplace (i : Nat) : (∃ page, (servicePages h model)[i]? = some page ∧
        page.authOwner = true) ↔ ∃ s, (orderedServices model)[i]? = some s ∧
        s.name = auth.service := by
      simp [servicePages_eq, List.getElem?_map, authOwner_service_iff, hauth]
    simpa only [hplace] using
      existsUnique_place nodup_name_orderedServices ⟨t, ht, hsame.trans hname⟩

def storefront : Model :=
  { services := [{ name := "Orders" }, { name := "Users" }, { name := "Orders", uses := ["Users"] }]
    endpoints := [
      { declared := { method := "GET", path := "/orders", service := "Orders" } },
      { declared := { method := "GET", path := "/users", service := "Users" } }]
    auth := some { service := "Users" } }

theorem servers_split_storefront : ∃ all,
    servers ⟨"shop", {}⟩ .monolith storefront = [("cmd/server/main.go", all)] ∧
      SplitInto all.endpoints ((servicePages ⟨"shop", {}⟩ storefront).map ServerPage.endpoints) ∧
      ∃! i : Nat, ∃ page, (servicePages ⟨"shop", {}⟩ storefront)[i]? = some page ∧
        page.authOwner = true := by
  obtain ⟨all, hall, hendpoints, -, -, -, -, -, -, -, hauth⟩ :=
    servers_split ⟨"shop", {}⟩ storefront
  have hdeclared : ∃ s ∈ storefront.services, s.name = "Users" :=
    ⟨{ name := "Users" }, List.mem_cons_of_mem _ List.mem_cons_self, rfl⟩
  exact ⟨all, hall, hendpoints, hauth _ rfl hdeclared⟩

end GoScaffold.Artifact
