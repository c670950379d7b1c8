import GoScaffold.Proofs.Artifact.Layouts
import GoScaffold.Proofs.Artifact.ServerTexts
import GoScaffold.Proofs.Json.ReadBack
import GoScaffold.Proofs.Name.Boundaries

/-! Which room the events on sockets are routed by. A command looks for the room among the fields of
an event by the names that they are declared with, while the room is the exported name of a field.
The two find the same field exactly where the declared name differs from the exported one in case
alone. -/

namespace GoScaffold

namespace Model

variable {model : Model} {endpoints : List Endpoint} {events : List Event}
  {service event room : String}

def EventHas (events : List Event) (event : String) (like : Field → Prop) : Prop :=
  ∃ e ∈ events, e.name = event ∧ ∃ f ∈ e.fields, like f

theorem nodup_sortedSet (texts : List String) : (sortedSet texts).Nodup :=
  (List.mergeSort_perm _ _).nodup_iff.2 (nodup_eraseDups _)

theorem mem_wsEvents : event ∈ model.wsEvents service ↔
    ∃ e ∈ model.endpoints, e.delivers service event = true := by
  simp [wsEvents, Endpoint.delivers, and_assoc]

theorem Endpoint.isWs_of_delivers {e : Endpoint} (h : e.delivers service event = true) :
    e.isWs = true ∧ e.service = service := by
  rw [delivers, Bool.and_eq_true, Bool.and_eq_true, beq_iff_eq] at h
  exact h.1

theorem mem_wsServices_of_mem (h : event ∈ model.wsEvents service) :
    service ∈ model.wsServices := by
  obtain ⟨e, he, hdelivers⟩ := mem_wsEvents.1 h
  obtain ⟨hws, hservice⟩ := Endpoint.isWs_of_delivers hdelivers
  rw [wsServices, mem_sortedSet, List.mem_map]
  exact ⟨e, List.mem_filter.2 ⟨he, hws⟩, hservice⟩

theorem roomFor_filter (keep : String → Bool) (hkeep : keep service = true) :
    roomFor (endpoints.filter fun e => keep e.service) service event =
    roomFor endpoints service event := by
  have hkept (e : Endpoint) : keep e.service = true ∧ e.delivers service event = true ↔
      e.delivers service event = true := by
    refine and_iff_right_of_imp fun hdelivers => ?_
    rw [(Endpoint.isWs_of_delivers hdelivers).2, hkeep]
  unfold roomFor
  simp only [List.find?_filter, hkept, Bool.decide_eq_true]

theorem spellsRoom_iff : spellsRoom events event room = true ↔
    room ≠ "" ∧ EventHas events event fun f => Text.sameLetters f.name room = true := by
  simp [spellsRoom, EventHas]

theorem routedBy_iff (events : List Event) (hroom : roomFor endpoints service event = room) :
    (routedBy endpoints events service event = room ∧ room ≠ "" ↔
      room ≠ "" ∧ EventHas events event fun f => Text.sameLetters f.name room = true) ∧
      (routedBy endpoints events service event = room ∨
        routedBy endpoints events service event = "") := by
  rw [← spellsRoom_iff]
  unfold routedBy
  rw [hroom]
  cases hspells : spellsRoom events event room with
  | true => simp [(spellsRoom_iff.1 hspells).1]
  | false => simp [eq_comm]

end Model

namespace Artifact

variable {h : Header} {layout : Layout} {model : Model} {owner : Option String}
  {services : List Model.Service}
  {service event : String}

namespace ServerPage

def Serves (p : ServerPage) (service : String) : Prop := ∃ s ∈ p.services, s.name = service

/-- The command routes the event, which the service delivers, by the room. -/
def RoutesBy (p : ServerPage) (service event room : String) : Prop :=
  (service, event) ∈ p.deliveries ∧ Model.routedBy p.endpoints p.events service event =
    room ∧ room ≠ ""

end ServerPage

theorem exists_server (h : Header) (layout : Layout) {s : Model.Service} (hs : s ∈ model.services) :
    ∃ q ∈ servers h layout model, q.2.Serves s.name := by
  obtain ⟨t, ht, hname⟩ := exists_orderedService hs
  cases layout with
  | monolith => exact ⟨_, List.mem_singleton_self _, t, ht, hname⟩
  | microservices => exact ⟨_, List.mem_map_of_mem ht, t, List.mem_singleton_self t, hname⟩

theorem mem_wsEvents_serverPage {q : String × List String} :
    q ∈ (serverPage h model owner services).wsEvents ↔
    (serverPage h model owner services).Serves q.1 ∧ q.1 ∈ model.wsServices ∧
    model.wsEvents q.1 = q.2 := by
  have hmem : q ∈ model.wsEventMap ↔ q.1 ∈ model.wsServices ∧ model.wsEvents q.1 = q.2 := by
    rw [Model.wsEventMap, List.mem_map]
    constructor
    · rintro ⟨name, hname, rfl⟩
      exact ⟨hname, rfl⟩
    · exact fun hq => ⟨q.1, hq.1, Prod.ext rfl hq.2⟩
  show q ∈ model.wsEventMap.filter _ ↔ _
  rw [List.mem_filter, hmem, and_comm]
  simp [ServerPage.Serves, serverPage]

theorem nodup_wsEvents_serverPage :
    ((serverPage h model owner services).wsEvents.map Prod.fst).Nodup := by
  have hnames : (model.wsEventMap.map Prod.fst).Nodup := by
    rw [Model.wsEventMap, List.map_map]
    exact (List.map_id _).symm ▸ Model.nodup_sortedSet _
  exact hnames.sublist (List.Sublist.map _ List.filter_sublist)

theorem mem_deliveries : (service, event) ∈ (serverPage h model owner services).deliveries ↔
    (serverPage h model owner services).Serves service ∧ event ∈ model.wsEvents service := by
  rw [ServerPage.deliveries, List.mem_flatMap]
  -- no two entries are for one service, so none is lost when they are sorted
  simp only [List.mem_map, Prod.mk.injEq, Dict.mem_ofEntries nodup_wsEvents_serverPage,
    mem_wsEvents_serverPage]
  constructor
  · rintro ⟨q, ⟨hserves, -, hdelivered⟩, other, hother, rfl, rfl⟩
    exact ⟨hserves, hdelivered ▸ hother⟩
  · rintro ⟨hserves, hevent⟩
    exact ⟨(service, _), ⟨hserves, Model.mem_wsServices_of_mem hevent, rfl⟩, event,
      hevent, rfl, rfl⟩

theorem roomFor_serverPage (hserves : (serverPage h model owner services).Serves service) :
    Model.roomFor (serverPage h model owner services).endpoints service event =
      Model.roomFor model.endpoints service event := by
  have hserved : (services.any fun s => s.name == service) = true := by
    simpa [ServerPage.Serves, serverPage] using hserves
  exact Model.roomFor_filter (fun name => services.any fun s => s.name == name) hserved

/-- Every service has a command that serves it, whose text is known word for word and has a line for
each event that the service delivers over sockets. It routes the event by its room exactly if the
event has a field that is declared like the room, whatever the case, and to everybody otherwise. A
field whose exported name is the room is declared like it only if its name has nothing but letters
and digits, or is the room; so events are routed by the exported names of their fields exactly where
both tests find a field, or neither does. -/
theorem events_routed_by_room_iff (h : Header) (layout : Layout) (model : Model) (tree : FileTree) :
    (serviceMains h layout model).map (bundledText tree) =
        (servers h layout model).map (fun q => .ok (serverText h q.2)) ∧
      (∀ s ∈ model.services, ∃ q ∈ servers h layout model, q.2.Serves s.name) ∧
      ∀ q ∈ servers h layout model, ∀ service, q.2.Serves service →
        ∀ event ∈ model.wsEvents service, (service, event) ∈ q.2.deliveries ∧
          ∀ room, Model.roomFor model.endpoints service event = room →
          (q.2.RoutesBy service event room ↔
            room ≠ "" ∧ Model.EventHas model.events event fun f =>
              Text.sameLetters f.name room = true) ∧
          (¬q.2.RoutesBy service event room → Model.routedBy q.2.endpoints q.2.events
            service event = "") ∧
          (∀ f : Model.Field, f.goName = room →
            (Text.sameLetters f.name room = true ↔ Text.Alphanum f.name.toList ∨ f.name = room)) ∧
          ((q.2.RoutesBy service event room ↔
              room ≠ "" ∧ Model.EventHas model.events event fun f => f.goName = room) ↔
            room = "" ∨
            ((Model.EventHas model.events event fun f => Text.sameLetters f.name room = true) ↔
              Model.EventHas model.events event fun f => f.goName = room)) := by
  refine ⟨texts_serviceMains h layout model tree, fun s hs => exists_server h layout hs, ?_⟩
  intro q hq service hserves event hevent
  obtain ⟨owner, services, hpage⟩ := exists_serverPage hq
  rw [hpage] at hserves ⊢
  have hdelivered := mem_deliveries.2 ⟨hserves, hevent⟩
  refine ⟨hdelivered, fun room hroom => ?_⟩
  obtain ⟨hrouted, hother⟩ :=
    Model.routedBy_iff model.events ((roomFor_serverPage hserves).trans hroom)
  have hroutes : (serverPage h model owner services).RoutesBy service event room ↔
      room ≠ "" ∧ Model.EventHas model.events event fun f => Text.sameLetters f.name room = true :=
    (and_iff_right hdelivered).trans hrouted
  refine ⟨hroutes, fun hnot => ?_, ?_, ?_⟩
  · rcases hother with hby | hall
    · by_contra hne
      exact hnot ⟨hdelivered, hby, fun hempty => hne (hby.trans hempty)⟩
    · exact hall
  · rintro f rfl
    exact (Name.sameLetters_exported_self_iff f.name).trans (or_congr_right eq_comm)
  · rw [hroutes, and_congr_right_iff, or_iff_not_imp_left]

def chat (field : String) : Schema where
  services := [{ name := "Chat" }]
  events := [{ name := "MessageSent", fields := [{ Field.blank with name := field }] }]
  endpoints := [
    { method := "WS", path := "/rooms/\x7broomId\x7d", service := "Chat"
      messages := ["MessageSent"] }]

theorem roomId_routed : ∃ q ∈ servers ⟨"chat", {}⟩ .microservices (Model.ofSchema (chat "roomId")),
    q.2.RoutesBy "Chat" "MessageSent" "RoomID" := by
  obtain ⟨-, hserved, hroutes⟩ :=
    events_routed_by_room_iff ⟨"chat", {}⟩ .microservices (Model.ofSchema (chat "roomId")) {}
  obtain ⟨q, hq, hserves⟩ :=
    hserved _ (Model.mem_services_ofSchema.2 ⟨_, List.mem_singleton_self _, rfl⟩)
  obtain ⟨-, hby⟩ := hroutes q hq "Chat" hserves "MessageSent" (by decide +kernel)
  obtain ⟨hrouted, -⟩ := hby "RoomID" (by decide +kernel)
  exact ⟨q, hq, hrouted.2 (Model.spellsRoom_iff.1 (by decide +kernel))⟩

/-- The exported name of the field is the room, and the event still goes to everybody; and an event
is routed by a room that none of its fields has as exported name. -/
theorem room_id_not_routed :
    (Model.roomFor (Model.ofSchema (chat "room_id")).endpoints "Chat" "MessageSent" = "RoomID" ∧
      ((Model.ofSchema (chat "room_id")).events.map fun e => e.fields.map Model.Field.goName) =
      [["RoomID"]] ∧ Model.routedBy (Model.ofSchema (chat "room_id")).endpoints
      (Model.ofSchema (chat "room_id")).events "Chat"
        "MessageSent" = "") ∧
    ((Model.ofSchema (chat "roomid")).events.map fun e => e.fields.map Model.Field.goName) =
    [["Roomid"]] ∧
      Model.routedBy (Model.ofSchema (chat "roomid")).endpoints
      (Model.ofSchema (chat "roomid")).events "Chat"
        "MessageSent" = "RoomID" := by
  decide +kernel

end Artifact

end GoScaffold
