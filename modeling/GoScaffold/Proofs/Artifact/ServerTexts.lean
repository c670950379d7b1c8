import GoScaffold.Proofs.Artifact.ScheduleTexts

/-! The texts of the commands that serve, word for word, and that their template writes just
that. -/

namespace GoScaffold

namespace Model

def Endpoint.delivers (e : Endpoint) (service event : String) : Bool :=
  e.isWs && e.service == service && e.declared.messages.contains event

/-- The field that tells the rooms for an event apart: that of the first socket of the service which
delivers it. -/
def roomFor (endpoints : List Endpoint) (service event : String) : String :=
  ((endpoints.find? fun e => e.delivers service event).map Endpoint.roomField).getD ""

def spellsRoom (events : List Event) (event room : String) : Bool :=
  !room.isEmpty && events.any fun e => e.name == event && e.fields.any fun f =>
    Text.sameLetters f.name room

def routedBy (endpoints : List Endpoint) (events : List Event) (service event : String) : String :=
  if spellsRoom events event (roomFor endpoints service event) then roomFor endpoints service event
    else ""

end Model

namespace Artifact

def commandText (owner : Option String) : String :=
  match owner with
  | none => "// Command server serves every service in one process.\n"
  | some name =>
    if !name.isEmpty then "// Command " ++ Text.lower name ++ " serves the " ++
      name ++ " service.\n"
    else "// Command server serves every service in one process.\n"

def titleOf (owner : Option String) : String :=
  match owner with
  | none => "server"
  | some name => if !name.isEmpty then name else "server"

def resourceText (needs : Requirements) (r : Resource) : String :=
  if r.needed needs then r.text else ""

def routeText (event room : String) : String :=
  "\thub.Route(" ++ Text.goQuote event ++ ", " ++ Text.goQuote room ++ ")\n"

namespace ServerPage

def deliveries (p : ServerPage) : List (String × String) :=
  (Dict.ofEntries p.wsEvents).flatMap fun q => q.2.map fun event => (q.1, event)

def routesText (p : ServerPage) : String :=
  String.join (p.deliveries.map fun d =>
    routeText d.2 (Model.routedBy p.endpoints p.events d.1 d.2))

end ServerPage

def publisherText (p : ServerPage) : String :=
  if p.publisher then
    if p.requires.nats then "\tpublisher := platform.NewNATSPublisher(nc, hub)\n"
    else "\tpublisher := platform.NewLocalPublisher(hub)\n"
  else ""

def backedText (opening : String) (there : Bool) (holder : String) : String :=
  opening ++ (if there then holder else "nil") ++ ")\n"

def blockText {α : Type} (as : List α) (line : α → String) : String :=
  if !as.isEmpty then "\n" ++ String.join (as.map line) else ""

def RepoWiring.text (r : RepoWiring) : String :=
  if r.storage == "mongo" then "\t" ++ r.var ++ " := mongo.New" ++
    (r.entity ++ "Repository") ++ "(mongoDB)\n"
  else "\t" ++ r.var ++ " := memory.New" ++ (r.entity ++ "Repository") ++ "()\n"

def ServiceWiring.text (w : ServiceWiring) : String :=
  if w.cached then "\t" ++ w.var ++ " := service.NewCached" ++ w.name ++ "(service.New" ++
    w.name ++ "Impl(" ++ Text.join ", " w.args ++ "), cache)\n"
  else "\t" ++ w.var ++ " := service.New" ++ w.name ++ "Impl(" ++ Text.join ", " w.args ++ ")\n"

def ServiceWiring.registration (w : ServiceWiring) : String :=
  "\thttp.Register" ++ w.name ++ "(router, " ++ w.var ++ ")\n"

def authText (p : ServerPage) : String :=
  match p.auth with
  | none => ""
  | some auth =>
    if p.authOwner then
      "\thttp.RegisterAuth(router, platform.NewJWTIssuer(cfg, " ++
        Text.goQuote auth.issuer ++ "))\n"
    else ""

def startText (h : Header) (p : ServerPage) : String :=
  stampText h "" ++ commandText p.owner ++ "package main\n\nimport (\n" ++ importGroups p.imports ++
    (")\n\nfunc main() \x7b\n\tlogger := slog.New(slog.NewJSONHandler(os.Stdout, nil))\n" ++
    "\tctx, stop := signal.NotifyContext(context.Background(), os.Interrupt, syscall.SIGTERM)\n" ++
    "\tdefer stop()\n\n\tfail := func(step string, err error) \x7b\n" ++
    "\t\tlogger.Error(\"startup failed\", \"step\", step, \"err\", err)\n" ++
    "\t\tos.Exit(1)\n\t\x7d\n\n\tcfg := platform.LoadConfig(") ++ Text.goQuote (titleOf p.owner) ++
    ")\n\treadiness := platform.NewReadiness()\n"

def partsText (p : ServerPage) : String :=
  publisherText p ++
    (if p.services.any Model.Service.needsTx then backedText "\ttx := platform.NewTx("
      p.requires.sql "sqlDB"
      else "") ++
    (if p.hasCache then backedText "\tcache := platform.NewCache(" p.requires.redis "rdb"
      else "") ++
    blockText p.repos RepoWiring.text ++ blockText p.wiring ServiceWiring.text

def routerText (p : ServerPage) : String :=
  "\n\trouter := http.NewRouter(logger, readiness, hub)\n" ++
    String.join (p.wiring.map ServiceWiring.registration) ++ authText p ++
    if !p.wsServices.isEmpty then "\thttp.ServeWS(router, hub)\n" else ""

def runText (p : ServerPage) : String :=
  "\n\tsrv := platform.NewServer(cfg, router)\n\tlogger.Info(\"listening\", \"service\", " ++
    Text.goQuote (titleOf p.owner) ++
    (", \"addr\", srv.Addr())\n\tif err := srv.Run(ctx); err != nil \x7b\n" ++
      "\t\tfail(\"serve\", err)\n\t\x7d\n\x7d\n")

def serverText (h : Header) (p : ServerPage) : String :=
  startText h p ++ String.join (resources.map (resourceText p.requires)) ++
    "\n\thub := platform.NewHub(logger)\n" ++ p.routesText ++ partsText p ++ routerText p ++
    String.join (p.schedules.map (scheduleText p)) ++ runText p

end Artifact

namespace Template

/-! What the functions of templates make of the lists of a model. -/

theorem roomFieldForEvent_toJson (endpoints : List Model.Endpoint) (service event : String) :
    Helper.roomFieldForEvent (some (.arr (endpoints.map Model.Endpoint.toJson))) service event =
      Model.roomFor endpoints service event := by
  have hdelivers (e : Model.Endpoint) : (Value.fieldIsTrue e.toJson "is_ws" &&
      Value.fieldText e.toJson "service" == service &&
        (Helper.fieldItems e.toJson "messages").any fun m => m.str? == some event) =
        e.delivers service event := by
    have hws : Value.fieldIsTrue e.toJson "is_ws" = e.isWs := by
      simp [Value.fieldIsTrue, Value.field, Model.Endpoint.toJson, Json.get?_obj_cons, Value.isTrue]
    have hservice : Value.fieldText e.toJson "service" = e.service := by
      simp [Value.fieldText, Value.field, Model.Endpoint.toJson, Json.get?_obj_cons, Json.str?]
    have hmessages : Helper.fieldItems e.toJson "messages" = e.declared.messages.map Json.str := by
      simp [Helper.fieldItems, Value.field, Model.Endpoint.toJson, Json.get?_obj_cons,
        Value.items, Value.items?, Json.strs]
    have hevent : (e.declared.messages.map Json.str).any (fun m => m.str? == some event) =
        e.declared.messages.contains event := by
      rw [Bool.eq_iff_iff]
      simp [Json.str?]
    rw [hws, hservice, hmessages, hevent, Model.Endpoint.delivers]
  have hroom (e : Model.Endpoint) : Value.fieldText e.toJson "room_field" = e.roomField := by
    simp [Value.fieldText, Value.field, Model.Endpoint.toJson, Json.get?_obj_cons, Json.str?]
  unfold Helper.roomFieldForEvent Model.roomFor
  simp only [Value.items, Value.items?, Option.getD_some, List.find?_map, Option.map_map,
    Function.comp_def, hdelivers, hroom]

theorem hasEventField_toJson (events : List Model.Event) (event room : String) :
    Helper.hasEventField (some (.arr (events.map Model.Event.toJson))) event room =
      Model.spellsRoom events event room := by
  have hnamed (e : Model.Event) : Helper.isNamed event e.toJson = (e.name == event) := by
    simp [Helper.isNamed, Value.fieldText, Value.field, Model.Event.toJson,
      Json.get?_obj_cons, Json.str?]
  have hfields (e : Model.Event) : Helper.fieldItems e.toJson "fields" =
      e.fields.map Model.Field.toJson := by
    simp [Helper.fieldItems, Value.field, Model.Event.toJson, Json.get?_obj_cons,
      Value.items, Value.items?, Artifact.fieldsJson_eq_map]
  have hname (f : Model.Field) : Value.fieldText f.toJson "name" = f.name := by
    simp [Value.fieldText, Value.field, Artifact.get?_toJson_name, Json.str?]
  unfold Helper.hasEventField Model.spellsRoom
  simp only [Value.items, Value.items?, Option.getD_some, List.filter_map, List.any_map,
    List.any_filter, Function.comp_def, hnamed, hfields, hname]

theorem hasTxServices_toJson (services : List Model.Service) :
    Helper.hasTxServices (some (.arr (services.map Model.Service.toJson))) =
      services.any Model.Service.needsTx := by
  have htx (s : Model.Service) : Value.fieldIsTrue s.toJson "needs_tx" = s.needsTx := by
    simp [Value.fieldIsTrue, Value.field, Model.Service.toJson, Json.get?_obj_cons, Value.isTrue]
  unfold Helper.hasTxServices
  simp only [Value.items, Value.items?, Option.getD_some, List.any_map, Function.comp_def, htx]

end Template

namespace Artifact

open Template Bundled

variable {kit : HelperKit} {call : Caller} {s : Scope}

/-! The beginning. -/

theorem writes_command {owner : Option String}
    (hservice : s.value "service" = some (.ofOption .str owner)) :
    Writes kit call s [commandNode] (commandText owner) s := by
  have hall : Writes kit call s
      [.text "// Command server serves every service in one process.\n"] _ s :=
    .text _ .nil
  cases owner with
  | none => exact (Writes.otherwise (eval_var_eq hservice) rfl hall).of_eq String.append_empty
  | some name =>
    have hname : (Expr.var "service").eval kit call s = .ok (some (.str name)) :=
      eval_var_eq hservice
    have hlower : (Expr.filter (.var "service") "lower" []).eval kit call s =
        .ok (some (.str (Text.lower name))) := by
      rw [Expr.eval_filter hname, HelperKit.filter_lower]
    have hone : Writes kit call s
        [.text "// Command ", .print (.filter (.var "service") "lower" []), .text " serves the ",
          .print (.var "service"), .text " service.\n"] _ s :=
      .text _ <| .print hlower <| .text _ <| .print hname <| .text _ .nil
    unfold commandText
    refine Writes.of_eq (.either hname rfl hone hall .nil) ?_
    simp only [Value.printed, Value.isTrue, String.append_assoc, String.append_empty]

theorem eval_title {owner : Option String}
    (hservice : s.value "service" = some (.ofOption .str owner)) :
    (Expr.filter (.or (.var "service") (.const (.str "server"))) "go_quote" []).eval kit call s =
      .ok (some (.str (Text.goQuote (titleOf owner)))) := by
  apply Expr.eval_goQuote
  rw [Expr.eval_or (eval_var_eq hservice)]
  cases owner with
  | none => rfl
  | some name =>
    show (if !name.isEmpty then _ else _) =
      Except.ok (some (Json.str (if !name.isEmpty then _ else _)))
    split <;> rfl

theorem writes_start {h : Header} {p : ServerPage} (hs : Stamped s h p.imports)
    (hservice : s.value "service" = some (.ofOption .str p.owner)) :
    Writes kit call s
      (stampNodes "" ++ (commandNode :: .text "package main\n\nimport (\n" :: importGroupNodes) ++
        startNodes) (startText h p) s := by
  have himports : Writes kit call s (.text "package main\n\nimport (\n" :: importGroupNodes) _ s :=
    .text _ (writes_importGroups hs)
  have hcommand : Writes kit call s
      (commandNode :: .text "package main\n\nimport (\n" :: importGroupNodes) _ s :=
    (writes_command hservice).append himports
  have hstart : Writes kit call s startNodes _ s :=
    .text _ <| .print (eval_title hservice) <| .text _ .nil
  unfold startText
  refine Writes.of_eq (((writes_stamp hs "").append hcommand).append hstart) ?_
  simp only [Value.printed, String.append_assoc, String.append_empty]

/-! What a command opens. -/

theorem get?_requirements (needs : Requirements) :
    ∀ r ∈ resources, needs.toJson.get? r.name = some (.bool (r.needed needs)) := by
  simp [resources, Requirements.toJson, Json.get?_obj_cons]

theorem eval_requires {needs : Requirements} (hrequires : s.value "requires" = some needs.toJson)
    {r : Resource}
    (hr : r ∈ resources) :
    (Expr.attr (.var "requires") r.name).eval kit call s = .ok (some (.bool (r.needed needs))) := by
  rw [Expr.eval_attr (eval_var_eq hrequires), get?_requirements needs r hr]

theorem writes_resources {needs : Requirements} (hrequires : s.value "requires" = some needs.toJson)
    {rs : List Resource} (hrs : ∀ r ∈ rs, r ∈ resources) :
    Writes kit call s (rs.map resourceNode) (String.join (rs.map (resourceText needs))) s := by
  induction rs with
  | nil => exact .nil
  | cons r rs ih =>
    rw [List.forall_mem_cons] at hrs
    have hopened : Writes kit call s [.text r.text] r.text s :=
      Writes.of_eq (.text _ .nil) String.append_empty
    rw [List.map_cons, List.map_cons, String.join_cons]
    exact .either (eval_requires hrequires hrs.1) rfl hopened .nil (ih hrs.2)

/-! How events are routed. -/

/-- A scope in which events can be routed: it knows the endpoints and the events, and has no other
use for the names of the functions. -/
structure Routing (s : Scope) (endpoints : List Model.Endpoint) (events : List Model.Event) :
    Prop where
  endpoints : s.value "endpoints" = some (.arr (endpoints.map Model.Endpoint.toJson))
  events : s.value "events" = some (.arr (events.map Model.Event.toJson))
  roomFor : s.binding? "room_field_for_event" = none
  spellsRoom : s.binding? "has_event_field" = none

variable {endpoints : List Model.Endpoint} {events : List Model.Event} {service event : String}

theorem Routing.congr {t : Scope} (hs : Routing s endpoints events)
    (h : ∀ name ∈ ["endpoints", "events", "room_field_for_event", "has_event_field"],
      t.binding? name = s.binding? name) : Routing t endpoints events := by
  simp only [List.forall_mem_cons] at h
  obtain ⟨hendpoints, hevents, hroom, hspells, -⟩ := h
  exact ⟨(Scope.value_congr hendpoints).trans hs.endpoints,
    (Scope.value_congr hevents).trans hs.events, hroom.trans hs.roomFor,
    hspells.trans hs.spellsRoom⟩

theorem eval_roomFor (hs : Routing s endpoints events)
    (hservice : s.value "svc" = some (.str service))
    (hevent : s.value "ev" = some (.str event)) :
    (Expr.call (.var "room_field_for_event") [.var "endpoints", .var "svc", .var "ev"]).eval
      kit call s =
      .ok (some (.str (Model.roomFor endpoints service event))) := by
  rw [Expr.eval_function (Expr.evalAll_cons (eval_var_eq hs.endpoints)
    (Expr.evalAll_cons (eval_var_eq hservice)
    (Expr.evalAll_cons (eval_var_eq hevent) rfl))) hs.roomFor, ← roomFieldForEvent_toJson]
  rfl

theorem eval_spellsRoom {room : String} (hs : Routing s endpoints events)
    (hevent : s.value "ev" = some (.str event)) (hroom : s.value "room" = some (.str room)) :
    (Expr.call (.var "has_event_field") [.var "events", .var "ev", .var "room"]).eval kit call s =
      .ok (some (.bool (Model.spellsRoom events event room))) := by
  rw [Expr.eval_function (Expr.evalAll_cons (eval_var_eq hs.events)
    (Expr.evalAll_cons (eval_var_eq hevent)
    (Expr.evalAll_cons (eval_var_eq hroom) rfl))) hs.spellsRoom, ← hasEventField_toJson]
  rfl

theorem writes_route (hs : Routing s endpoints events)
    (hservice : s.value "svc" = some (.str service))
    (hevent : s.value "ev" = some (.str event)) :
    ∃ after, Writes kit call s routeNodes (routeText event
      (Model.routedBy endpoints events service event))
      after := by
  let room := Model.roomFor endpoints service event
  let named := s.bind "room" (.value (some (.str room)))
  have hrouting : Routing named endpoints events :=
    hs.congr fun name hname => Scope.binding?_bind_of_ne (ne_of_mem_of_not_mem hname (by decide))
  have hev : named.value "ev" = some (.str event) := by
    rw [Scope.value_bind_of_ne (by decide), hevent]
  have hroom : named.value "room" = some (.str room) := Scope.value_bind_self
  have hquoted : (Expr.filter (.var "ev") "go_quote" []).eval kit call named =
      .ok (some (.str (Text.goQuote event))) := Expr.eval_goQuote (eval_var_eq hev)
  have hyes : Writes kit call named
      [.text "\thub.Route(", .print (.filter (.var "ev") "go_quote" []), .text ", ",
        .print (.filter (.var "room") "go_quote" []), .text ")\n"] _ named :=
    .text _ <| .print hquoted <| .text _ <| .print (Expr.eval_goQuote (eval_var_eq hroom)) <|
      .text _ .nil
  have hno : Writes kit call named
      [.text "\thub.Route(", .print (.filter (.var "ev") "go_quote" []),
        .text ", \"\")\n"] _ named :=
    .text _ <| .print hquoted <| .text _ .nil
  refine ⟨named, .set (eval_roomFor hs hservice hevent) <| Writes.of_eq
    (.either (eval_spellsRoom hrouting hev hroom) rfl hyes hno .nil) ?_⟩
  have hempty : Text.goQuote "" = "\"\"" := by decide +kernel
  unfold routeText Model.routedBy
  simp only [Value.printed, Value.isTrue, String.append_assoc, String.append_empty]
  split
  · rfl
  · rw [hempty]
    rfl

theorem join_map_flatMap {α β : Type} (f : α → List β) (g : β → String) (as : List α) :
    String.join ((as.flatMap f).map g) = String.join (as.map fun a =>
      String.join ((f a).map g)) := by
  induction as with
  | nil => rfl
  | cons a as ih =>
    rw [List.flatMap_cons, List.map_append, String.join_append, ih, List.map_cons, String.join_cons]

theorem writes_serviceRoutes {delivered : List String} (hs : Routing s endpoints events)
    (hservice : s.value "svc" = some (.str service))
    (hdelivered : s.value "evs" = some (.strs delivered)) :
    Writes kit call s [deliveredNode]
      (String.join (delivered.map fun event =>
        routeText event (Model.routedBy endpoints events service event)))
      s := by
  have hround (event : String) (_ : event ∈ delivered) (index length : Nat) : ∃ after,
      Writes kit call (s.enter (Loop.frame "ev" (.str event) index length)) routeNodes
        (routeText event (Model.routedBy endpoints events service event)) after := by
    refine writes_route (hs.congr fun name hname => ?_) ?_ (Loop.value_frame_name (by decide) _ _ _)
    · apply Scope.binding?_enter_of_none
      rw [Loop.frame, Dict.get?_insert, if_neg (ne_of_mem_of_not_mem hname (by decide)),
        Dict.get?_cons, if_neg (ne_of_mem_of_not_mem hname (by decide))]
      rfl
    · rw [Loop.value_frame_of_ne (by decide) (by decide), hservice]
  exact Writes.of_eq (.loop (eval_var_eq hdelivered) hround .nil) String.append_empty

theorem writes_routes {p : ServerPage} (hs : Routing s p.endpoints p.events)
    (hevents : s.value "ws_events" = some (.obj (p.wsEvents.map fun q => (q.1, .strs q.2))))
    {nodes : List Node} {rest : String} {u : Scope} (hrest : Writes kit call s nodes rest u) :
    Writes kit call s (routesNode :: nodes) (p.routesText ++ rest) u := by
  have hitems : (Expr.filter (.var "ws_events") "items" []).eval kit call s =
      .ok (some (.arr ((Dict.ofEntries p.wsEvents).map fun q => .arr [.str q.1, .strs q.2]))) := by
    rw [Expr.eval_filter (eval_var_eq hevents), HelperKit.filter_items,
      Dict.ofEntries_map Json.strs, List.map_map]
    rfl
  have hround (q : String × List String) (_ : q ∈ Dict.ofEntries p.wsEvents) (index : Nat) :
      ∃ after, Writes kit call (s.enter (Loop.pairFrame "svc" "evs" (.str q.1) (.strs q.2) index
        (Dict.ofEntries p.wsEvents).length)) [deliveredNode]
        (String.join (q.2.map fun event =>
          routeText event (Model.routedBy p.endpoints p.events q.1 event)))
        after := by
    refine ⟨_, writes_serviceRoutes (hs.congr fun name hname => ?_) ?_ ?_⟩
    · apply Scope.binding?_enter_of_none
      rw [Loop.get?_pairFrame (ne_of_mem_of_not_mem hname (by decide)),
        if_neg (ne_of_mem_of_not_mem hname (by decide)),
        if_neg (ne_of_mem_of_not_mem hname (by decide))]
    all_goals
      apply Scope.value_enter_of_some
      rw [Loop.get?_pairFrame (by decide)]
      rfl
  unfold ServerPage.routesText ServerPage.deliveries
  simp only [join_map_flatMap, List.map_map, Function.comp_def]
  exact .pairs hitems hround hrest

/-! What the services are made of. -/

theorem writes_publisher {p : ServerPage}
    (hpublisher : s.value "publisher" = some (.bool p.publisher))
    (hrequires : s.value "requires" = some p.requires.toJson) {nodes : List Node}
    {rest : String} {u : Scope}
    (hrest : Writes kit call s nodes rest u) :
    Writes kit call s (publisherNode :: nodes) (publisherText p ++ rest) u := by
  have hnats : (Expr.attr (.var "requires") "nats").eval kit call s =
      .ok (some (.bool p.requires.nats)) := by
    rw [Expr.eval_attr (eval_var_eq hrequires)]
    rfl
  have hnamed : Writes kit call s
      [.branch (.attr (.var "requires") "nats")
        [.text "\tpublisher := platform.NewNATSPublisher(nc, hub)\n"]
        [.text "\tpublisher := platform.NewLocalPublisher(hub)\n"]] _ s :=
    .either hnats rfl (.text _ .nil) (.text _ .nil) .nil
  unfold publisherText
  refine Writes.of_eq (.either (eval_var_eq hpublisher) rfl hnamed .nil hrest) ?_
  simp only [Value.isTrue, String.append_empty]

theorem writes_backed {condition : Expr} {opening resource holder : String} {v : Value}
    {b there : Bool}
    (hcondition : condition.eval kit call s = .ok v) (hb : v.isTrue = b)
    (hthere : (Expr.attr (.var "requires") resource).eval kit call s = .ok (some (.bool there)))
    {nodes : List Node} {rest : String} {u : Scope} (hrest : Writes kit call s nodes rest u) :
    Writes kit call s (backedNode condition opening resource holder :: nodes)
      ((if b then backedText opening there holder else "") ++ rest) u := by
  have hbacked : Writes kit call s
      [.text opening, .branch (.attr (.var "requires") resource) [.text holder] [.text "nil"],
        .text ")\n"] _ s :=
    .text _ <| .either hthere rfl (.text _ .nil) (.text _ .nil) <| .text _ .nil
  unfold backedText
  refine Writes.of_eq (.either hcondition hb hbacked .nil hrest) ?_
  simp only [Value.isTrue, String.append_assoc, String.append_empty]

theorem writes_block {α : Type} {as : List α} {f : α → Json} {line : α → String}
    {list item : String}
    {body : List Node} (hlist : s.value list = some (.arr (as.map f)))
    (hbody : ∀ a ∈ as, ∀ index length, ∃ after,
      Writes kit call (s.enter (Loop.frame item (f a) index length)) body (line a) after)
    {nodes : List Node} {rest : String} {u : Scope} (hrest : Writes kit call s nodes rest u) :
    Writes kit call s (blockNode list item body :: nodes) (blockText as line ++ rest) u := by
  have hlines : Writes kit call s [.text "\n", .loop [item] (.var list) none body []] _ s :=
    .text _ <| .loop (eval_var_eq hlist) hbody .nil
  unfold blockText
  refine Writes.of_eq (.either (eval_var_eq hlist) rfl hlines .nil hrest) ?_
  simp only [Value.isTrue, List.isEmpty_map, String.append_empty]

theorem writes_repoWiring {r : RepoWiring} (hr : s.value "r" = some r.toJson) :
    Writes kit call s repoWiringNodes r.text s := by
  have hvar : (Expr.attr (.var "r") "var").eval kit call s = .ok (some (.str r.var)) := by
    rw [Expr.eval_attr (eval_var_eq hr)]
    rfl
  have hrepo : (Expr.attr (.var "r") "repo").eval kit call s =
      .ok (some (.str (r.entity ++ "Repository"))) := by
    rw [Expr.eval_attr (eval_var_eq hr)]
    rfl
  have hstorage : (Expr.attr (.var "r") "storage").eval kit call s =
      .ok (some (.str r.storage)) := by
    rw [Expr.eval_attr (eval_var_eq hr)]
    rfl
  have hmongo : Writes kit call s
      [.text "\t", .print (.attr (.var "r") "var"), .text " := mongo.New",
        .print (.attr (.var "r") "repo"), .text "(mongoDB)\n"] _ s :=
    .text _ <| .print hvar <| .text _ <| .print hrepo <| .text _ .nil
  have hmemory : Writes kit call s
      [.text "\t", .print (.attr (.var "r") "var"), .text " := memory.New",
        .print (.attr (.var "r") "repo"), .text "()\n"] _ s :=
    .text _ <| .print hvar <| .text _ <| .print hrepo <| .text _ .nil
  unfold RepoWiring.text
  refine Writes.of_eq (.either (Expr.eval_equal hstorage "mongo") rfl hmongo hmemory .nil) ?_
  simp only [Value.printed, Value.isTrue, String.append_assoc, String.append_empty]

theorem eval_wiring_attr (kit : HelperKit) (call : Caller) {w : ServiceWiring}
    (hw : s.value "w" = some w.toJson) :
    (Expr.attr (.var "w") "name").eval kit call s = .ok (some (.str w.name)) ∧
      (Expr.attr (.var "w") "var").eval kit call s = .ok (some (.str w.var)) ∧
      (Expr.attr (.var "w") "args").eval kit call s = .ok (some (.strs w.args)) ∧
      (Expr.attr (.var "w") "cached").eval kit call s = .ok (some (.bool w.cached)) := by
  refine ⟨?_, ?_, ?_, ?_⟩
  all_goals
    rw [Expr.eval_attr (eval_var_eq hw)]
    rfl

theorem writes_serviceWiring {w : ServiceWiring} (hw : s.value "w" = some w.toJson) :
    Writes kit call s serviceWiringNodes w.text s := by
  obtain ⟨hname, hvar, hlist, hcached⟩ := eval_wiring_attr kit call hw
  have hargs : wiringArgs.eval kit call s = .ok (some (.str (Text.join ", " w.args))) := by
    rw [wiringArgs, Expr.eval_filter_const hlist, HelperKit.filter_join]
  have hyes : Writes kit call s
      [.text "\t", .print (.attr (.var "w") "var"), .text " := service.NewCached",
        .print (.attr (.var "w") "name"), .text "(service.New", .print (.attr (.var "w") "name"),
        .text "Impl(", .print wiringArgs, .text "), cache)\n"] _ s :=
    .text _ <| .print hvar <| .text _ <| .print hname <| .text _ <| .print hname <| .text _ <|
      .print hargs <|
    .text _ .nil
  have hno : Writes kit call s
      [.text "\t", .print (.attr (.var "w") "var"), .text " := service.New",
        .print (.attr (.var "w") "name"), .text "Impl(", .print wiringArgs, .text ")\n"] _ s :=
    .text _ <| .print hvar <| .text _ <| .print hname <| .text _ <| .print hargs <| .text _ .nil
  unfold ServiceWiring.text
  refine Writes.of_eq (.either hcached rfl hyes hno .nil) ?_
  simp only [Value.printed, Value.isTrue, String.append_assoc, String.append_empty]

theorem writes_registration {w : ServiceWiring} (hw : s.value "w" = some w.toJson) :
    Writes kit call s registrationNodes w.registration s := by
  obtain ⟨hname, hvar, -, -⟩ := eval_wiring_attr kit call hw
  have hwrites : Writes kit call s registrationNodes _ s :=
    .text _ <| .print hname <| .text _ <| .print hvar <| .text _ .nil
  unfold ServiceWiring.registration
  exact hwrites.of_eq (by simp only [Value.printed, String.append_assoc, String.append_empty])

theorem writes_auth {p : ServerPage} (howner : s.value "auth_owner" = some (.bool p.authOwner))
    (hauth : s.value "auth" = some (.ofOption Model.AuthInfo.toJson p.auth))
    (hissuer : p.authOwner = true → p.auth.isSome = true) {nodes : List Node}
    {rest : String} {u : Scope}
    (hrest : Writes kit call s nodes rest u) :
    Writes kit call s (authNode :: nodes) (authText p ++ rest) u := by
  unfold authText
  cases hp : p.auth with
  | none =>
    -- an issuer that is not there cannot be quoted
    have hnot : p.authOwner = false := by
      rw [hp] at hissuer
      exact Bool.eq_false_iff.2 fun htrue => absurd (hissuer htrue) (by simp)
    refine .branch (eval_var_eq howner) (fun htrue => ?_) (fun _ => .nil) hrest
    rw [hnot] at htrue
    cases htrue
  | some auth =>
    have hquoted : (Expr.filter (.attr (.var "auth") "issuer") "go_quote" []).eval kit call s =
        .ok (some (.str (Text.goQuote auth.issuer))) := by
      rw [hp] at hauth
      apply Expr.eval_goQuote
      rw [Expr.eval_attr (eval_var_eq hauth)]
      rfl
    have hregistered : Writes kit call s
        [.text "\thttp.RegisterAuth(router, platform.NewJWTIssuer(cfg, ",
          .print (.filter (.attr (.var "auth") "issuer") "go_quote" []), .text "))\n"] _ s :=
      .text _ <| .print hquoted <| .text _ .nil
    refine Writes.of_eq (.either (eval_var_eq howner) rfl hregistered .nil hrest) ?_
    simp only [Value.printed, Value.isTrue, String.append_assoc, String.append_empty]

/-! The whole. -/

theorem unbound_told {h : Header} {more : List (String × Json)} {name : String}
    (hname : name ∉ ["module", "ang_version", "input_hash", "compiler_hash"])
    (hmore : (Json.obj more).get? name = none) :
    (⟨[[]], h.told more⟩ : Scope).binding? name = none :=
  Scope.binding?_start (by rw [get?_told hname, hmore])

section

variable {h : Header} {p : ServerPage}

theorem routing_page : Routing ⟨[[]], p.toJson h⟩ p.endpoints p.events where
  endpoints := value_told (by decide) rfl
  events := value_told (by decide) rfl
  roomFor := unbound_told (by decide) rfl
  spellsRoom := unbound_told (by decide) rfl

theorem writes_parts : Writes kit call ⟨[[]], p.toJson h⟩ partsNodes (partsText p)
    ⟨[[]], p.toJson h⟩ := by
  have hrequires : (⟨[[]], p.toJson h⟩ : Scope).value "requires" = some p.requires.toJson :=
    value_told (by decide) rfl
  have hservices : (⟨[[]], p.toJson h⟩ : Scope).value "services" =
      some (.arr (p.services.map Model.Service.toJson)) := value_told (by decide) rfl
  have htx : (Expr.call (.var "has_tx_services") [.var "services"]).eval kit call
      ⟨[[]], p.toJson h⟩ =
      .ok (some (.bool (p.services.any Model.Service.needsTx))) := by
    rw [Expr.eval_function (Expr.evalAll_cons (eval_var_eq hservices) rfl)
      (unbound_told (by decide) rfl), ← hasTxServices_toJson]
    rfl
  have hcache : (Expr.var "has_cache").eval kit call ⟨[[]], p.toJson h⟩ =
      .ok (some (.bool p.hasCache)) :=
    eval_var_eq (value_told (by decide) rfl)
  have hneeds : (Expr.attr (.var "requires") "sql").eval kit call ⟨[[]], p.toJson h⟩ =
      .ok (some (.bool p.requires.sql)) ∧
        (Expr.attr (.var "requires") "redis").eval kit call ⟨[[]], p.toJson h⟩ =
          .ok (some (.bool p.requires.redis)) := by
    constructor
    all_goals
      rw [Expr.eval_attr (eval_var_eq hrequires)]
      rfl
  have hrepo (r : RepoWiring) (_ : r ∈ p.repos) (index length : Nat) : ∃ after, Writes kit call
      ((⟨[[]], p.toJson h⟩ : Scope).enter (Loop.frame "r" r.toJson index length)) repoWiringNodes
      r.text after :=
    ⟨_, writes_repoWiring (Loop.value_frame_name (by decide) _ _ _)⟩
  have hservice (w : ServiceWiring) (_ : w ∈ p.wiring) (index length : Nat) :
      ∃ after, Writes kit call
      ((⟨[[]], p.toJson h⟩ : Scope).enter (Loop.frame "w" w.toJson index length)) serviceWiringNodes
      w.text after :=
    ⟨_, writes_serviceWiring (Loop.value_frame_name (by decide) _ _ _)⟩
  have hwrites : Writes kit call ⟨[[]], p.toJson h⟩ partsNodes _ ⟨[[]], p.toJson h⟩ :=
    writes_publisher (value_told (by decide) rfl) hrequires <|
    writes_backed htx (rfl : _ = p.services.any Model.Service.needsTx) hneeds.1 <|
    writes_backed hcache (rfl : _ = p.hasCache) hneeds.2 <|
      writes_block (value_told (by decide) rfl) hrepo <|
    writes_block (value_told (by decide) rfl) hservice .nil
  unfold partsText
  exact hwrites.of_eq (by simp only [String.append_assoc, String.append_empty])

theorem writes_router (hissuer : p.authOwner = true → p.auth.isSome = true) :
    Writes kit call ⟨[[]], p.toJson h⟩ routerNodes (routerText p) ⟨[[]], p.toJson h⟩ := by
  have hwiring : (Expr.var "wiring").eval kit call ⟨[[]], p.toJson h⟩ =
      .ok (some (.arr (p.wiring.map ServiceWiring.toJson))) :=
        eval_var_eq (value_told (by decide) rfl)
  have hsockets : (Expr.var "ws_services").eval kit call ⟨[[]], p.toJson h⟩ =
      .ok (some (.strs p.wsServices)) :=
    eval_var_eq (value_told (by decide) rfl)
  have htrue : Value.isTrue (some (.strs p.wsServices)) = !p.wsServices.isEmpty := by
    simp [Value.isTrue, Json.strs]
  have hregistered (w : ServiceWiring) (_ : w ∈ p.wiring) (index length : Nat) :
      ∃ after, Writes kit call
      ((⟨[[]], p.toJson h⟩ : Scope).enter (Loop.frame "w" w.toJson index length))
      registrationNodes w.registration
      after := ⟨_, writes_registration (Loop.value_frame_name (by decide) _ _ _)⟩
  have hwrites : Writes kit call ⟨[[]], p.toJson h⟩ routerNodes _ ⟨[[]], p.toJson h⟩ :=
    .text _ <| .loop hwiring hregistered <|
    writes_auth (value_told (by decide) rfl) (value_told (by decide) rfl) hissuer <|
    .either hsockets htrue (.text _ .nil) .nil .nil
  unfold routerText
  exact hwrites.of_eq (by simp only [String.append_assoc, String.append_empty])

theorem writes_server (hissuer : p.authOwner = true → p.auth.isSome = true) :
    Writes kit call ⟨[[]], p.toJson h⟩ mainServerNodes (serverText h p) ⟨[[]], p.toJson h⟩ := by
  have hservice : (⟨[[]], p.toJson h⟩ : Scope).value "service" = some (.ofOption .str p.owner) :=
    value_told (by decide) rfl
  have hschedules : (Expr.var "schedules").eval kit call ⟨[[]], p.toJson h⟩ =
      .ok (some (.arr (p.schedules.map Schedule.toJson))) :=
        eval_var_eq (value_told (by decide) rfl)
  have hschedule (t : Schedule) (_ : t ∈ p.schedules) (index length : Nat) :
      ∃ after, Writes kit call
      ((⟨[[]], p.toJson h⟩ : Scope).enter (Loop.frame "sch" t.toJson index length)) scheduleNodes
      (scheduleText p t)
      after := by
    refine writes_schedule (Loop.value_frame_name (by decide) _ _ _) ?_ ?_
    all_goals
      rw [Loop.value_frame_of_ne (by decide) (by decide)]
      exact value_told (by decide) rfl
  have hrequires : (⟨[[]], p.toJson h⟩ : Scope).value "requires" = some p.requires.toJson :=
    value_told (by decide) rfl
  have hresources : Writes kit call ⟨[[]], p.toJson h⟩ (resources.map resourceNode)
      _ ⟨[[]], p.toJson h⟩ :=
    writes_resources hrequires fun _ hr => hr
  have hroutes : Writes kit call ⟨[[]], p.toJson h⟩
      [Node.text "\n\thub := platform.NewHub(logger)\n", routesNode] _ ⟨[[]], p.toJson h⟩ :=
    .text _ <| writes_routes routing_page (value_told (by decide) rfl) .nil
  have hscheduled : Writes kit call ⟨[[]], p.toJson h⟩
      [Node.loop ["sch"] (.var "schedules") none scheduleNodes []] _ ⟨[[]], p.toJson h⟩ :=
    .loop hschedules hschedule .nil
  have hrun : Writes kit call ⟨[[]], p.toJson h⟩ runNodes _ ⟨[[]], p.toJson h⟩ :=
    .text _ <| .print (eval_title hservice) <| .text _ .nil
  -- nothing is set outside of loops, so every part is written in the scope of the page
  unfold serverText runText
  refine Writes.of_eq
    ((((((writes_start (stamped_told rfl) hservice).append hresources).append hroutes).append
    writes_parts).append (writes_router hissuer)).append hscheduled |>.append hrun) ?_
  simp only [Value.printed, String.append_assoc, String.append_empty]

end

theorem exists_serverPage {h : Header} {layout : Layout} {model : Model} {q : String × ServerPage}
    (hq : q ∈ servers h layout model) :
    ∃ owner services, q.2 = serverPage h model owner services := by
  cases layout with
  | monolith =>
    rw [List.mem_singleton.1 hq]
    exact ⟨_, _, rfl⟩
  | microservices =>
    obtain ⟨service, -, rfl⟩ := List.mem_map.1 hq
    exact ⟨_, _, rfl⟩

theorem isSome_auth_of_authOwner {h : Header} {model : Model} {owner : Option String}
    {services : List Model.Service}
    (howner : (serverPage h model owner services).authOwner = true) :
    model.auth.isSome = true := by
  unfold serverPage at howner
  cases hauth : model.auth with
  | none => simp [hauth] at howner
  | some auth => rfl

theorem texts_serviceMains (h : Header) (layout : Layout) (model : Model) (tree : FileTree) :
    (serviceMains h layout model).map (bundledText tree) =
      (servers h layout model).map fun q => .ok (serverText h q.2) := by
  unfold serviceMains
  rw [List.map_map]
  apply List.map_congr_left
  intro q hq
  rw [Function.comp_apply]
  have hsource : Bundled.template? Family.serviceMain.template = some Bundled.mainServer := rfl
  have hissuer : q.2.authOwner = true → q.2.auth.isSome = true := by
    obtain ⟨owner, services, hpage⟩ := exists_serverPage hq
    rw [hpage]
    exact isSome_auth_of_authOwner
  exact bundledText_of_writes hsource Bundled.parse?_mainServer (writes_server hissuer)

end Artifact

end GoScaffold
