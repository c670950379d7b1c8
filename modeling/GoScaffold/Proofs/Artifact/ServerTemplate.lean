import GoScaffold.Proofs.Artifact.DomainTemplates
import GoScaffold.Schema.Basic

/-! The bundled template of the command that serves, put together from parts. What a command needs
from outside is opened in one way, whatever it is. -/

namespace GoScaffold

/-- Something outside of a command that it opens when it starts. -/
structure Resource where
  name : String
  needed : Requirements → Bool
  holder : String
  /-- The results of the call that opens it besides the first, and the call. -/
  opening : String
  /-- The statement that closes it in the end, if there is one. -/
  closing : String

def Resource.text (r : Resource) : String :=
  "\n\t" ++ r.holder ++ ", " ++ r.opening ++ "\n\tif err != nil \x7b\n\t\tfail(\"" ++ r.name ++
    "\", err)\n\t\x7d\n" ++ r.closing ++ "\treadiness.Add(\"" ++ r.name ++ "\", " ++
    r.holder ++ ")\n"

def resources : List Resource := [
  { name := "sql", needed := Requirements.sql, holder := "sqlDB"
    opening := "err := platform.OpenSQL(ctx, cfg)", closing := "\tdefer sqlDB.Close()\n" },
  { name := "mongo", needed := Requirements.mongo, holder := "mongoDB"
    opening := "closeMongo, err := platform.OpenMongo(ctx, cfg)", closing :=
      "\tdefer closeMongo()\n" },
  { name := "redis", needed := Requirements.redis, holder := "rdb"
    opening := "err := platform.OpenRedis(ctx, cfg)", closing := "\tdefer rdb.Close()\n" },
  { name := "nats", needed := Requirements.nats, holder := "nc"
    opening := "err := platform.OpenNATS(cfg)", closing := "\tdefer nc.Close()\n" },
  { name := "s3", needed := Requirements.s3, holder := "blobs"
    opening := "err := platform.OpenS3(ctx, cfg)", closing := "" }]

namespace Bundled

open Template

def commandNode : Node :=
  .branch (.var "service")
    [.text "// Command ", .print (.filter (.var "service") "lower" []), .text " serves the ",
      .print (.var "service"), .text " service.\n"]
    [.text "// Command server serves every service in one process.\n"]

def titleNode : Node :=
  .print (.filter (.or (.var "service") (.const (.str "server"))) "go_quote" [])

def startNodes : List Node := [
  .text (")\n\nfunc main() \x7b\n\tlogger := slog.New(slog.NewJSONHandler(os.Stdout, nil))\n" ++
    "\tctx, stop := signal.NotifyContext(context.Background(), os.Interrupt, syscall.SIGTERM)\n" ++
    "\tdefer stop()\n\n\tfail := func(step string, err error) \x7b\n" ++
    "\t\tlogger.Error(\"startup failed\", \"step\", step, \"err\", err)\n" ++
    "\t\tos.Exit(1)\n\t\x7d\n\n\tcfg := platform.LoadConfig("),
  titleNode, .text ")\n\treadiness := platform.NewReadiness()\n"]

def resourceNode (r : Resource) : Node := .branch (.attr (.var "requires") r.name) [.text r.text] []

def routeNodes : List Node := [
  .set "room" (.call (.var "room_field_for_event") [.var "endpoints", .var "svc", .var "ev"]),
  .branch (.call (.var "has_event_field") [.var "events", .var "ev", .var "room"])
    [.text "\thub.Route(", .print (.filter (.var "ev") "go_quote" []), .text ", ",
      .print (.filter (.var "room") "go_quote" []), .text ")\n"]
    [.text "\thub.Route(", .print (.filter (.var "ev") "go_quote" []), .text ", \"\")\n"]]

def deliveredNode : Node := .loop ["ev"] (.var "evs") none routeNodes []

def routesNode : Node :=
  .loop ["svc", "evs"] (.filter (.var "ws_events") "items" []) none [deliveredNode] []

def publisherNode : Node :=
  .branch (.var "publisher")
    [.branch (.attr (.var "requires") "nats")
      [.text "\tpublisher := platform.NewNATSPublisher(nc, hub)\n"]
      [.text "\tpublisher := platform.NewLocalPublisher(hub)\n"]] []

def backedNode (condition : Expr) (opening resource holder : String) : Node :=
  .branch condition
    [.text opening, .branch (.attr (.var "requires") resource) [.text holder] [.text "nil"],
      .text ")\n"] []

def blockNode (list item : String) (body : List Node) : Node :=
  .branch (.var list) [.text "\n", .loop [item] (.var list) none body []] []

def repoWiringNodes : List Node := [
  .branch (.binary .equal (.attr (.var "r") "storage") (.const (.str "mongo")))
    [.text "\t", .print (.attr (.var "r") "var"), .text " := mongo.New",
      .print (.attr (.var "r") "repo"), .text "(mongoDB)\n"]
    [.text "\t", .print (.attr (.var "r") "var"), .text " := memory.New",
      .print (.attr (.var "r") "repo"), .text "()\n"]]

def wiringArgs : Expr := .filter (.attr (.var "w") "args") "join" [.const (.str ", ")]

def serviceWiringNodes : List Node := [
  .branch (.attr (.var "w") "cached")
    [.text "\t", .print (.attr (.var "w") "var"), .text " := service.NewCached",
      .print (.attr (.var "w") "name"), .text "(service.New", .print (.attr (.var "w") "name"),
      .text "Impl(", .print wiringArgs, .text "), cache)\n"]
    [.text "\t", .print (.attr (.var "w") "var"), .text " := service.New",
      .print (.attr (.var "w") "name"), .text "Impl(", .print wiringArgs, .text ")\n"]]

def registrationNodes : List Node := [
  .text "\thttp.Register", .print (.attr (.var "w") "name"), .text "(router, ",
  .print (.attr (.var "w") "var"), .text ")\n"]

def authNode : Node :=
  .branch (.var "auth_owner")
    [.text "\thttp.RegisterAuth(router, platform.NewJWTIssuer(cfg, ",
      .print (.filter (.attr (.var "auth") "issuer") "go_quote" []), .text "))\n"] []

def dueNodes (body : String) : List Node := [
  .text "\tplatform.Schedule(ctx, logger, ",
  .print (.filter (.attr (.var "sch") "name") "go_quote" []), .text ", ",
  .print (.filter (.attr (.var "sch") "every") "go_quote" []), .text ", ",
  .print (.filter (.attr (.var "sch") "at") "go_quote" []),
  .text (", func(ctx context.Context) error \x7b\n" ++ body)]

def dueCallNodes (before after : String) : List Node := [
  .text before, .print (.var "var"), .text ".", .print (.attr (.var "m") "name"), .text "(ctx",
  .branch (.attr (.var "m") "input")
    [.text ", ", .print (.attr (.attr (.var "m") "impl_signature") "input_type"),
      .text "\x7b\x7d"] [],
  .text (")\n" ++ after)]

def dueMethodNodes : List Node := dueNodes "" ++ [
  Node.branch (.attr (.var "m") "output") (dueCallNodes "\t\t_, err := " "\t\treturn err\n")
    (dueCallNodes "\t\treturn " ""),
  .text "\t\x7d)\n"]

def dueServiceNode : Node :=
  .loop ["m"] (.attr (.var "s") "methods")
    (some (.binary .equal (.attr (.var "m") "name") (.attr (.var "sch") "action")))
    dueMethodNodes []

def duePublishNodes : List Node := dueNodes "\t\treturn publisher.Publish(ctx, " ++ [
  Node.print (.filter (.attr (.var "sch") "publish") "go_quote" []), .text ", nil)\n\t\x7d)\n"]

def duePublishNode : Node :=
  .branch (.and (.and (.not (.attr (.var "sch") "action")) (.attr (.var "sch") "publish"))
    (.var "publisher"))
    duePublishNodes []

def scheduleNodes : List Node := [
  .set "var" (.binary .concat (.filter (.attr (.var "sch") "service") "lower_first" [])
    (.const (.str "Svc"))),
  .loop ["s"] (.var "services")
    (some (.binary .equal (.attr (.var "s") "name") (.attr (.var "sch") "service")))
    [dueServiceNode] [],
  duePublishNode]

def runNodes : List Node := [
  .text ("\n\tsrv := platform.NewServer(cfg, router)\n\tlogger.Info(\"listening\", \"service\", "),
  titleNode,
  .text (", \"addr\", srv.Addr())\n\tif err := srv.Run(ctx); err != nil \x7b\n" ++
    "\t\tfail(\"serve\", err)\n\t\x7d\n\x7d\n")]

def partsNodes : List Node := [
  publisherNode,
  backedNode (.call (.var "has_tx_services") [.var "services"]) "\ttx := platform.NewTx("
  "sql" "sqlDB", backedNode (.var "has_cache") "\tcache := platform.NewCache(" "redis" "rdb",
  blockNode "repos" "r" repoWiringNodes, blockNode "wiring" "w" serviceWiringNodes]

def routerNodes : List Node := [
  .text "\n\trouter := http.NewRouter(logger, readiness, hub)\n",
  .loop ["w"] (.var "wiring") none registrationNodes [], authNode,
  .branch (.var "ws_services") [.text "\thttp.ServeWS(router, hub)\n"] []]

def mainServerNodes : Template :=
  stampNodes "" ++ (commandNode :: .text "package main\n\nimport (\n" :: importGroupNodes) ++
    startNodes ++ resources.map resourceNode ++ [Node.text "\n\thub := platform.NewHub(logger)\n",
      routesNode] ++ partsNodes ++
    routerNodes ++ [Node.loop ["sch"] (.var "schedules") none scheduleNodes []] ++ runNodes

theorem parse?_mainServer : parse? mainServer = some mainServerNodes := by
  apply parse?_unlines
  · repeat' first | exact Text.Spelled.nil | apply Text.Spelled.cons | rfl
  · decide +kernel

end Bundled

end GoScaffold
