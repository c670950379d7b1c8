import GoScaffold.Artifact.Basic
import GoScaffold.Contract
import GoScaffold.Family

/-! Commands that serve, for all services together or for one each, and the tests of the
endpoints. -/

namespace GoScaffold.Artifact

inductive Layout where
  | monolith
  | microservices
deriving DecidableEq

def contractTests (h : Header) (model : Model) : Artifact :=
  let suite := Contract.suite model
  { path := "tests/contract/contract_test.go"
    template := Family.contractTests.template
    kit := .shared
    given := h.told
      [("suite", suite.toJson), ("has_auth_bootstrap", .bool (!suite.auth.isEmpty)),
        ("has_ws", .bool (suite.cases.any fun c => c.endpoint.isWs))] }

structure RepoWiring where
  entity : String
  storage : String
deriving DecidableEq

namespace RepoWiring

def var (r : RepoWiring) : String := Text.lowerFirst r.entity ++ "Repo"

def toJson (r : RepoWiring) : Json := .obj
  [("entity", .str r.entity), ("var", .str r.var), ("repo", .str (r.entity ++ "Repository")),
    ("storage", .str r.storage)]

end RepoWiring

structure ServiceWiring where
  name : String
  args : List String
  cached : Bool
deriving DecidableEq

namespace ServiceWiring

def var (w : ServiceWiring) : String := Text.lowerFirst w.name ++ "Svc"

def toJson (w : ServiceWiring) : Json := .obj
  [("name", .str w.name), ("var", .str w.var), ("args", .strs w.args), ("cached", .bool w.cached)]

end ServiceWiring

def readEntities (model : Model) (services : List Model.Service) : List String :=
  let named := services.flatMap fun s =>
    (s.methods.flatMap fun m => (m.sources.map Source.entity).filter (!·.isEmpty)) ++ s.repoEntities
  Model.sortedSet ((named.map Name.exported).filter fun e =>
    !(Model.dtoNames model.entities).contains e)

def repoWirings (model : Model) (services : List Model.Service) : List RepoWiring :=
  ((readEntities model services).filter fun e =>
    model.repos.any fun r => !r.isDto && r.entity == e).map fun e =>
      { entity := e, storage := model.storageOfEntity e }

/-- How a service is constructed from repositories. A repository that is not there is left out. -/
def serviceWiring (repos : List RepoWiring) (s : Model.Service) : ServiceWiring :=
  let held := s.repoEntities.map fun e =>
    match repos.find? fun r => r.entity == e with
    | some r => r.var
    | none => "nil"
  { name := s.name
    args := held ++ (if s.needsTx then ["tx"] else []) ++
      if s.publishesEvents then ["publisher"] else []
    cached := s.hasCache }

def requirements (repos : List RepoWiring) (services : List Model.Service) : Requirements :=
  { sql := services.any (fun s => s.requires.sql) || repos.any fun r => r.storage == "sql"
    mongo := services.any (fun s => s.requires.mongo) || repos.any fun r => r.storage == "mongo"
    redis := services.any fun s => s.requires.redis
    nats := services.any fun s => s.requires.nats
    s3 := services.any fun s => s.requires.s3 }

structure ServerPage where
  /-- The service that the command is for; none if it is for all. -/
  owner : Option String
  services : List Model.Service
  endpoints : List Model.Endpoint
  repos : List RepoWiring
  wiring : List ServiceWiring
  requires : Requirements
  publisher : Bool
  wsServices : List String
  wsEvents : Dict (List String)
  events : List Model.Event
  auth : Option Model.AuthInfo
  authOwner : Bool
  hasCache : Bool
  schedules : List Schedule
  imports : Imports

def ServerPage.toJson (h : Header) (p : ServerPage) : Json := h.told
  [("service", .ofOption .str p.owner), ("services", .arr (p.services.map Model.Service.toJson)),
    ("endpoints", .arr (p.endpoints.map Model.Endpoint.toJson)),
    ("repos", .arr (p.repos.map RepoWiring.toJson)),
    ("wiring", .arr (p.wiring.map ServiceWiring.toJson)), ("requires", p.requires.toJson),
    ("publisher", .bool p.publisher), ("ws_services", .strs p.wsServices),
    ("ws_events", .obj (p.wsEvents.map fun (k, v) => (k, .strs v))),
    ("events", .arr (p.events.map Model.Event.toJson)),
    ("auth", .ofOption Model.AuthInfo.toJson p.auth), ("auth_owner", .bool p.authOwner),
    ("has_cache", .bool p.hasCache), ("schedules", .arr (p.schedules.map Schedule.toJson)),
    ("imports", p.imports.toJson)]

def schedulesInput (services : List Model.Service) (schedule : Schedule) : Bool :=
  (services.filter fun s => s.name == schedule.service).any fun s =>
    match s.method? schedule.action with
    | some m => m.input.isSome
    | none => false

def serverImports (h : Header) (services : List Model.Service) (repos : List RepoWiring)
    (schedules : List Schedule) : Imports :=
  .ofPaths (["context", "log/slog", "os", "os/signal", "syscall", h.package "internal/platform",
      h.package "internal/transport/http"] ++
    (if services.isEmpty then [] else [h.package "internal/service"]) ++
    (if schedules.any (schedulesInput services) then [h.package "internal/port"] else []) ++
    (if repos.any fun r => r.storage == "mongo" then
      [h.package "internal/adapter/repository/mongo"] else []) ++
    if repos.any fun r => r.storage != "mongo" then
      [h.package "internal/adapter/repository/memory"] else [])

/-- The command with these services, which serves what belongs to them and nothing else. -/
def serverPage (h : Header) (model : Model) (owner : Option String)
    (services : List Model.Service) : ServerPage :=
  let serves (name : String) : Bool := services.any fun s => s.name == name
  let repos := repoWirings model services
  let schedules := model.schedules.filter fun s => serves s.service
  { owner
    services
    endpoints := model.endpoints.filter fun e => serves e.service
    repos
    wiring := services.map (serviceWiring repos)
    requires := requirements repos services
    publisher := services.any Model.Service.publishesEvents
    wsServices := model.wsServices.filter serves
    wsEvents := model.wsEventMap.filter fun (s, _) => serves s
    events := model.events
    auth := model.auth
    authOwner := match owner, model.auth with
      | _, none => false
      | none, some _ => true
      | some name, some auth => auth.service == name
    hasCache := services.any Model.Service.hasCache
    schedules
    imports := serverImports h services repos schedules }

def orderedServices (model : Model) : List Model.Service := model.order.filterMap model.service?

def servers (h : Header) (layout : Layout) (model : Model) : List (String × ServerPage) :=
  let services := orderedServices model
  match layout with
  | .monolith => [("cmd/server/main.go", serverPage h model none services)]
  | .microservices => services.map fun s =>
    ("cmd/services/" ++ fileStem s.name ++ "/main.go", serverPage h model (some s.name) [s])

def serviceMains (h : Header) (layout : Layout) (model : Model) : List Artifact :=
  (servers h layout model).map fun (path, page) =>
    { path, template := Family.serviceMain.template, kit := .shared, given := page.toJson h }

end GoScaffold.Artifact
