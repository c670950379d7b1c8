import GoScaffold.Model.Endpoint
import GoScaffold.Model.Repository

/-! The model of a schema: all that artifacts are made from, with types and references resolved and
every list in a fixed order. Nothing is rejected here. -/

namespace GoScaffold

structure Model.AuthInfo where
  kind : String := ""
  service : String := ""
  issuer : String := ""
deriving DecidableEq

structure Model where
  project : Project := {}
  entities : List Model.Entity := []
  services : List Model.Service := []
  events : List Model.Event := []
  errors : List BusinessError := []
  endpoints : List Model.Endpoint := []
  repos : List Model.Repository := []
  schedules : List Schedule := []
  auth : Option Model.AuthInfo := none
deriving Inhabited

namespace Model

def entity? (m : Model) (name : String) : Option Entity := m.entities.find? fun e => e.name == name

def service? (m : Model) (name : String) : Option Service :=
  m.services.find? fun s => s.name == name

def isDto (m : Model) (name : String) : Bool := ((m.entity? name).map Entity.isDto).getD false

def storageOfEntity (m : Model) (name : String) : String :=
  ((m.entity? name).map Entity.storage).getD defaultStorage

def hasMongoEntities (m : Model) : Bool := m.entities.any fun e => !e.isDto && e.storage == "mongo"

def order (m : Model) : List String := serviceOrder (m.services.map Service.dependent)

def wsServices (m : Model) : List String :=
  sortedSet ((m.endpoints.filter Endpoint.isWs).map Endpoint.service)

def wsEvents (m : Model) (service : String) : List String :=
  sortedSet ((m.endpoints.filter fun e => e.isWs && e.service == service).flatMap fun e =>
    e.declared.messages)

def wsEventMap (m : Model) : Dict (List String) := m.wsServices.map fun s => (s, m.wsEvents s)

def AuthInfo.toJson (a : AuthInfo) : Json := .obj
  [("kind", .str a.kind), ("service", .str a.service), ("issuer", .str a.issuer)]

def errorJson (e : BusinessError) : Json := .obj
  [("name", .str e.name), ("code", .int e.code), ("http_status", .int e.httpStatus),
    ("message", .str e.message)]

def toJson (m : Model) : Json := .obj
  [("project", m.project.toJson), ("entities", .arr (m.entities.map Entity.toJson)),
    ("services", .arr (m.services.map Service.toJson)),
    ("events", .arr (m.events.map Event.toJson)), ("errors", .arr (m.errors.map errorJson)),
    ("endpoints", .arr (m.endpoints.map Endpoint.toJson)),
    ("repos", .arr (m.repos.map Repository.toJson)),
    ("schedules", .arr (m.schedules.map Schedule.toJson)),
    ("auth", .ofOption AuthInfo.toJson m.auth), ("service_order", .strs m.order),
    ("ws_services", .strs m.wsServices),
    ("ws_event_map", .obj (m.wsEventMap.map fun (k, v) => (k, .strs v)))]

end Model

def Model.ofSchema (schema : Schema) : Model :=
  let entities := Model.sortOn Model.Entity.name (schema.entities.map Model.ofEntity)
  let services := Model.sortOn Model.Service.name
    (schema.services.map (Model.ofService (Model.dtoNames entities)))
  { project := schema.project
    entities
    services
    events := Model.sortOn Model.Event.name (schema.events.map Model.ofEvent)
    errors := Model.sortOn BusinessError.name schema.errors
    endpoints := (schema.endpoints.map (Model.ofEndpoint services)).mergeSort fun a b =>
      Model.keyLe a.sortKey b.sortKey
    repos := Model.sortOn Model.Repository.name (schema.repos.map (Model.ofRepository entities))
    schedules := Model.sortOn Schedule.name schema.schedules
    auth := schema.auth.map fun a => { kind := a.kind, service := a.service, issuer := a.issuer } }

end GoScaffold
