import GoScaffold.Schema.Basic

/-! The JSON form of schemas. Every record has all its keys, in order of declaration; what is absent
is `null`. -/

namespace GoScaffold

def TypeKind.name : TypeKind → String
  | .string => "string"
  | .int => "int"
  | .int64 => "int64"
  | .float => "float"
  | .bool => "bool"
  | .time => "time"
  | .uuid => "uuid"
  | .json => "json"
  | .any => "any"
  | .list => "list"
  | .map => "map"
  | .entity => "entity"
  | .enum => "enum"
  | .file => "file"
  | .unknown => "unknown"

def Constraints.toJson (c : Constraints) : Json := .obj
  [("min", .ofOption .ofFloat c.min), ("max", .ofOption .ofFloat c.max),
    ("minLen", .ofOption .int c.minLen), ("maxLen", .ofOption .int c.maxLen),
    ("regex", .str c.regex), ("enum", .strs c.values)]

def Attribute.toJson (a : Attribute) : Json := .obj [("name", .str a.name), ("args", .obj a.args)]

mutual

def TypeRef.toJson : TypeRef → Json
  | ⟨kind, name, item, key, inlineFields⟩ => .obj
    [("kind", .str kind.name), ("name", .str name), ("itemType", optionalTypeJson item),
      ("keyType", optionalTypeJson key), ("inlineFields", .arr (fieldsJson inlineFields))]

def Field.toJson : Field → Json
  | ⟨name, type, optional, default, isSecret, isPersonal, skipDomain, validateTag, envVar,
      constraints, attributes, ui, metadata, source⟩ => .obj
    [("name", .str name), ("type", type.toJson), ("optional", .bool optional),
      ("default", default.getD .null), ("isSecret", .bool isSecret), ("isPII", .bool isPersonal),
      ("skipDomain", .bool skipDomain), ("validateTag", .str validateTag), ("envVar", .str envVar),
      ("constraints", .ofOption Constraints.toJson constraints),
      ("attributes", .arr (attributes.map Attribute.toJson)), ("ui", ui.getD .null),
      ("metadata", .obj metadata), ("source", .str source)]

def optionalTypeJson : Option TypeRef → Json
  | none => .null
  | some t => t.toJson

def fieldsJson : List Field → List Json
  | [] => []
  | f :: rest => f.toJson :: fieldsJson rest

end

def StateMachine.toJson (m : StateMachine) : Json := .obj
  [("field", .str m.field), ("states", .strs m.states),
    ("transitions", .obj (m.transitions.map fun (k, v) => (k, .strs v)))]

def Index.toJson (i : Index) : Json := .obj
  [("fields", .strs i.fields), ("unique", .bool i.unique), ("name", .str i.name)]

def Entity.toJson (e : Entity) : Json := .obj
  [("name", .str e.name), ("description", .str e.description), ("owner", .str e.owner),
    ("fields", .arr (fieldsJson e.fields)), ("metadata", .obj e.metadata),
    ("indexes", .arr (e.indexes.map Index.toJson)), ("ui", e.ui.getD .null),
    ("fsm", .ofOption StateMachine.toJson e.machine), ("source", .str e.source)]

def Source.toJson (s : Source) : Json := .obj
  [("name", .str s.name), ("kind", .str s.kind), ("entity", .str s.entity),
    ("collection", .str s.collection)]

def Pagination.toJson (p : Pagination) : Json := .obj
  [("type", .str p.kind), ("defaultLimit", .int p.defaultLimit), ("maxLimit", .int p.maxLimit)]

def Snippet.toJson (s : Snippet) : Json := .obj
  [("lang", .str s.lang), ("code", .str s.code), ("imports", .strs s.imports),
    ("requiresTx", .bool s.requiresTx)]

mutual

def FlowStep.toJson : FlowStep → Json
  | ⟨action, params, args, steps, ifNew, ifExists, thenSteps, elseSteps, cases, defaultSteps⟩ =>
    .obj [("action", .str action), ("params", .strs params), ("args", .obj args),
      ("steps", .arr (stepsJson steps)), ("ifNew", .arr (stepsJson ifNew)),
      ("ifExists", .arr (stepsJson ifExists)), ("then", .arr (stepsJson thenSteps)),
      ("else", .arr (stepsJson elseSteps)), ("cases", .obj (caseStepsJson cases)),
      ("default", .arr (stepsJson defaultSteps))]

def stepsJson : List FlowStep → List Json
  | [] => []
  | s :: rest => s.toJson :: stepsJson rest

def caseStepsJson : List (String × List FlowStep) → List (String × Json)
  | [] => []
  | (label, steps) :: rest => (label, .arr (stepsJson steps)) :: caseStepsJson rest

end

def Method.toJson (m : Method) : Json := .obj
  [("name", .str m.name), ("description", .str m.description),
    ("input", .ofOption Entity.toJson m.input), ("output", .ofOption Entity.toJson m.output),
    ("sources", .arr (m.sources.map Source.toJson)), ("flow", .arr (stepsJson m.flow)),
    ("impl", .ofOption Snippet.toJson m.impl),
    ("pagination", .ofOption Pagination.toJson m.pagination), ("cacheTTL", .str m.cacheTTL),
    ("cacheTags", .strs m.cacheTags), ("throws", .strs m.throws),
    ("publishes", .strs m.publishes), ("broadcasts", .strs m.broadcasts),
    ("idempotent", .bool m.idempotent), ("dedupeKey", .str m.dedupeKey),
    ("outbox", .bool m.outbox), ("metadata", .obj m.metadata), ("source", .str m.source)]

def Requirements.toJson (r : Requirements) : Json := .obj
  [("sql", .bool r.sql), ("mongo", .bool r.mongo), ("redis", .bool r.redis),
    ("nats", .bool r.nats), ("s3", .bool r.s3)]

def Service.toJson (s : Service) : Json := .obj
  [("name", .str s.name), ("description", .str s.description),
    ("methods", .arr (s.methods.map Method.toJson)), ("publishes", .strs s.publishes),
    ("subscribes", .obj (s.subscribes.map fun (k, v) => (k, .str v))), ("uses", .strs s.uses),
    ("requires", s.requires.toJson), ("metadata", .obj s.metadata), ("source", .str s.source)]

def Event.toJson (e : Event) : Json := .obj
  [("name", .str e.name), ("fields", .arr (fieldsJson e.fields)), ("metadata", .obj e.metadata),
    ("source", .str e.source)]

def BusinessError.toJson (e : BusinessError) : Json := .obj
  [("name", .str e.name), ("code", .int e.code), ("httpStatus", .int e.httpStatus),
    ("message", .str e.message)]

def EndpointAuth.toJson (a : EndpointAuth) : Json := .obj
  [("type", .str a.kind), ("permission", .str a.permission), ("roles", .strs a.roles),
    ("check", .strs a.check), ("inject", .strs a.inject)]

def RateLimit.toJson (r : RateLimit) : Json := .obj [("rps", .int r.rps), ("burst", .int r.burst)]

def CircuitBreaker.toJson (c : CircuitBreaker) : Json := .obj
  [("threshold", .int c.threshold), ("timeout", .str c.timeout),
    ("halfOpenMax", .int c.halfOpenMax)]

def Retry.toJson (r : Retry) : Json := .obj
  [("attempts", .int r.attempts), ("backoff", .str r.backoff)]

def TestHints.toJson (h : TestHints) : Json := .obj
  [("happyPath", .str h.happyPath), ("errorCases", .strs h.errorCases)]

def Endpoint.toJson (e : Endpoint) : Json := .obj
  [("method", .str e.method), ("path", .str e.path), ("service", .str e.service),
    ("rpc", .str e.rpc), ("description", .str e.description), ("messages", .strs e.messages),
    ("roomParam", .str e.roomParam), ("auth", .ofOption EndpointAuth.toJson e.auth),
    ("rateLimit", .ofOption RateLimit.toJson e.rateLimit),
    ("circuitBreaker", .ofOption CircuitBreaker.toJson e.circuitBreaker),
    ("retry", .ofOption Retry.toJson e.retry),
    ("pagination", .ofOption Pagination.toJson e.pagination), ("cache", .str e.cache),
    ("cacheTags", .strs e.cacheTags), ("invalidate", .strs e.invalidate),
    ("timeout", .str e.timeout), ("errors", .strs e.errors),
    ("testHints", .ofOption TestHints.toJson e.testHints), ("metadata", .obj e.metadata)]

def Condition.toJson (c : Condition) : Json := .obj
  [("field", .str c.field), ("op", .str c.op), ("param", .str c.param),
    ("paramType", .str c.paramType)]

def Finder.toJson (f : Finder) : Json := .obj
  [("name", .str f.name), ("action", .str f.action), ("returns", .str f.returns),
    ("returnType", .str f.returnType), ("where", .arr (f.conditions.map Condition.toJson)),
    ("orderBy", .str f.orderBy), ("limit", .int f.limit), ("forUpdate", .bool f.forUpdate),
    ("customSQL", .str f.customSQL), ("source", .str f.source)]

def Repository.toJson (r : Repository) : Json := .obj
  [("name", .str r.name), ("entity", .str r.entity),
    ("finders", .arr (r.finders.map Finder.toJson)), ("source", .str r.source)]

def Auth.toJson (a : Auth) : Json := .obj
  [("type", .str a.kind), ("service", .str a.service), ("issuer", .str a.issuer),
    ("accessTtl", .str a.accessTtl), ("refreshTtl", .str a.refreshTtl)]

def Schedule.toJson (s : Schedule) : Json := .obj
  [("name", .str s.name), ("service", .str s.service), ("action", .str s.action),
    ("at", .str s.atTime), ("every", .str s.every), ("publish", .str s.publish)]

def Project.toJson (p : Project) : Json := .obj
  [("name", .str p.name), ("version", .str p.version)]

def Schema.toJson (s : Schema) : Json := .obj
  [("irVersion", .str s.version), ("project", s.project.toJson),
    ("entities", .arr (s.entities.map Entity.toJson)),
    ("services", .arr (s.services.map Service.toJson)),
    ("events", .arr (s.events.map Event.toJson)),
    ("errors", .arr (s.errors.map BusinessError.toJson)),
    ("endpoints", .arr (s.endpoints.map Endpoint.toJson)),
    ("repos", .arr (s.repos.map Repository.toJson)), ("auth", .ofOption Auth.toJson s.auth),
    ("schedules", .arr (s.schedules.map Schedule.toJson)), ("metadata", .obj s.metadata)]

end GoScaffold
