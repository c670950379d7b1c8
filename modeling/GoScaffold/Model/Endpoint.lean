import GoScaffold.Model.Service

/-! Endpoints: what kind of request they take, and the room that a websocket delivers to. -/

namespace GoScaffold.Model

inductive EndpointKind where
  | list | get | create | update | delete | action | other
deriving DecidableEq

def EndpointKind.name : EndpointKind → String
  | .list => "list"
  | .get => "get"
  | .create => "create"
  | .update => "update"
  | .delete => "delete"
  | .action => "action"
  | .other => "other"

def actsOnParam (path : String) : Bool :=
  match (Text.split '/' path).reverse with
  | _ :: before :: _ => Text.startsWith before "\x7b"
  | _ => false

def EndpointKind.of (method path : String) : EndpointKind :=
  let endsInParam := Text.endsWith path "\x7d"
  if method = "POST" && !endsInParam && actsOnParam path then .action
  else match endsInParam, method with
    | true, "GET" => .get
    | true, "PATCH" | true, "PUT" => .update
    | true, "DELETE" => .delete
    | false, "GET" => .list
    | false, "POST" => .create
    | _, _ => .other

def isParamChar (c : Char) : Bool := c.isAlphanum || c == '_'

def pathParamChars : List Char → List (List Char)
  | [] => []
  | c :: rest =>
    let name := rest.takeWhile isParamChar
    if c = '\x7b' && !name.isEmpty && (rest.dropWhile isParamChar).head? = some '\x7d' then
      name :: pathParamChars rest
    else pathParamChars rest

def pathParams (path : String) : List String := (pathParamChars path.toList).map String.ofList

structure Endpoint where
  declared : GoScaffold.Endpoint
  /-- The Go name of the field that tells a websocket's rooms apart; empty if there is none. -/
  roomField : String := ""
deriving Inhabited

namespace Endpoint

def method (e : Endpoint) : String := e.declared.method

def path (e : Endpoint) : String := e.declared.path

def service (e : Endpoint) : String := e.declared.service

def rpc (e : Endpoint) : String := e.declared.rpc

def isWs (e : Endpoint) : Bool := e.method == "WS"

def pathParams (e : Endpoint) : List String := Model.pathParams e.path

def kind (e : Endpoint) : EndpointKind := .of e.method e.path

def sortKey (e : Endpoint) : List String := [e.service, e.path, e.method, e.rpc]

def toJson (e : Endpoint) : Json := .obj
  [("method", .str e.method), ("path", .str e.path), ("service", .str e.service),
    ("rpc", .str e.rpc), ("description", .str e.declared.description),
    ("messages", .strs e.declared.messages), ("room_param", .str e.declared.roomParam),
    ("room_field", .str e.roomField), ("auth", .ofOption EndpointAuth.toJson e.declared.auth),
    ("rate_limit", .ofOption RateLimit.toJson e.declared.rateLimit),
    ("circuit_breaker", .ofOption CircuitBreaker.toJson e.declared.circuitBreaker),
    ("retry", .ofOption Retry.toJson e.declared.retry),
    ("pagination", .ofOption Pagination.toJson e.declared.pagination),
    ("cache", .str e.declared.cache), ("cache_tags", .strs e.declared.cacheTags),
    ("invalidate", .strs e.declared.invalidate), ("timeout", .str e.declared.timeout),
    ("errors", .strs e.declared.errors),
    ("test_hints", .ofOption TestHints.toJson e.declared.testHints),
    ("metadata", .obj e.declared.metadata), ("path_params", .strs e.pathParams),
    ("is_ws", .bool e.isWs), ("kind", .str e.kind.name)]

end Endpoint

def inputOf (services : List Service) (service rpc : String) : Option Entity := do
  let s ← services.find? fun s => s.name == service
  let m ← s.method? rpc
  m.input

/-- The field that tells the rooms of a websocket apart: the declared one, else the first parameter
of the path, else the user if the input names one. -/
def roomFieldOf (services : List Service) (e : GoScaffold.Endpoint) : String :=
  let room :=
    if e.roomParam.isEmpty then (pathParams e.path).headD "" else e.roomParam
  if !room.isEmpty then Name.exported room
  else match inputOf services e.service e.rpc with
    | some input => if (input.field? "userId").isSome then "UserID" else ""
    | none => ""

def ofEndpoint (services : List Service) (e : GoScaffold.Endpoint) : Endpoint :=
  let method := Text.upper e.method
  { declared := { e with method }
    roomField := if method = "WS" then roomFieldOf services e else "" }

def keyLe : List String → List String → Bool
  | [], _ => true
  | _ :: _, [] => false
  | a :: as, b :: bs => if a = b then keyLe as bs else decide (a ≤ b)

end GoScaffold.Model
