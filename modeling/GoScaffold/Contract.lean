import GoScaffold.Json.Printer
import GoScaffold.Model.Projection

/-! Contract tests: for every endpoint a minimal request that its validation rules accept. -/

namespace GoScaffold.Contract

def sampleTime : String := "2026-01-01T00:00:00Z"

/-- Fields that a body has even if they are optional, by their names in lower case. -/
def forcedFields : List String := ["companyname", "password"]

structure Rules where
  required : Bool := false
  email : Bool := false
  url : Bool := false
  min : Option Binary64 := none
  gte : Option Binary64 := none

def Rules.add (r : Rules) (part : String) : Rules :=
  match part with
  | "required" => { r with required := true }
  | "email" => { r with email := true }
  | "url" => { r with url := true }
  | _ =>
    match Text.breakOn ['='] part.toList with
    | none => r
    | some (key, value) =>
      match Binary64.parse? (Text.trim (String.ofList value)), Text.trim (String.ofList key) with
      | some bound, "min" => { r with min := some bound }
      | some bound, "gte" => { r with gte := some bound }
      | _, _ => r

def Rules.ofTag (tag : String) : Rules :=
  (((Text.split ',' tag).map Text.trim).filter (!·.isEmpty)).foldl Rules.add {}

def Rules.ofField (f : Model.Field) : Rules :=
  .ofTag (if f.binding.isEmpty then f.validateTag else f.binding)

def Rules.lowerBound (r : Rules) : Binary64 :=
  [r.min, r.gte].foldl (fun bound x => match x with
    | some x => bound.max x
    | none => bound) (.ofNat 1)

def isTimeName (lower : String) : Bool := Text.endsWith lower "at"

/-- Names of fields that do not belong to the body: parameters of the path and what is filled from
the caller's identity, in lower case. -/
def excludedFields (e : Model.Endpoint) : List String :=
  let injected := (e.declared.auth.map EndpointAuth.inject).getD []
  (e.pathParams ++ injected).map Text.lower

def hasRequired (fields : List Model.Field) (exclude : List String) : Bool :=
  fields.any fun f =>
    !exclude.contains (Text.lower f.name) && (!f.optional || (Rules.ofField f).required)

def sampleValue (f : Model.Field) (rules : Rules) : Json :=
  let lower := Text.lower f.name
  if rules.email then .str "user@example.com"
  else if rules.url then .str "https://example.com"
  else if isTimeName lower then .str sampleTime
  else match f.goType with
    | "string" => match lower with
      | "password" => .str "test1234"
      | "companyname" => .str "Test Company"
      | _ => .str "test"
    | "int" | "int64" => .int rules.lowerBound.toInt64
    | "float64" => .ofFloat rules.lowerBound
    | "bool" => .bool true
    | "time.Time" => .str sampleTime
    | type =>
      if Text.startsWith type "map[" then .obj []
      else if Text.startsWith type "[]" then .arr []
      else .obj []

def isIncluded (exclude : List String) (f : Model.Field) : Bool :=
  let lower := Text.lower f.name
  !exclude.contains lower &&
    (!f.optional || (Rules.ofField f).required || forcedFields.contains lower)

/-- A minimal body: the fields that must be there, under their names in lower case. The value of a
single field stands for itself. -/
def minimalBody (fields : List Model.Field) (exclude : List String) : Json :=
  match fields.filter (isIncluded exclude) with
  | [f] => sampleValue f (Rules.ofField f)
  | included => .obj (Dict.ofEntries (included.map fun f =>
      (Text.lower f.name, sampleValue f (Rules.ofField f))))

/-- A number in a query: six places, without zeros at their end. -/
def queryNumber (x : Binary64) : String :=
  let trimmed := ((x.toFixed 6).toList.reverse.dropWhile (· == '0')).dropWhile (· == '.')
  String.ofList trimmed.reverse

def queryPart? (exclude : List String) (f : Model.Field) : Option String :=
  let lower := Text.lower f.name
  let rules := Rules.ofField f
  if exclude.contains lower || (f.optional && !rules.required) then none
  else if rules.email then some (lower ++ "=user@example.com")
  else if rules.url then some (lower ++ "=https%3A%2F%2Fexample.com")
  else match f.goType with
    | "string" => some (lower ++ "=test")
    | "int" | "int64" => some (lower ++ "=" ++ toString rules.lowerBound.toInt64)
    | "float64" => some (lower ++ "=" ++ queryNumber rules.lowerBound)
    | "bool" => some (lower ++ "=true")
    | _ => none

def pageParts (p : Pagination) : List String :=
  ("limit=" ++ toString (if 0 < p.defaultLimit then p.defaultLimit else 10)) ::
    if p.kind = "offset" then ["offset=0"] else []

def minimalQuery (fields : List Model.Field) (e : Model.Endpoint) (exclude : List String) :
    String :=
  let page := (e.declared.pagination.map pageParts).getD []
  let parts := fields.filterMap (queryPart? exclude) ++ page
  if parts.isEmpty then "" else "?" ++ Text.join "&" parts

structure Case where
  name : String
  endpoint : Model.Endpoint
  hasInput : Bool
  hasRequired : Bool
  body : String
  query : String

namespace Case

def hasBody (c : Case) : Bool := c.hasInput && c.endpoint.method != "GET" && !c.endpoint.isWs

def hasAuth (c : Case) : Bool :=
  match c.endpoint.declared.auth with
  | some auth => Text.sameLetters auth.kind "jwt"
  | none => false

def toJson (c : Case) : Json := .obj
  [("name", .str c.name), ("method", .str c.endpoint.method), ("path", .str c.endpoint.path),
    ("service", .str c.endpoint.service), ("rpc", .str c.endpoint.rpc),
    ("is_ws", .bool c.endpoint.isWs), ("has_input", .bool c.hasInput),
    ("has_required", .bool c.hasRequired), ("has_body", .bool c.hasBody),
    ("body_json", .str c.body), ("query", .str c.query), ("has_auth", .bool c.hasAuth),
    ("path_params", .strs c.endpoint.pathParams)]

def of (model : Model) (name : String) (e : Model.Endpoint) : Case :=
  match Model.inputOf model.services e.service e.rpc with
  | none =>
    { name, endpoint := e, hasInput := false, hasRequired := false, body := "", query := "" }
  | some input =>
    let exclude := excludedFields e
    { name
      endpoint := e
      hasInput := true
      hasRequired := Contract.hasRequired input.fields exclude
      body := (minimalBody input.fields exclude).compact
      query := minimalQuery input.fields e exclude }

end Case

def baseName (e : Model.Endpoint) : String :=
  Name.exported e.service ++ Name.exported e.rpc ++ Name.exported (Text.lower e.method)

/-- Numbers the repetitions of a name: the second one gets a `2`. `seen` are the names so far. -/
def numbered (seen : List String) : List String → List String
  | [] => []
  | name :: rest =>
    let count := seen.count name
    (if count = 0 then name else name ++ toString (count + 1)) :: numbered (name :: seen) rest

structure Route where
  method : String := ""
  path : String := ""

/-- The routes of an operation; of several the last counts. -/
def routeOf (model : Model) (rpc : String) : Route :=
  match (model.endpoints.filter fun e => e.rpc == rpc).getLast? with
  | some e => { method := e.method, path := e.path }
  | none => {}

structure AuthRoutes where
  register : Route := {}
  login : Route := {}
  refresh : Route := {}

namespace AuthRoutes

def isEmpty (a : AuthRoutes) : Bool := a.login.path.isEmpty && a.register.path.isEmpty

def toJson (a : AuthRoutes) : Json := .obj
  [("register_method", .str a.register.method), ("register_path", .str a.register.path),
    ("login_method", .str a.login.method), ("login_path", .str a.login.path),
    ("refresh_method", .str a.refresh.method), ("refresh_path", .str a.refresh.path)]

end AuthRoutes

structure Suite where
  cases : List Case
  auth : AuthRoutes

def suite (model : Model) : Suite :=
  { cases := List.zipWith (Case.of model) (numbered [] (model.endpoints.map baseName))
      model.endpoints
    auth :=
      { register := routeOf model "RegisterUser"
        login := routeOf model "LoginUser"
        refresh := routeOf model "RefreshToken" } }

def Suite.toJson (s : Suite) : Json := .obj
  [("cases", .arr (s.cases.map Case.toJson)), ("auth", s.auth.toJson)]

end GoScaffold.Contract
