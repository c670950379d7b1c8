import GoScaffold.Json.Basic

/-! Schemas: what a backend consists of, as its authors describe it. Every part of a description may
be left out, and then is empty. -/

namespace GoScaffold

abbrev Metadata := Dict Json

inductive TypeKind where
  | string | int | int64 | float | bool | time | uuid | json | any | list | map | entity | enum
  | file | unknown
deriving DecidableEq, Inhabited

structure Constraints where
  min : Option Binary64 := none
  max : Option Binary64 := none
  minLen : Option Int := none
  maxLen : Option Int := none
  regex : String := ""
  values : List String := []

structure Attribute where
  name : String := ""
  args : Dict Json := []

mutual

/-- A type. Lists have an item type or the fields of their items; maps have a key type and an item
type; entities have a name. -/
structure TypeRef where
  kind : TypeKind
  name : String
  item : Option TypeRef
  key : Option TypeRef
  inlineFields : List Field

structure Field where
  name : String
  type : TypeRef
  optional : Bool
  default : Option Json
  isSecret : Bool
  isPersonal : Bool
  /-- The field is for input only and no part of the transferred data. -/
  skipDomain : Bool
  validateTag : String
  envVar : String
  constraints : Option Constraints
  attributes : List Attribute
  ui : Option Json
  metadata : Metadata
  source : String

end

def TypeRef.any : TypeRef :=
  { kind := .any, name := "", item := none, key := none, inlineFields := [] }

instance : Inhabited TypeRef := ⟨.any⟩

def Field.blank : Field :=
  { name := "", type := .any, optional := false, default := none, isSecret := false
    isPersonal := false, skipDomain := false, validateTag := "", envVar := "", constraints := none
    attributes := [], ui := none, metadata := [], source := "" }

instance : Inhabited Field := ⟨.blank⟩

structure StateMachine where
  field : String := ""
  states : List String := []
  transitions : Dict (List String) := []

structure Index where
  fields : List String := []
  unique : Bool := false
  name : String := ""

structure Entity where
  name : String := ""
  description : String := ""
  owner : String := ""
  fields : List Field := []
  metadata : Metadata := []
  indexes : List Index := []
  ui : Option Json := none
  machine : Option StateMachine := none
  source : String := ""
deriving Inhabited

structure Source where
  name : String := ""
  kind : String := ""
  entity : String := ""
  collection : String := ""

structure Pagination where
  kind : String := ""
  defaultLimit : Int := 0
  maxLimit : Int := 0

structure Snippet where
  lang : String := ""
  code : String := ""
  imports : List String := []
  requiresTx : Bool := false

structure FlowStep where
  action : String := ""
  params : List String := []
  args : Dict Json := []
  steps : List FlowStep := []
  ifNew : List FlowStep := []
  ifExists : List FlowStep := []
  thenSteps : List FlowStep := []
  elseSteps : List FlowStep := []
  cases : List (String × List FlowStep) := []
  defaultSteps : List FlowStep := []
deriving Inhabited

structure Method where
  name : String := ""
  description : String := ""
  input : Option Entity := none
  output : Option Entity := none
  sources : List Source := []
  flow : List FlowStep := []
  impl : Option Snippet := none
  pagination : Option Pagination := none
  cacheTTL : String := ""
  cacheTags : List String := []
  throws : List String := []
  publishes : List String := []
  broadcasts : List String := []
  idempotent : Bool := false
  dedupeKey : String := ""
  outbox : Bool := false
  metadata : Metadata := []
  source : String := ""
deriving Inhabited

structure Requirements where
  sql : Bool := false
  mongo : Bool := false
  redis : Bool := false
  nats : Bool := false
  s3 : Bool := false
deriving DecidableEq

structure Service where
  name : String := ""
  description : String := ""
  methods : List Method := []
  publishes : List String := []
  subscribes : Dict String := []
  uses : List String := []
  requires : Requirements := {}
  metadata : Metadata := []
  source : String := ""
deriving Inhabited

structure Event where
  name : String := ""
  fields : List Field := []
  metadata : Metadata := []
  source : String := ""

structure BusinessError where
  name : String := ""
  code : Int := 0
  httpStatus : Int := 0
  message : String := ""

structure EndpointAuth where
  kind : String := ""
  permission : String := ""
  roles : List String := []
  check : List String := []
  /-- Input fields that are filled from the caller's identity. -/
  inject : List String := []

structure RateLimit where
  rps : Int := 0
  burst : Int := 0

structure CircuitBreaker where
  threshold : Int := 0
  timeout : String := ""
  halfOpenMax : Int := 0

structure Retry where
  attempts : Int := 0
  backoff : String := ""

structure TestHints where
  happyPath : String := ""
  errorCases : List String := []

structure Endpoint where
  method : String := ""
  path : String := ""
  service : String := ""
  rpc : String := ""
  description : String := ""
  messages : List String := []
  roomParam : String := ""
  auth : Option EndpointAuth := none
  rateLimit : Option RateLimit := none
  circuitBreaker : Option CircuitBreaker := none
  retry : Option Retry := none
  pagination : Option Pagination := none
  cache : String := ""
  cacheTags : List String := []
  invalidate : List String := []
  timeout : String := ""
  errors : List String := []
  testHints : Option TestHints := none
  metadata : Metadata := []
deriving Inhabited

structure Condition where
  field : String := ""
  op : String := ""
  param : String := ""
  paramType : String := ""
deriving DecidableEq

structure Finder where
  name : String := ""
  action : String := ""
  /-- `one`, `many`, `count` or a type expression. -/
  returns : String := ""
  returnType : String := ""
  conditions : List Condition := []
  orderBy : String := ""
  limit : Int := 0
  forUpdate : Bool := false
  customSQL : String := ""
  source : String := ""
deriving Inhabited, DecidableEq

structure Repository where
  name : String := ""
  entity : String := ""
  finders : List Finder := []
  source : String := ""
deriving Inhabited

structure Auth where
  kind : String := ""
  service : String := ""
  issuer : String := ""
  accessTtl : String := ""
  refreshTtl : String := ""

structure Schedule where
  name : String := ""
  service : String := ""
  action : String := ""
  atTime : String := ""
  every : String := ""
  publish : String := ""

structure Project where
  name : String := ""
  version : String := ""

structure Schema where
  version : String := ""
  project : Project := {}
  entities : List Entity := []
  services : List Service := []
  events : List Event := []
  errors : List BusinessError := []
  endpoints : List Endpoint := []
  repos : List Repository := []
  auth : Option Auth := none
  schedules : List Schedule := []
  metadata : Metadata := []
deriving Inhabited

end GoScaffold
