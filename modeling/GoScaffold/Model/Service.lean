import GoScaffold.Flow.Lowering
import GoScaffold.Model.Entity
import GoScaffold.ServiceOrder
import GoScaffold.Signature

/-! Services and their methods. -/

namespace GoScaffold.Model

/-- The values sorted by a text, those with the same text in their order. -/
def sortOn {α : Type} (key : α → String) (values : List α) : List α :=
  values.mergeSort fun a b => decide (key a ≤ key b)

def sortedSet (texts : List String) : List String := texts.eraseDups.mergeSort

structure Method where
  name : String := ""
  description : String := ""
  input : Option Entity := none
  output : Option Entity := none
  sources : List Source := []
  flow : List Step := []
  /-- The statements of the flow, if every step of it has some. -/
  flowCode : Option String := none
  implCode : String := ""
  implImports : List String := []
  requiresTx : Bool := false
  pagination : Option Pagination := none
  cacheTTL : String := ""
  cacheTags : List String := []
  throws : List String := []
  publishes : List String := []
  broadcasts : List String := []
  idempotent : Bool := false
  dedupeKey : String := ""
  outbox : Bool := false
  metadata : Metadata := []
  source : String := ""
  /-- The signature inside the package of interfaces. -/
  portSignature : MethodSignature := {}
  /-- The signature in other packages. -/
  implSignature : MethodSignature := {}
deriving Inhabited

def Method.toJson (m : Method) : Json := .obj
  [("name", .str m.name), ("description", .str m.description),
    ("input", .ofOption Entity.toJson m.input), ("output", .ofOption Entity.toJson m.output),
    ("sources", .arr (m.sources.map Source.toJson)), ("flow", .arr (Step.listJson m.flow)),
    ("flow_code", .ofOption .str m.flowCode), ("impl_code", .str m.implCode),
    ("impl_imports", .strs m.implImports), ("requires_tx", .bool m.requiresTx),
    ("pagination", .ofOption Pagination.toJson m.pagination), ("cache_ttl", .str m.cacheTTL),
    ("cache_tags", .strs m.cacheTags), ("throws", .strs m.throws),
    ("publishes", .strs m.publishes), ("broadcasts", .strs m.broadcasts),
    ("idempotent", .bool m.idempotent), ("dedupe_key", .str m.dedupeKey),
    ("outbox", .bool m.outbox), ("metadata", .obj m.metadata), ("source", .str m.source),
    ("port_signature", m.portSignature.toJson), ("impl_signature", m.implSignature.toJson)]

/-- A line of given code, fitted to a body with named results. The results are declared already, so
a line that declares one is dropped, and one that declares and sets it only sets it. -/
def fitLine (output : Option String) (line : String) : Option String :=
  let trimmed := Text.trim line
  if trimmed = "var err error" then none
  else
    let line :=
      if Text.startsWith trimmed "err := " then Text.replaceFirst line "err :=" "err =" else line
    some (if output.isSome && Text.startsWith trimmed "resp := port." then
        Text.replaceFirst line "resp :=" "resp ="
      else line)

def dropDeclaration (output : Option String) (lines : List String) : List String :=
  match output with
  | none => lines
  | some name => lines.eraseP fun line => Text.trim line == "var resp port." ++ name

def fitCode (code : String) (output : Option String) : String :=
  let cleaned := String.ofList (code.toList.dropWhile (· == '\n'))
  if Text.isBlankText cleaned then ""
  else Text.trimEnd (Text.join "\n"
    ((dropDeclaration output (Text.lines cleaned)).filterMap (fitLine output)))

def fitImports (imports : List String) : List String :=
  let cleaned := (imports.map fun i => Text.stripChar '"' (Text.trim i)).filter (!·.isEmpty)
  sortedSet (cleaned.map fun
    | "http" => "net/http"
    | "uuid" => "github.com/google/uuid"
    | i => i)

def named (e : Option GoScaffold.Entity) : Option Entity :=
  (e.filter fun e => !e.name.isEmpty).map ofEntity

def ofMethod (m : GoScaffold.Method) : Method :=
  let flow := normalizeSteps m.flow
  let output := named m.output
  { name := m.name
    description := m.description
    input := named m.input
    output
    sources := m.sources
    flow
    flowCode :=
      if !flow.isEmpty && Flow.renderable flow then some (Flow.render flow output.isSome) else none
    implCode := match m.impl with
      | some snippet => fitCode snippet.code (output.map Entity.name)
      | none => ""
    implImports := match m.impl with
      | some snippet => fitImports snippet.imports
      | none => []
    requiresTx := (m.impl.map Snippet.requiresTx).getD false || Flow.containsTx flow
    pagination := m.pagination
    cacheTTL := m.cacheTTL
    cacheTags := m.cacheTags
    throws := m.throws
    publishes := m.publishes
    broadcasts := m.broadcasts
    idempotent := m.idempotent
    dedupeKey := m.dedupeKey
    outbox := m.outbox
    metadata := m.metadata
    source := m.source
    portSignature := .ofMethod "" m
    implSignature := .ofMethod "port." m }

structure Subscription where
  event : String
  handler : String
deriving DecidableEq

def Subscription.toJson (s : Subscription) : Json := .obj
  [("event", .str s.event), ("handler", .str s.handler)]

structure Service where
  name : String := ""
  description : String := ""
  methods : List Method := []
  publishes : List String := []
  subscribes : List Subscription := []
  uses : List String := []
  requires : Requirements := {}
  metadata : Metadata := []
  source : String := ""
  repoEntities : List String := []
deriving Inhabited

namespace Service

def needsTx (s : Service) : Bool := s.methods.any Method.requiresTx

def publishesEvents (s : Service) : Bool := s.methods.any fun m => Flow.publishesEvents m.flow

def hasCache (s : Service) : Bool := s.methods.any fun m => !m.cacheTTL.isEmpty

def method? (s : Service) (name : String) : Option Method := s.methods.find? fun m => m.name == name

def dependent (s : Service) : Dependent := { name := s.name, uses := s.uses }

def toJson (s : Service) : Json := .obj
  [("name", .str s.name), ("description", .str s.description),
    ("methods", .arr (s.methods.map Method.toJson)), ("publishes", .strs s.publishes),
    ("subscribes", .arr (s.subscribes.map Subscription.toJson)), ("uses", .strs s.uses),
    ("requires", s.requires.toJson), ("metadata", .obj s.metadata), ("source", .str s.source),
    ("needs_tx", .bool s.needsTx), ("publishes_events", .bool s.publishesEvents),
    ("repo_entities", .strs s.repoEntities), ("has_cache", .bool s.hasCache)]

end Service

def methodEntities (m : Method) : List String :=
  ((m.sources.filter fun s => !s.entity.isEmpty).map fun s =>
      Name.exported (Name.exported s.entity)) ++
    (Flow.repoSources m.flow).map Name.exported

def ofService (dtoNames : List String) (s : GoScaffold.Service) : Service :=
  let methods := sortOn Method.name (s.methods.map ofMethod)
  { name := s.name
    description := s.description
    methods
    publishes := s.publishes
    subscribes := s.subscribes.map fun (event, handler) => { event, handler }
    uses := s.uses
    requires := s.requires
    metadata := s.metadata
    source := s.source
    repoEntities := sortedSet ((methods.flatMap methodEntities).filter (!dtoNames.contains ·)) }

end GoScaffold.Model
