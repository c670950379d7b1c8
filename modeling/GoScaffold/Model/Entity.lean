import GoScaffold.Model.Field

/-! Entities and events with their fields resolved. -/

namespace GoScaffold.Model

def defaultStorage : String := "sql"

structure Entity where
  name : String := ""
  description : String := ""
  owner : String := ""
  fields : List Field := []
  metadata : Metadata := []
  indexes : List Index := []
  ui : Option Json := none
  machine : Option StateMachine := none
  source : String := ""
  isDto : Bool := false
  storage : String := defaultStorage
deriving Inhabited

namespace Entity

def collection (e : Entity) : String := Text.lower e.name ++ "s"

def primaryKey (e : Entity) : String :=
  match e.fields.find? fun f => f.column.primaryKey with
  | some f => f.goName
  | none => match e.fields.find? fun f => Text.sameLetters f.name "id" with
    | some f => f.goName
    | none => "ID"

def hasTime (e : Entity) : Bool := e.fields.any fun f => Text.contains f.goType "time.Time"

def hasConstraints (e : Entity) : Bool := e.fields.any fun f => f.constraints.isSome

def hasFiles (e : Entity) : Bool := e.fields.any fun f => f.file.isSome

def dtoFields (e : Entity) : List Field := e.fields.filter fun f => !f.skipDomain

def field? (e : Entity) (name : String) : Option Field :=
  e.fields.find? fun f => Text.sameLetters f.name name

def toJson (e : Entity) : Json := .obj
  [("name", .str e.name), ("description", .str e.description), ("owner", .str e.owner),
    ("fields", .arr (fieldsJson e.fields)), ("metadata", .obj e.metadata),
    ("indexes", .arr (e.indexes.map Index.toJson)), ("ui", e.ui.getD .null),
    ("fsm", .ofOption StateMachine.toJson e.machine), ("source", .str e.source),
    ("is_dto", .bool e.isDto), ("storage", .str e.storage), ("collection", .str e.collection),
    ("primary_key", .str e.primaryKey), ("has_time", .bool e.hasTime),
    ("has_constraints", .bool e.hasConstraints), ("has_files", .bool e.hasFiles)]

end Entity

def dtoNames (entities : List Entity) : List String :=
  (entities.filter Entity.isDto).map Entity.name

def storageOf (metadata : Metadata) : String :=
  match text? metadata "storage" with
  | some s => if s.isEmpty then defaultStorage else s
  | none => defaultStorage

def ofEntity (e : GoScaffold.Entity) : Entity :=
  { name := e.name
    description := e.description
    owner := e.owner
    fields := ofFields e.fields
    metadata := e.metadata
    indexes := e.indexes
    ui := e.ui
    machine := e.machine
    source := e.source
    isDto := hasFlag e.metadata "dto"
    storage := storageOf e.metadata }

structure Event where
  name : String := ""
  fields : List Field := []
  metadata : Metadata := []
  source : String := ""
deriving Inhabited

def Event.toJson (e : Event) : Json := .obj
  [("name", .str e.name), ("fields", .arr (fieldsJson e.fields)), ("metadata", .obj e.metadata),
    ("source", .str e.source)]

def ofEvent (e : GoScaffold.Event) : Event :=
  { name := e.name, fields := ofFields e.fields, metadata := e.metadata, source := e.source }

end GoScaffold.Model
