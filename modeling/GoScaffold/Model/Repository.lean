import GoScaffold.Model.Service

/-! Repositories and the methods of their interfaces. -/

namespace GoScaffold.Model

structure Finder where
  declared : GoScaffold.Finder
  signature : QuerySignature
deriving DecidableEq

def Finder.toJson (f : Finder) : Json := .obj
  [("name", .str f.declared.name), ("action", .str f.declared.action),
    ("returns", .str f.declared.returns), ("return_type", .str f.declared.returnType),
    ("where", .arr (f.declared.conditions.map Condition.toJson)),
    ("order_by", .str f.declared.orderBy), ("limit", .int f.declared.limit),
    ("for_update", .bool f.declared.forUpdate), ("custom_sql", .str f.declared.customSQL),
    ("source", .str f.declared.source), ("signature", f.signature.toJson)]

structure Repository where
  name : String := ""
  entity : String := ""
  finders : List Finder := []
  source : String := ""
  isDto : Bool := false
  storage : String := defaultStorage
deriving Inhabited

namespace Repository

def methods (r : Repository) : List QuerySignature :=
  QuerySignature.standardBeside r.entity (r.finders.map Finder.declared)

def methodSet (r : Repository) : List QuerySignature :=
  r.methods ++ r.finders.map Finder.signature

def hasTime (r : Repository) : Bool := r.finders.any fun f => f.signature.hasTime

def toJson (r : Repository) : Json := .obj
  [("name", .str r.name), ("entity", .str r.entity),
    ("finders", .arr (r.finders.map Finder.toJson)), ("source", .str r.source),
    ("is_dto", .bool r.isDto), ("storage", .str r.storage),
    ("methods", .arr (r.methods.map QuerySignature.toJson)), ("has_time", .bool r.hasTime)]

end Repository

def ofRepository (entities : List Entity) (r : GoScaffold.Repository) : Repository :=
  let entity := entities.find? fun e => e.name == r.entity
  { name := r.name
    entity := r.entity
    finders := (sortOn GoScaffold.Finder.name r.finders).map fun f =>
      { declared := f, signature := .ofFinder r.entity f "" }
    source := r.source
    isDto := (entity.map Entity.isDto).getD false
    storage := (entity.map Entity.storage).getD defaultStorage }

end GoScaffold.Model
