import GoScaffold.Artifact.Service

/-! Repositories: their interfaces, mocks for tests, and adapters that keep entities as documents or
in memory. Entities that are only transferred have none. -/

namespace GoScaffold.Artifact

def mongoDir : String := "internal/adapter/repository/mongo"

def memoryDir : String := "internal/adapter/repository/memory"

def mongoDriver : String := "go.mongodb.org/mongo-driver"

def persisted (model : Model) : List Model.Repository := model.repos.filter fun r => !r.isDto

structure RepositoryPage where
  repo : Model.Repository
  methods : List QuerySignature
  imports : Imports

def RepositoryPage.toJson (h : Header) (p : RepositoryPage) : Json := h.told
  [("repo", p.repo.toJson), ("methods", .arr (p.methods.map QuerySignature.toJson)),
    ("imports", p.imports.toJson)]

def repositoryPage (h : Header) (repo : Model.Repository) : RepositoryPage :=
  let spelled := repo.methodSet.map fun m => m.callParams ++ " " ++ m.results
  { repo, methods := repo.methodSet
    imports := .ofCode h.module (Text.join "\n" spelled) ["context"] }

def repositoryPorts (h : Header) (model : Model) : List Artifact :=
  (persisted model).map fun repo =>
    { path := portDir ++ "/" ++ fileStem repo.name ++ ".go"
      template := Family.repositoryPorts.template
      kit := .goTypes
      given := (repositoryPage h repo).toJson h }

def repoMocks (h : Header) (model : Model) : List Artifact :=
  (persisted model).map fun repo =>
    { path := portDir ++ "/mock_" ++ fileStem repo.entity ++ "_test.go"
      template := Family.repoMocks.template
      kit := .goTypes
      given := (repositoryPage h repo).toJson h }

inductive FinderMode where
  | one
  | many
  | count
  | delete
deriving DecidableEq

namespace FinderMode

def name : FinderMode → String
  | one => "one"
  | many => "many"
  | count => "count"
  | delete => "delete"

def of? (f : Model.Finder) : Option FinderMode :=
  let type := f.signature.returned.type
  if f.declared.action == "delete" && type == "int64" then some delete
  else if Text.startsWith type "*domain." then some one
  else if Text.startsWith type "[]domain." then some many
  else if type == "int64" then some count
  else none

end FinderMode

structure MongoFilter where
  key : String
  op : String
  param : String
deriving DecidableEq

def MongoFilter.toJson (f : MongoFilter) : Json := .obj
  [("key", .str f.key), ("op", .str f.op), ("param", .str f.param)]

/-- The field that a condition is about: the one it names, or else the one its parameter is named
after. -/
def conditionField (c : Condition) : String := if c.field.isEmpty then c.param else c.field

def mongoFilter (c : Condition) : MongoFilter :=
  { key := Name.documentKey (conditionField c)
    op := if c.op.isEmpty then "eq" else c.op
    param := c.param }

/-- The field to sort by and whether to sort downwards. A minus sign before the field or a word
after it asks for that. -/
def sortOrder (orderBy : String) : String × Bool :=
  match Text.dropPrefix? (Text.trim orderBy) "-" with
  | some field => (Text.trim field, true)
  | none =>
    match Text.words orderBy with
    | [] => ("", false)
    | [field] => (field, false)
    | field :: direction :: _ => (field, Text.sameLetters direction "desc")

structure MongoFinder where
  finder : Model.Finder
  mode : FinderMode
  elemType : String
  filters : List MongoFilter
  sortKey : String
  sortDesc : Bool

def dropLeading (p : List Char) : (fuel : Nat) → List Char → List Char
  | 0, cs => cs
  | fuel + 1, cs =>
    match Text.afterPrefix? p cs with
    | some rest => dropLeading p fuel rest
    | none => cs

def elementType (mode : FinderMode) (type : String) : String :=
  let cs := type.toList
  match mode with
  | .one => String.ofList (dropLeading ['*'] cs.length cs)
  | .many => String.ofList (dropLeading ['[', ']'] cs.length cs)
  | _ => ""

namespace MongoFinder

def toJson (f : MongoFinder) : Json := .obj
  [("finder", f.finder.toJson), ("sig", f.finder.signature.toJson), ("mode", .str f.mode.name),
    ("elem_type", .str f.elemType), ("filters", .arr (f.filters.map MongoFilter.toJson)),
    ("sort_key", .str f.sortKey), ("sort_desc", .bool f.sortDesc)]

def of (repo : Model.Repository) (f : Model.Finder) : Except Error MongoFinder :=
  match FinderMode.of? f with
  | none =>
    let returns := if f.declared.returns.isEmpty then f.signature.returned.type
      else f.declared.returns
    .error (.unsupportedFinder "mongo" repo.name f.declared.name returns)
  | some mode =>
    let (field, sortDesc) := sortOrder f.declared.orderBy
    .ok
      { finder := f
        mode
        elemType := elementType mode f.signature.returned.type
        filters := f.declared.conditions.map mongoFilter
        sortKey := if field.isEmpty then "" else Name.documentKey field
        sortDesc }

end MongoFinder

structure MongoPage where
  repo : Model.Repository
  entity : Model.Entity
  finders : List MongoFinder
  imports : Imports

def MongoPage.toJson (h : Header) (p : MongoPage) : Json := h.told
  [("repo", p.repo.toJson), ("entity", p.entity.toJson),
    ("finders", .arr (p.finders.map MongoFinder.toJson)), ("imports", p.imports.toJson)]

def mongoImports (h : Header) (repo : Model.Repository) (finders : List MongoFinder) : Imports :=
  let methods := repo.methodSet
  let needsErrors := methods.any (fun m => m.kind == .findById) ||
    finders.any fun f => f.mode == .one
  let needsOptions := methods.any (fun m => m.kind == .save) ||
    finders.any fun f => !f.sortKey.isEmpty || 0 < f.finder.declared.limit
  .ofPaths (["context", h.package "internal/domain", mongoDriver ++ "/bson",
      mongoDriver ++ "/mongo"] ++
    (if needsErrors then ["errors"] else []) ++
    (if needsOptions then [mongoDriver ++ "/mongo/options"] else []) ++
    if methods.any QuerySignature.hasTime then ["time"] else [])

def mongoPage (h : Header) (repo : Model.Repository) (entity : Model.Entity) :
    Except Error MongoPage := do
  let finders ← repo.finders.mapM (MongoFinder.of repo)
  return { repo, entity, finders, imports := mongoImports h repo finders }

def withEntity (model : Model) (repo : Model.Repository) :
    Option (Model.Repository × Model.Entity) :=
  (model.entity? repo.entity).map fun e => (repo, e)

def mongoRepos (h : Header) (model : Model) : List Job :=
  (((persisted model).filter fun r => r.storage == "mongo").filterMap (withEntity model)).map
    fun (repo, entity) => { make := fun _ => do
      let page ← mongoPage h repo entity
      return {
        path := mongoDir ++ "/" ++ fileStem repo.name ++ ".go"
        template := Family.mongoRepos.template
        kit := .mongo
        given := page.toJson h } }

def mongoHelpers (h : Header) (model : Model) : List Artifact :=
  if !model.hasMongoEntities then [] else
  let entities := model.entities.filter fun e => !e.isDto && e.storage == "mongo"
  [{ path := mongoDir ++ "/helpers.go"
     template := Family.mongoHelpers.template
     kit := .mongo
     given := h.told [("entities", .arr (entities.map Model.Entity.toJson))] }]

/-- A comparison of a field with a parameter, as an expression on a kept value. Some types cannot be
compared in some ways. -/
def memoryCondition (f : Model.Field) (op param : String) : Option String :=
  let value := "v." ++ f.goName
  let type := f.goType
  if Text.startsWith type "[]" || Text.startsWith type "map[" || type == "any" ||
      type == "json.RawMessage" then none
  else if type == "time.Time" then
    match op with
    | "" | "eq" => some (value ++ ".Equal(" ++ param ++ ")")
    | "ne" => some ("!" ++ value ++ ".Equal(" ++ param ++ ")")
    | "gt" => some (value ++ ".After(" ++ param ++ ")")
    | "gte" => some ("!" ++ value ++ ".Before(" ++ param ++ ")")
    | "lt" => some (value ++ ".Before(" ++ param ++ ")")
    | "lte" => some ("!" ++ value ++ ".After(" ++ param ++ ")")
    | _ => none
  else
    let compared (mark : String) : String := value ++ " " ++ mark ++ " " ++ param
    let ordered (mark : String) : Option String :=
      if type == "bool" then none else some (compared mark)
    match op with
    | "" | "eq" => some (compared "==")
    | "ne" => some (compared "!=")
    | "gt" => ordered ">"
    | "gte" => ordered ">="
    | "lt" => ordered "<"
    | "lte" => ordered "<="
    | "in" => some ("slices.Contains(" ++ param ++ ", " ++ value ++ ")")
    | "like" =>
      if type == "string" then
        some ("strings.Contains(strings.ToLower(" ++ value ++ "), strings.ToLower(" ++
          param ++ "))")
      else none
    | _ => none

/-- A finder in memory. Without a mode it only returns zero values. -/
structure StubFinder where
  signature : QuerySignature
  mode : Option FinderMode := none
  conditions : List String := []

namespace StubFinder

def toJson (f : StubFinder) : Json := .obj
  [("sig", f.signature.toJson), ("mode", .str ((f.mode.map FinderMode.name).getD "")),
    ("conds", .strs f.conditions)]

def mode? (entity : Model.Entity) (f : Model.Finder) : Option FinderMode :=
  let type := f.signature.returned.type
  match FinderMode.of? f with
  | some .one => if type == "*domain." ++ entity.name then some .one else none
  | some .many => if type == "[]domain." ++ entity.name then some .many else none
  | other => other

def condition? (entity : Model.Entity) (c : Condition) : Option String := do
  let field ← entity.field? (conditionField c)
  memoryCondition field c.op c.param

def of (entity : Model.Entity) (f : Model.Finder) : StubFinder :=
  match mode? entity f, f.declared.conditions.mapM (condition? entity) with
  | some mode, some conditions => { signature := f.signature, mode := some mode, conditions }
  | _, _ => { signature := f.signature }

end StubFinder

structure StubPage where
  repo : Model.Repository
  entity : Model.Entity
  finders : List StubFinder
  imports : Imports

def StubPage.toJson (h : Header) (p : StubPage) : Json := h.told
  [("repo", p.repo.toJson), ("entity", p.entity.toJson),
    ("finders", .arr (p.finders.map StubFinder.toJson)), ("imports", p.imports.toJson)]

def stubPage (h : Header) (repo : Model.Repository) (entity : Model.Entity) : StubPage :=
  let finders := repo.finders.map (StubFinder.of entity)
  let methods := repo.methodSet
  let conditions := finders.flatMap StubFinder.conditions
  let extra := ["context", "sync"] ++
    (if methods.any fun m => m.kind == .save then ["fmt"] else []) ++
    (if methods.any QuerySignature.hasTime then ["time"] else []) ++
    (if conditions.any (Text.contains · "slices.") then ["slices"] else []) ++
    [h.package "internal/domain"]
  { repo, entity, finders, imports := .ofCode h.module (Text.join "\n" conditions) extra }

def stubRepos (h : Header) (model : Model) : List Artifact :=
  ((persisted model).filterMap (withEntity model)).map fun (repo, entity) =>
    { path := memoryDir ++ "/" ++ fileStem repo.name ++ ".go"
      template := Family.stubRepos.template
      kit := .goTypes
      given := (stubPage h repo entity).toJson h }

end GoScaffold.Artifact
