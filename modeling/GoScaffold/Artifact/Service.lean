import GoScaffold.Artifact.Basic
import GoScaffold.Family
import GoScaffold.Override

/-! Services: their interfaces, their implementations, and caches before them. -/

namespace GoScaffold.Artifact

def portDir : String := "internal/port"

def addPortTypes (found : List Model.Entity) : List Model.Entity → List Model.Entity
  | [] => found
  | e :: rest =>
    if found.any fun f => f.name == e.name then addPortTypes found rest
    else addPortTypes (found ++ [e]) rest

def portEntities (service : Model.Service) : List Model.Entity :=
  addPortTypes [] (service.methods.flatMap fun m => m.input.toList ++ m.output.toList)

/-- The types that the interface of a service declares: inputs and outputs by name, then the types
of their list items as far as the names are not taken. -/
def portTypes (service : Model.Service) : List TypeDecl :=
  let entities := portEntities service
  let types := entities.map fun e =>
    { name := e.name, description := e.description, fields := e.fields : TypeDecl }
  let nested := entities.foldl (fun found e => addItemTypes found e.fields) []
  Model.sortOn TypeDecl.name types ++
    nested.filter fun t => !entities.any fun e => e.name == t.name

def servicePorts (h : Header) (model : Model) : List Artifact :=
  model.services.map fun service =>
    let types := portTypes service
    let spelled := types.flatMap fun t => t.fields.map Model.Field.goType
    let imports := Imports.ofCode h.module (Text.join "\n" spelled) ["context"]
    { path := portDir ++ "/" ++ fileStem service.name ++ ".go"
      template := Family.servicePorts.template
      kit := .goTypes
      given := h.told
        [("service", service.toJson), ("types", .arr (types.map TypeDecl.toJson)),
          ("imports", imports.toJson)] }

inductive BodyKind where
  | flow
  | inline
  /-- A region to be filled by hand. -/
  | custom
deriving DecidableEq

def BodyKind.name : BodyKind → String
  | .flow => "flow"
  | .inline => "inline"
  | .custom => "custom"

structure ImplMethod where
  method : Model.Method
  body : BodyKind
  code : String
  qualifier : String

namespace ImplMethod

def toJson (m : ImplMethod) : Json := .obj
  [("method", m.method.toJson), ("body", .str m.body.name), ("code", .str m.code),
    ("qualifier", .str m.qualifier)]

def placeholder (result qualifier : String) : String :=
  "return " ++ result ++ "errors.New(http.StatusNotImplemented, \"Not Implemented\", " ++
    Text.goQuote (qualifier ++ " is not implemented") ++ ")"

def of (service : Model.Service) (method : Model.Method) : ImplMethod :=
  let qualifier := service.name ++ "." ++ method.name
  let result := if method.output.isSome then "resp, " else ""
  match method.flowCode with
  | some flow =>
    { method, qualifier, body := .flow, code := Text.trimEnd flow ++ "\nreturn " ++
      result ++ "nil" }
  | none =>
    if Text.isBlankText method.implCode then
      { method, qualifier, body := .custom, code := placeholder result qualifier }
    else { method, qualifier, body := .inline, code := method.implCode }

end ImplMethod

structure ImplPage where
  service : Model.Service
  methods : List ImplMethod
  overrides : List String
  imports : Imports

def ImplPage.toJson (h : Header) (p : ImplPage) : Json := h.told
  [("service", p.service.toJson), ("methods", .arr (p.methods.map ImplMethod.toJson)),
    ("overrides", .strs p.overrides), ("imports", p.imports.toJson)]

def implPage (h : Header) (service : Model.Service) (overrides : List String) : ImplPage :=
  let methods := (service.methods.filter fun m => !overrides.contains m.name).map
    (ImplMethod.of service)
  let extra := ["context", h.package portDir] ++
    (if service.publishesEvents then [h.package "internal/domain"] else []) ++
    methods.flatMap fun m => m.method.implImports
  let code := Text.join "\n" (methods.map ImplMethod.code)
  { service, methods, overrides, imports := .ofCode h.module code extra }

def implArtifact (h : Header) (service : Model.Service) (overrides : List String) : Artifact :=
  { path := Override.serviceDir ++ "/" ++ fileStem service.name ++ ".go"
    template := Family.serviceImpls.template
    kit := .goTypes
    given := (implPage h service overrides).toJson h }

def serviceImpls (h : Header) (outputDir : String) (model : Model) : List Job :=
  model.services.map fun service =>
    { missing := fun tree => Audit.missing service (Override.methods tree outputDir service.name)
      make := fun tree =>
        .ok (implArtifact h service (Override.methods tree outputDir service.name)) }

def isCached (m : Model.Method) : Bool := !m.cacheTTL.isEmpty && m.output.isSome

def cachedServices (h : Header) (model : Model) : List Artifact :=
  model.services.map fun service =>
    let keyed := service.methods.any fun m => isCached m && m.input.isSome
    let imports := Imports.ofCode h.module ""
      (["context", "time", h.package portDir] ++ if keyed then ["fmt"] else [])
    { path := Override.serviceDir ++ "/" ++ fileStem service.name ++ "_cached.go"
      template := Family.cachedServices.template
      kit := .goTypes
      given := h.told [("service", service.toJson), ("imports", imports.toJson)] }

end GoScaffold.Artifact
