import GoScaffold.Artifact.Basic
import GoScaffold.Family

/-! Entities, their transfer objects and events. -/

namespace GoScaffold.Artifact

def domainDir : String := "internal/domain"

def dtoDir : String := "internal/dto"

structure EntityPage where
  entity : Model.Entity
  fields : List Model.Field
  nested : List TypeDecl
  imports : Imports

def EntityPage.toJson (h : Header) (p : EntityPage) : Json := h.told
  [("entity", p.entity.toJson), ("fields", .arr (Model.fieldsJson p.fields)),
    ("nested", .arr (p.nested.map TypeDecl.toJson)), ("imports", p.imports.toJson)]

def entityPage (h : Header) (spell : String → String) (entity : Model.Entity)
    (fields : List Model.Field) : EntityPage :=
  let nested := itemTypes fields
  let spelled := (fields ++ nested.flatMap TypeDecl.fields).map fun f => spell f.goType
  { entity, fields, nested, imports := .ofCode h.module (Text.join "\n" spelled) [] }

def inDomain (type : String) : String := Text.replaceAll type "domain." ""

def domain (h : Header) (model : Model) : List Artifact :=
  (model.entities.filter fun e => !e.fields.isEmpty).map fun e =>
    { path := domainDir ++ "/" ++ fileStem e.name ++ ".go"
      template := Family.domain.template
      kit := .mongo
      given := (entityPage h inDomain e e.fields).toJson h }

def dto (h : Header) (model : Model) : List Artifact :=
  (model.entities.filter fun e => !e.dtoFields.isEmpty).map fun e =>
    { path := dtoDir ++ "/" ++ fileStem e.name ++ ".go"
      template := Family.dto.template
      kit := .goTypes
      given := (entityPage h GoType.toDto e e.dtoFields).toJson h }

def events (h : Header) (model : Model) : Artifact :=
  let types :=
    inDomain (Text.join "\n" (model.events.flatMap fun e => e.fields.map Model.Field.goType))
  let imports := Imports.ofCode h.module types ["context"]
  { path := domainDir ++ "/events.go"
    template := Family.events.template
    kit := .goTypes
    given := h.told
      [("events", .arr (model.events.map Model.Event.toJson)), ("imports", imports.toJson)] }

end GoScaffold.Artifact
