import GoScaffold.GoType
import GoScaffold.Schema.Encode
import GoScaffold.Text.Blank

/-! Fields with their Go types, their validation rules and how they are stored. -/

namespace GoScaffold.Model

structure Column where
  type : String := ""
  primaryKey : Bool := false
  unique : Bool := false
  index : Bool := false
deriving DecidableEq

structure FileInfo where
  kind : String := ""
  thumbnail : Bool := false
deriving DecidableEq

structure Field where
  name : String
  goType : String
  dtoType : String
  optional : Bool
  isList : Bool
  itemTypeName : String
  itemFields : List Field
  isSecret : Bool
  isPersonal : Bool
  skipDomain : Bool
  validateTag : String
  binding : String
  default : Option String
  envVar : String
  constraints : Option Constraints
  column : Column
  file : Option FileInfo
  metadata : Metadata

instance : Inhabited Field := ⟨⟨"", "", "", false, false, "", [], false, false, false, "", "", none,
  "", none, {}, none, []⟩⟩

namespace Field

def goName (f : Field) : String := Name.exported f.name

end Field

def isFlagSet : Json → Bool
  | .bool b => b
  | .str s => Text.sameLetters (Text.trim s) "true"
  | _ => false

def hasFlag (metadata : Metadata) (key : String) : Bool :=
  match metadata.get? key with
  | some v => isFlagSet v
  | none => false

def text? (d : Dict Json) (key : String) : Option String := (d.get? key).bind Json.str?

def textArg (d : Dict Json) (key : String) : String := (text? d key).getD ""

def bool? (d : Dict Json) (key : String) : Option Bool :=
  match d.get? key with
  | some (.bool b) => some b
  | _ => none

def boolArg (d : Dict Json) (key : String) : Bool := (bool? d key).getD false

structure Annotations where
  validateTag : String := ""
  envVar : String := ""
  column : Column := {}
  file : Option FileInfo := none
deriving DecidableEq

namespace Annotations

/-- Takes in one attribute; a later attribute replaces what an earlier one said. -/
def addAttribute (a : Annotations) (attr : Attribute) : Annotations :=
  let args := attr.args
  match attr.name with
  | "db" => { a with column := {
      type := textArg args "type"
      primaryKey := boolArg args "primary_key"
      unique := boolArg args "unique"
      index := boolArg args "index" } }
  | "validate" => { a with validateTag := textArg args "rule" }
  | "env" => match args with
    | (name, _) :: _ => { a with envVar := name }
    | [] => a
  | "image" => { a with file := some { kind := "image", thumbnail := true } }
  | "file" => { a with file := some {
      kind := textArg args "kind", thumbnail := boolArg args "thumbnail" } }
  | _ => a

/-- Takes in metadata: the validation rule and the column type only if there is none yet. -/
def addMetadata (a : Annotations) (metadata : Metadata) : Annotations :=
  let validateTag :=
    if a.validateTag.isEmpty then textArg metadata "validate_tag" else a.validateTag
  let type := if a.column.type.isEmpty then textArg metadata "sql_type" else a.column.type
  let primaryKey := a.column.primaryKey || hasFlag metadata "primary_key"
  let withKind := match text? metadata "file_kind" with
    | some kind => some { a.file.getD {} with kind }
    | none => a.file
  let file := match bool? metadata "generate_thumbnail" with
    | some thumbnail => some { withKind.getD {} with thumbnail }
    | none => withKind
  { a with validateTag, column := { a.column with type, primaryKey }, file }

def ofField (f : GoScaffold.Field) : Annotations :=
  let declared : Annotations := { validateTag := f.validateTag, envVar := f.envVar }
  (f.attributes.foldl addAttribute declared).addMetadata f.metadata

end Annotations

/-- The rule in the form of a struct tag. An optional field may also be empty. -/
def bindingTag (validateTag : String) (metadata : Metadata) (optional : Bool) : String :=
  let tag := if validateTag.isEmpty then textArg metadata "validate" else validateTag
  if tag.isEmpty then tag
  else
    let rule := match Text.dropPrefix? tag "rule=" with
      | some rule => Text.stripChar '"' rule
      | none => tag
    if optional && !Text.contains rule "omitempty" then "omitempty," ++ rule else rule

mutual

/-- The field with everything resolved. A primary key is never optional. -/
def ofField : GoScaffold.Field → Field
  | ⟨name, ⟨kind, typeName, item, key, inlineFields⟩, declaredOptional, default, isSecret,
      isPersonal, skipDomain, validateTag, envVar, constraints, attributes, ui, metadata, source⟩ =>
    let type : TypeRef := ⟨kind, typeName, item, key, inlineFields⟩
    let notes := Annotations.ofField ⟨name, type, declaredOptional, default, isSecret,
      isPersonal, skipDomain, validateTag, envVar, constraints, attributes, ui, metadata, source⟩
    let optional := declaredOptional && !notes.column.primaryKey
    { name
      goType := type.goType .domain name
      dtoType := type.goType .dto name
      optional
      isList := kind == .list
      itemTypeName := type.itemName name
      itemFields := ofFields inlineFields
      isSecret
      isPersonal
      skipDomain
      validateTag := notes.validateTag
      binding := bindingTag notes.validateTag metadata optional
      default := default.bind Json.str?
      envVar := notes.envVar
      constraints
      column := notes.column
      file := notes.file
      metadata }

def ofFields : List GoScaffold.Field → List Field
  | [] => []
  | f :: rest => ofField f :: ofFields rest

end

def Column.toJson (c : Column) : Json := .obj
  [("type", .str c.type), ("primary_key", .bool c.primaryKey), ("unique", .bool c.unique),
    ("index", .bool c.index)]

def FileInfo.toJson (f : FileInfo) : Json := .obj
  [("kind", .str f.kind), ("thumbnail", .bool f.thumbnail)]

mutual

def Field.toJson : Field → Json
  | ⟨name, goType, dtoType, optional, isList, itemTypeName, itemFields, isSecret, isPersonal,
      skipDomain, validateTag, binding, default, envVar, constraints, column, file, metadata⟩ =>
    .obj
      [("name", .str name), ("go_name", .str (Name.exported name)),
        ("json_name", .str (Name.jsonKey name)), ("db_name", .str (Name.column name)),
        ("go_type", .str goType), ("dto_type", .str dtoType), ("optional", .bool optional),
        ("is_list", .bool isList), ("item_type_name", .str itemTypeName),
        ("item_fields", .arr (fieldsJson itemFields)), ("is_secret", .bool isSecret),
        ("is_pii", .bool isPersonal), ("skip_domain", .bool skipDomain),
        ("validate_tag", .str validateTag), ("binding", .str binding),
        ("default", .ofOption .str default), ("env_var", .str envVar),
        ("constraints", .ofOption Constraints.toJson constraints), ("db", column.toJson),
        ("file", .ofOption FileInfo.toJson file), ("metadata", .obj metadata)]

def fieldsJson : List Field → List Json
  | [] => []
  | f :: rest => f.toJson :: fieldsJson rest

end

end GoScaffold.Model
