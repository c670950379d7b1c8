import GoScaffold.Name
import GoScaffold.Schema.Basic
import GoScaffold.Text.Substring
import GoScaffold.Text.Property.Alphanumeric

/-! Go type expressions of schema types, and the zero values of Go types. -/

namespace GoScaffold

/-- The package an entity type is spelled for: the domain package, or the one of transfer
objects. -/
inductive Flavor where
  | domain
  | dto
deriving DecidableEq

def Flavor.entityType : Flavor → String → String
  | .domain, name => "domain." ++ name
  | .dto, name => name ++ "DTO"

namespace TypeRef

def inlineItemName (t : TypeRef) (field : String) : String :=
  match t.item with
  | some item => if item.name.isEmpty then Name.exported field ++ "Item" else item.name
  | none => Name.exported field ++ "Item"

def goType (flavor : Flavor) (field : String) : TypeRef → String
  | ⟨kind, name, item, key, inlineFields⟩ =>
    match kind with
    | .string | .uuid | .enum | .file => "string"
    | .int => "int"
    | .int64 => "int64"
    | .float => "float64"
    | .bool => "bool"
    | .time => "time.Time"
    | .json => "json.RawMessage"
    | .any | .unknown => "any"
    | .list =>
      if !inlineFields.isEmpty then "[]" ++ inlineItemName ⟨kind, name, item, key,
        inlineFields⟩ field
      else match item with
        | some item => "[]" ++ goType flavor field item
        | none => "[]any"
    | .map =>
      let keyType := match key with
        | some key => goType flavor field key
        | none => "string"
      let valueType := match item with
        | some item => goType flavor field item
        | none => "any"
      "map[" ++ keyType ++ "]" ++ valueType
    | .entity => if name.isEmpty then "any" else flavor.entityType name

def itemName (t : TypeRef) (field : String) : String :=
  if t.kind != .list then ""
  else if !t.inlineFields.isEmpty then t.inlineItemName field
  else match t.item with
    | some item => item.name
    | none => ""

end TypeRef

namespace GoType

def zeroValue (type : String) : String :=
  if Text.startsWith type "*" || Text.startsWith type "[]" || Text.startsWith type "map" then "nil"
  else match type with
    | "int" | "int64" | "int32" | "float64" | "float32" => "0"
    | "string" => "\"\""
    | "bool" => "false"
    | "time.Time" => "time.Time\x7b\x7d"
    | _ => "nil"

/-- Appends `DTO` to every name behind `domain.`, and drops that qualifier. In a name (`inside`)
characters are copied up to its end; `skip` characters of a qualifier are passed over. -/
def toDtoFrom : (inside : Bool) → (skip : Nat) → List Char → List Char
  | inside, _, [] => if inside then "DTO".toList else []
  | inside, skip + 1, _ :: rest => toDtoFrom inside skip rest
  | true, 0, c :: rest =>
    if Text.isAlphanumeric c || c == '_' then c :: toDtoFrom true 0 rest
    else "DTO".toList ++ c :: toDtoFrom false 0 rest
  | false, 0, c :: rest =>
    if (Text.afterPrefix? "domain.".toList (c :: rest)).isSome then toDtoFrom true 6 rest
    else c :: toDtoFrom false 0 rest

def toDto (type : String) : String := String.ofList (toDtoFrom false 0 type.toList)

end GoType

end GoScaffold
