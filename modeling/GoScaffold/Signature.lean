import GoScaffold.GoType
import GoScaffold.Text.Blank
import GoScaffold.Text.Line

/-! Go signatures. Every artifact that declares or calls a repository method or a service method
takes its parameters and results from here. -/

namespace GoScaffold

inductive QueryKind where
  | save | findById | listAll | delete | finder
deriving DecidableEq

def QueryKind.name : QueryKind → String
  | .save => "save"
  | .findById => "find_by_id"
  | .listAll => "list_all"
  | .delete => "delete"
  | .finder => "finder"

/-- What a repository method returns beside an error: a type expression, which is empty when there
is nothing to return, and the value that stands for nothing found. -/
structure Returned where
  type : String := ""
  zero : String := ""
  slice : Bool := false
deriving DecidableEq

structure QuerySignature where
  name : String
  kind : QueryKind
  params : List (String × String)
  returned : Returned
  hasTime : Bool := false
deriving DecidableEq

namespace QuerySignature

def paramsText (s : QuerySignature) : String :=
  Text.join ", " (s.params.map fun (name, type) => name ++ " " ++ type)

def argsText (s : QuerySignature) : String := Text.join ", " (s.params.map Prod.fst)

def withFirst (first rest : String) : String :=
  if rest.isEmpty then first else first ++ ", " ++ rest

def callParams (s : QuerySignature) : String := withFirst "ctx context.Context" s.paramsText

def callArgs (s : QuerySignature) : String := withFirst "ctx" s.argsText

def results (s : QuerySignature) : String :=
  if s.returned.type.isEmpty then "error" else "(" ++ s.returned.type ++ ", error)"

end QuerySignature

namespace Returned

def nilable (type : String) : Returned :=
  { type, zero := "nil", slice := Text.startsWith type "[]" }

def ofType (type : String) : Returned :=
  { type, zero := GoType.zeroValue type, slice := Text.startsWith type "[]" }

def count : Returned := { type := "int64", zero := "0" }

/-- What a finder on a repository of `entity` returns. Its explicit return type comes first, then
its action, then what it says it returns, and last `fallback`. -/
def ofFinder (entity : String) (finder : Finder) (fallback : String) : Returned :=
  if !finder.returnType.isEmpty then nilable finder.returnType
  else if finder.action = "delete" then count
  else
    let returns := finder.returns
    if returns = "one" || returns = entity || Text.dropPrefix? returns "*" = some entity then
      { type := "*domain." ++ entity, zero := "nil" }
    else if returns = "many" || Text.dropPrefix? returns "[]" = some entity then
      { type := "[]domain." ++ entity, zero := "nil", slice := true }
    else if returns = "count" then count
    else if returns.isEmpty then (if fallback.isEmpty then {} else nilable fallback)
    else ofType returns

end Returned

namespace QuerySignature

def paramType (c : Condition) : String :=
  let type := Text.trim c.paramType
  if type = "time" then "time.Time" else type

def ofFinder (entity : String) (finder : Finder) (fallback : String) : QuerySignature :=
  { name := Name.exported finder.name
    kind := .finder
    params := finder.conditions.map fun c => (c.param, paramType c)
    returned := .ofFinder entity finder fallback
    hasTime := finder.conditions.any fun c => paramType c == "time.Time" }

def standard (name : String) (kind : QueryKind) (params : List (String × String))
    (returns : String) : QuerySignature :=
  { name, kind, params, returned := if returns.isEmpty then {} else .ofType returns }

def standardMethods (entity : String) : List QuerySignature :=
  [standard "Save" .save [("entity", "*domain." ++ entity)] "",
    standard "FindByID" .findById [("id", "string")] ("*domain." ++ entity),
    standard "ListAll" .listAll [] ("[]domain." ++ entity),
    standard "Delete" .delete [("id", "string")] ""]

/-- The standard methods, less those for which there is a finder of that name. -/
def standardBeside (entity : String) (finders : List Finder) : List QuerySignature :=
  (standardMethods entity).filter fun m =>
    !finders.any fun f => Name.exported f.name == m.name

def toJson (s : QuerySignature) : Json := .obj
  [("name", .str s.name), ("kind", .str s.kind.name), ("params_sig", .str s.paramsText),
    ("arg_names", .str s.argsText), ("return_type", .str s.returned.type),
    ("return_zero", .str s.returned.zero), ("return_slice", .bool s.returned.slice),
    ("has_time", .bool s.hasTime), ("call_params", .str s.callParams),
    ("call_args", .str s.callArgs), ("results", .str s.results)]

end QuerySignature

structure MethodSignature where
  name : String := ""
  inputType : String := ""
  outputType : String := ""
deriving DecidableEq, Inhabited

namespace MethodSignature

def typeOf (qualifier : String) (entity : Option Entity) : String :=
  match entity with
  | some e => if e.name.isEmpty then "" else qualifier ++ e.name
  | none => ""

def ofMethod (qualifier : String) (m : Method) : MethodSignature :=
  { name := m.name, inputType := typeOf qualifier m.input
    outputType := typeOf qualifier m.output }

def params (s : MethodSignature) : String :=
  if s.inputType.isEmpty then "ctx context.Context"
  else "ctx context.Context, req " ++ s.inputType

def args (s : MethodSignature) : String := if s.inputType.isEmpty then "ctx" else "ctx, req"

def results (s : MethodSignature) : String :=
  if s.outputType.isEmpty then "error" else "(" ++ s.outputType ++ ", error)"

def namedResults (s : MethodSignature) : String :=
  if s.outputType.isEmpty then "(err error)" else "(resp " ++ s.outputType ++ ", err error)"

def toJson (s : MethodSignature) : Json := .obj
  [("name", .str s.name), ("params", .str s.params), ("results", .str s.results),
    ("named_results", .str s.namedResults), ("args", .str s.args),
    ("input_type", .str s.inputType), ("output_type", .str s.outputType)]

end MethodSignature

end GoScaffold
