import GoScaffold.GoType
import GoScaffold.Name
import GoScaffold.Text.Blank
import GoScaffold.Text.Substring
import GoScaffold.Template.Value

/-! What templates can call besides their own parts: filters, which take the value before them as
their first argument, and functions. They look at nothing but their arguments. -/

namespace GoScaffold.Template

/-- Sets of helpers; each holds those before it. -/
inductive HelperKit where
  | shared
  | goTypes
  | mongo
deriving DecidableEq

abbrev Helper := List Value → Except Fault Value

namespace Helper

/-! Arguments are taken from the front. One that is left over in the end is an error. -/

def takeValue : List Value → Except Fault (Value × List Value)
  | [] => .error .missingArgument
  | v :: rest => .ok (v, rest)

def takeText : List Value → Except Fault (String × List Value)
  | [] => .error .missingArgument
  | none :: _ => .error .undefinedValue
  | some (.str s) :: rest => .ok (s, rest)
  | _ => .error (.badOperation "")

/-- A number of 64 bits without sign. A floating point number will do if it is whole, and so will a
truth value. -/
def takeCount : List Value → Except Fault (Nat × List Value)
  | [] => .error .missingArgument
  | none :: _ => .error .undefinedValue
  | some (.bool b) :: rest => .ok (b.toNat, rest)
  | some (.num (.int i)) :: rest =>
    if 0 ≤ i && Width.holdsEither 64 i then .ok (i.toNat, rest) else .error (.badOperation "")
  | some (.num (.float x)) :: rest =>
    if x.isWhole && 0 ≤ x.truncate && Width.holdsInt 64 x.truncate then .ok (x.truncate.toNat, rest)
    else .error (.badOperation "")
  | _ => .error (.badOperation "")

def finish (args : List Value) (result : Json) : Except Fault Value :=
  if args.isEmpty then .ok (some result) else .error .tooManyArguments

def onText (f : String → String) : Helper := fun args => do
  let (s, args) ← takeText args
  finish args (.str (f s))

def onValue (f : Value → Json) : Helper := fun args => do
  let (v, args) ← takeValue args
  finish args (f v)

def sortedSet (xs : List String) : List String := (xs.mergeSort fun a b => !(b < a)).eraseDups

/-! Names and code. -/

def unqualify (type : String) : String :=
  Text.replaceAll (Text.replaceAll type "domain." "") "port." ""

def indent (code : String) (depth : Nat) : String :=
  let margin := String.ofList (List.replicate depth '\t')
  Text.join "\n" ((Text.lines code).map fun line =>
    if Text.isBlankText line then "" else margin ++ line)

def indentGo : Helper := fun args => do
  let (code, args) ← takeText args
  let (depth, args) ← takeCount args
  finish args (.str (indent code depth))

/-! Lists of a model. -/

def fieldItems (j : Json) (name : String) : List Json := Value.items (Value.field j name)

def sourceEntities (services : Value) : List String :=
  sortedSet (services.items.flatMap fun service =>
    ((fieldItems service "methods").flatMap fun method =>
      ((fieldItems method "sources").map fun source => Value.fieldText source "entity").filter
        (!·.isEmpty)) ++
    (fieldItems service "repo_entities").filterMap Json.str?)

def dtoEntities (entities : Value) : List String :=
  (entities.items.filter (Value.fieldIsTrue · "is_dto")).map (Value.fieldText · "name")

def uniqueRepoEntities (services entities : Value) : List String :=
  let dtos := dtoEntities entities
  sortedSet (((sourceEntities services).map Name.exported).filter fun e => !dtos.contains e)

def allRepoEntities (entities : Value) : List String :=
  ((entities.items.filter fun e => !Value.fieldIsTrue e "is_dto").map
    (Value.fieldText · "name")).mergeSort fun a b => !(b < a)

def isNamed (name : String) (j : Json) : Bool := Value.fieldText j "name" == name

def hasService (services : Value) (name : String) : Bool := services.items.any (isNamed name)

def hasMethod (services : Value) (service method : String) : Bool :=
  (services.items.filter (isNamed service)).any fun s =>
    (fieldItems s "methods").any (isNamed method)

def hasEventField (events : Value) (event field : String) : Bool :=
  !field.isEmpty && (events.items.filter (isNamed event)).any fun e =>
    (fieldItems e "fields").any fun f => Text.sameLetters (Value.fieldText f "name") field

/-- The field that the rooms of the first socket endpoint of the service are named by which carries
the event. -/
def roomFieldForEvent (endpoints : Value) (service event : String) : String :=
  let carries (endpoint : Json) : Bool :=
    Value.fieldIsTrue endpoint "is_ws" && Value.fieldText endpoint "service" == service &&
      (fieldItems endpoint "messages").any fun m => m.str? == some event
  ((endpoints.items.find? carries).map (Value.fieldText · "room_field")).getD ""

def hasTxServices (services : Value) : Bool := services.items.any (Value.fieldIsTrue · "needs_tx")

def onListAndText (f : Value → String → Json) : Helper := fun args => do
  let (v, args) ← takeValue args
  let (s, args) ← takeText args
  finish args (f v s)

def onListAndTexts (f : Value → String → String → Json) : Helper := fun args => do
  let (v, args) ← takeValue args
  let (s, args) ← takeText args
  let (t, args) ← takeText args
  finish args (f v s t)

def onLists (f : Value → Value → Json) : Helper := fun args => do
  let (v, args) ← takeValue args
  let (w, args) ← takeValue args
  finish args (f v w)

def fail : Helper := fun args => do
  let (complaint, args) ← takeText args
  let _ ← finish args .null
  .error (.badOperation complaint)

/-! Documents. -/

def textOf (v : Value) (name : String) : String := (v.map (Value.fieldText · name)).getD ""

/-- The expression for what is stored of a field. Points in time kept as strings are brought into
one form. -/
def storedExpression (field : Value) : String :=
  let expression := "entity." ++ textOf field "go_name"
  let column := textOf (field.bind (Value.field · "db")) "type"
  if textOf field "go_type" == "string" && Text.contains (Text.upper column) "TIMESTAMP" then
    "normalizeTime(" ++ expression ++ ")"
  else expression

/-! Filters of every kit. -/

def pairs : Helper := fun args => do
  let (v, args) ← takeValue args
  match v with
  | some (.obj es) => finish args (.arr ((Dict.ofEntries es).map fun e => .arr [.str e.1, e.2]))
  | _ => .error (.badOperation "")

def lowered : Helper := fun args => do
  let (v, args) ← takeValue args
  match v with
  | some j => finish args (.str (Text.lower (Value.printed j)))
  | none => .error .undefinedValue

def joined : Helper := fun args => do
  let (v, args) ← takeValue args
  let (separator, args) := match args with
    | [] => ("", [])
    | s :: rest => (s.printedOrEmpty, rest)
  match Value.items? v with
  | some xs => finish args (.str (Text.join separator (xs.map Value.printed)))
  | none => .error (.badOperation "")

def plainFilters : Dict Helper :=
  [("items", pairs), ("join", joined), ("lower", lowered)]

def sharedFilters : Dict Helper :=
  [("snake", onText Name.snake), ("title", onText Text.upperFirst),
    ("export", onText Name.exported), ("json_name", onText Name.jsonKey),
    ("lower_first", onText Text.lowerFirst), ("go_quote", onText Text.goQuote),
    ("unqualify", onText unqualify), ("indent_go", indentGo)]

def goTypeFilters : Dict Helper :=
  [("go_type", onValue fun v => .str (textOf v "go_type")), ("dto_type", onText GoType.toDto),
    ("zero_value", onText GoType.zeroValue)]

def mongoFilters : Dict Helper :=
  [("mongo_bson_name", onText Name.documentKey),
    ("mongo_value_expr", onValue fun v => .str (storedExpression v))]

def functions : Dict Helper :=
  [("has_service", onListAndText fun v s => .bool (hasService v s)),
    ("has_method", onListAndTexts fun v s m => .bool (hasMethod v s m)),
    ("has_entity", onListAndText fun v e => .bool ((sourceEntities v).contains e)),
    ("has_non_user_entities", onValue fun v => .bool ((sourceEntities v).any (· != "User"))),
    ("has_repo_entities", onLists fun s e => .bool (!(uniqueRepoEntities s e).isEmpty)),
    ("unique_repo_entities", onLists fun s e => .strs (uniqueRepoEntities s e)),
    ("all_repo_entities", onValue fun e => .strs (allRepoEntities e)),
    ("has_event_field", onListAndTexts fun v e f => .bool (hasEventField v e f)),
    ("room_field_for_event", onListAndTexts fun v s e => .str (roomFieldForEvent v s e)),
    ("has_tx_services", onValue fun v => .bool (hasTxServices v)), ("fail", fail)]

end Helper

namespace HelperKit

def filters (kit : HelperKit) : Dict Helper :=
  let base := Helper.sharedFilters ++ Helper.plainFilters
  match kit with
  | shared => base
  | goTypes => Helper.goTypeFilters ++ base
  | mongo => Helper.mongoFilters ++ Helper.goTypeFilters ++ base

def filter (kit : HelperKit) (name : String) (args : List Value) : Except Fault Value :=
  match kit.filters.get? name with
  | some f => f args
  | none => .error (.unknownFilter name)

def call (name : String) (args : List Value) : Except Fault Value :=
  match Helper.functions.get? name with
  | some f => f args
  | none => .error (.unknownFunction name)

def ofName (name : String) : HelperKit :=
  if name == "mongo" then mongo else if name == "go_types" then goTypes else shared

end HelperKit

end GoScaffold.Template
