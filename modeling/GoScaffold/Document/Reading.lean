import GoScaffold.Document.Basic

/-! Reading typed values from documents. A reading fails as a whole: there is no partial result.
Every reader takes the number of levels that may still be opened below it. -/

namespace GoScaffold

/-- Reads a value, given how many levels of lists and maps it may open. -/
abbrev Reading (α : Type) := (depth : Nat) → Document → Option α

namespace Reading

variable {α : Type}

def text : Reading String
  | _, .scalar s => s.text
  | _, _ => none

def bool : Reading Bool
  | _, .scalar s => s.bool
  | _, _ => none

def int64 : Reading Int
  | _, .scalar s => s.int.filter (Width.holdsInt 64)
  | _, _ => none

def nat32 : Reading Nat
  | _, .scalar s => s.nat.filter (Width.holdsNat 32)
  | _, _ => none

def float : Reading Binary64
  | _, .scalar s => s.float
  | _, _ => none

def optional (read : Reading α) : Reading (Option α)
  | depth, .scalar s => match s.presence with
    | .present => (read depth (.scalar s)).map some
    | .absent => some none
    | .broken => none
  | depth, d => (read depth d).map some

def list (read : Reading α) : Reading (List α)
  | depth + 1, .list _ items => items.mapM (read depth)
  | _, .scalar s => if s.blank then some [] else none
  | _, _ => none

def entry (read : Document → Option α) (e : Option String × Document) : Option (String × α) := do
  return (← e.1, ← read e.2)

/-- A dictionary; of two entries with one key the later counts, but both are read. -/
def dict (read : Reading α) : Reading (Dict α)
  | depth + 1, .map _ entries =>
    (entries.mapM (entry (read depth))).map Dict.ofEntries
  | _, .scalar s => if s.blank then some [] else none
  | _, _ => none

def free : Reading Json
  | _, .scalar s => s.free
  | 0, _ => none
  | depth + 1, .list form items =>
    if form = .typed then none else (items.mapM (free depth)).map .arr
  | depth + 1, .map form entries =>
    if form = .typed then none
    else (entries.mapM (entry (free depth))).map fun es => .obj (Dict.ofEntries es)

/-- One of several names: a text, or in a loose notation the map from the name to nothing. -/
def name : Reading String
  | _, .scalar s => s.name
  | _ + 1, .map .loose [(some key, .scalar s)] => match s.free with
    | some .null => some key
    | _ => none
  | _, _ => none

end Reading

structure FieldKey where
  key : String
  aliases : List String := []

instance : Coe String FieldKey := ⟨fun key => { key }⟩

/-- The fields that a document gives for a record, by their keys, and the levels left below it. -/
structure Fields where
  depth : Nat := 0
  given : List (String × Document) := []

namespace Fields

variable {α : Type}

def add? (fields : List (String × Document)) (key : String) (d : Document) :
    Option (List (String × Document)) :=
  if (List.lookup key fields).isSome then none else some (fields ++ [(key, d)])

/-- Collects the entries of a map that are fields of the record. Unknown keys are passed over; a
field that is given twice is an error. -/
def collect (keys : List FieldKey) :
    List (Option String × Document) → List (String × Document) → Option (List (String × Document))
  | [], fields => some fields
  | (none, _) :: _, _ => none
  | (some k, d) :: rest, fields =>
    match keys.find? fun f => f.key == k || f.aliases.contains k with
    | none => collect keys rest fields
    | some f => (add? fields f.key d).bind (collect keys rest)

def open? (keys : List FieldKey) : Reading Fields
  | depth + 1, .map _ entries => (collect keys entries []).map fun given => { depth, given }
  | depth + 1, .list .loose items =>
    if keys.length < items.length then none
    else some { depth, given := (keys.map FieldKey.key).zip items }
  | depth, .scalar s => if s.blank then some { depth } else none
  | _, _ => none

def read (f : Fields) (key : String) (reading : Reading α) (default : α) : Option α :=
  match List.lookup key f.given with
  | none => some default
  | some d => reading f.depth d

def text (f : Fields) (key : String) : Option String := f.read key .text ""

def texts (f : Fields) (key : String) : Option (List String) := f.read key (.list .text) []

def bool (f : Fields) (key : String) : Option Bool := f.read key .bool false

def int64 (f : Fields) (key : String) : Option Int := f.read key .int64 0

def optional (f : Fields) (key : String) (reading : Reading α) : Option (Option α) :=
  f.read key (.optional reading) none

def list (f : Fields) (key : String) (reading : Reading α) : Option (List α) :=
  f.read key (.list reading) []

def dict (f : Fields) (key : String) (reading : Reading α) : Option (Dict α) :=
  f.read key (.dict reading) []

def metadata (f : Fields) (key : String) : Option (Dict Json) := f.dict key .free

end Fields

end GoScaffold
