import GoScaffold.Dict
import GoScaffold.Number.Shortest
import GoScaffold.Text.Line
import GoScaffold.Text.Quoted
import GoScaffold.Template.Basic

/-! Values while a template is rendered: JSON values, and nothing where a name or an attribute has
no value. -/

namespace GoScaffold.Template

/-- A JSON value, or none when undefined. -/
abbrev Value := Option Json

namespace Value

def field (j : Json) (name : String) : Value := j.get? name

def fieldText (j : Json) (name : String) : String := ((field j name).bind Json.str?).getD ""

/-- Empty things, zero, `false` and the undefined are false. -/
def isTrue : Value → Bool
  | none => false
  | some .null => false
  | some (.bool b) => b
  | some (.num (.int i)) => i != 0
  | some (.num (.float x)) => x.isNaN || x.magnitude != 0
  | some (.str s) => !s.isEmpty
  | some (.arr xs) => !xs.isEmpty
  | some (.obj es) => !es.isEmpty

def fieldIsTrue (j : Json) (name : String) : Bool := isTrue (field j name)

/-- What a value holds when it is gone through item by item: the characters of a string, the keys of
an object in increasing order. A number or a truth value cannot be gone through. -/
def items? : Value → Option (List Json)
  | none => some []
  | some .null => some []
  | some (.bool _) => none
  | some (.num _) => none
  | some (.str s) => some (s.toList.map fun c => .str (String.singleton c))
  | some (.arr xs) => some xs
  | some (.obj es) => some ((Dict.ofEntries es).map fun e => .str e.1)

def items (v : Value) : List Json := (items? v).getD []

def floatText (x : Binary64) : String :=
  let s := x.toPlainText
  if s.toList.contains '.' then s else s ++ ".0"

/-! The text of a value inside a list or an object, where strings are quoted. -/

mutual

def shown : Json → String
  | .null => "none"
  | .bool b => if b then "true" else "false"
  | .num (.int i) => toString i
  | .num (.float x) => floatText x
  | .str s => Text.shown s
  | .arr xs => "[" ++ Text.join ", " (shownItems xs) ++ "]"
  | .obj es => "\x7b" ++ Text.join ", " (shownEntries es) ++ "\x7d"

def shownItems : List Json → List String
  | [] => []
  | x :: xs => shown x :: shownItems xs

def shownEntries : List (String × Json) → List String
  | [] => []
  | (k, v) :: es => (Text.shown k ++ ": " ++ shown v) :: shownEntries es

end

def printed : Json → String
  | .str s => s
  | j => shown j

def printedOrEmpty (v : Value) : String := (v.map printed).getD ""

def ofBool (b : Bool) : Json.Number := .int (if b then 1 else 0)

def rank : Json.Number → Int
  | .int i => Binary64.rank (.ofInt i)
  | .float x => x.rank

def sameNumber : Json.Number → Json.Number → Bool
  | .int i, .int j => i == j
  | a, b => rank a == rank b

mutual

def same : Json → Json → Bool
  | .null, .null => true
  | .bool a, .bool b => a == b
  | .num a, .num b => sameNumber a b
  | .bool a, .num b => sameNumber (ofBool a) b
  | .num a, .bool b => sameNumber a (ofBool b)
  | .str a, .str b => a == b
  | .arr xs, .arr ys => sameItems xs ys
  | .obj es, .obj fs => sameEntries es fs
  | _, _ => false

def sameItems : List Json → List Json → Bool
  | [], [] => true
  | x :: xs, y :: ys => same x y && sameItems xs ys
  | _, _ => false

def sameEntries : List (String × Json) → List (String × Json) → Bool
  | [], [] => true
  | (k, v) :: es, (l, w) :: fs => k == l && same v w && sameEntries es fs
  | _, _ => false

end

def equal : Value → Value → Bool
  | none, none => true
  | some a, some b => same a b
  | _, _ => false

def kindRank : Value → Nat
  | none => 0
  | some .null => 1
  | some (.bool _) => 2
  | some (.num _) => 3
  | some (.str _) => 4
  | some (.arr _) => 5
  | some (.obj _) => 6

def lessNumber : Json.Number → Json.Number → Bool
  | .int i, .int j => i < j
  | a, b => rank a < rank b

/-- The first of two values is smaller. Values of different kinds are ordered by kind; lists and
objects are not ordered among themselves. -/
def less : Value → Value → Bool
  | some (.bool a), some (.bool b) => !a && b
  | some (.num a), some (.num b) => lessNumber a b
  | some (.str a), some (.str b) => a < b
  | a, b => kindRank a < kindRank b

def addNumbers : Json.Number → Json.Number → Json.Number
  | .int i, .int j => .int (i + j)
  | .int i, .float y => .float (Binary64.add (.ofInt i) y)
  | .float x, .int j => .float (x.add (.ofInt j))
  | .float x, .float y => .float (x.add y)

def add : Value → Value → Except Fault Value
  | some (.num a), some (.num b) => .ok (some (.num (addNumbers a b)))
  | some (.bool a), some (.num b) => .ok (some (.num (addNumbers (ofBool a) b)))
  | some (.num a), some (.bool b) => .ok (some (.num (addNumbers a (ofBool b))))
  | some (.bool a), some (.bool b) => .ok (some (.num (addNumbers (ofBool a) (ofBool b))))
  | some (.str a), some (.str b) => .ok (some (.str (a ++ b)))
  | some (.arr xs), some (.arr ys) => .ok (some (.arr (xs ++ ys)))
  | _, _ => .error (.badOperation "")

end Value

def BinaryOp.eval (op : BinaryOp) (a b : Value) : Except Fault Value :=
  match op with
  | .add => Value.add a b
  | .concat => .ok (some (.str (a.printedOrEmpty ++ b.printedOrEmpty)))
  | .equal => .ok (some (.bool (a.equal b)))
  | .notEqual => .ok (some (.bool (!a.equal b)))
  | .less => .ok (some (.bool (a.less b)))
  | .atMost => .ok (some (.bool (a.less b || a.equal b)))
  | .greater => .ok (some (.bool (b.less a)))
  | .atLeast => .ok (some (.bool (b.less a || a.equal b)))

end GoScaffold.Template
