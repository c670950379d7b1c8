import GoScaffold.Dict
import GoScaffold.Number.Shortest

/-! JSON values and their compact text. -/

namespace GoScaffold

/-- A number of a JSON document: an integer of 64 bits with or without sign, or a floating point
number. -/
inductive Json.Number where
  | int (i : Int)
  | float (x : Binary64)
deriving DecidableEq

/-- A JSON value. The entries of an object are kept in the order in which they are written. -/
inductive Json where
  | null
  | bool (b : Bool)
  | num (n : Json.Number)
  | str (s : String)
  | arr (items : List Json)
  | obj (entries : List (String × Json))

namespace Json

def int (i : Int) : Json := num (.int i)

def nat (n : Nat) : Json := num (.int n)

def strs (texts : List String) : Json := arr (texts.map str)

def ofOption {α : Type} (toJson : α → Json) : Option α → Json
  | some a => toJson a
  | none => null

/-- A floating point number; one that is not finite has no JSON form and becomes `null`. -/
def ofFloat (x : Binary64) : Json := if x.isFinite then num (.float x) else null

def get? (j : Json) (key : String) : Option Json :=
  match j with
  | obj entries => List.lookup key entries
  | _ => none

def str? : Json → Option String
  | str s => some s
  | _ => none

end Json

end GoScaffold
