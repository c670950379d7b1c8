import GoScaffold.Json.Basic

/-! Documents: the tree that a written document denotes before it is known what is expected where.
A scalar carries every reading that its notation allows, and the expected type picks one. Parts that
nothing asks for are never read, so they cannot be wrong. -/

namespace GoScaffold

inductive Presence where
  | present
  | absent
  /-- The scalar is marked as nothing and is not. -/
  | broken
deriving DecidableEq

structure Scalar where
  text : Option String := none
  name : Option String := none
  int : Option Int := none
  nat : Option Nat := none
  float : Option Binary64 := none
  bool : Option Bool := none
  free : Option Json := none
  presence : Presence := .present
  /-- Stands for an empty list, dictionary or record. -/
  blank : Bool := false

inductive Form where
  /-- A record may be the list of its fields, and a name the map from it to nothing. -/
  | loose
  | strict
  /-- The value has a type of its own, and so cannot stand where any value can. -/
  | typed
deriving DecidableEq

/-- A document. A key is `none` when it is not a readable text. -/
inductive Document where
  | scalar (s : Scalar)
  | list (form : Form) (items : List Document)
  | map (form : Form) (entries : List (Option String × Document))

namespace Document

def unreadable : Document := scalar {}

def empty : Document :=
  scalar { text := some "", free := some .null, presence := .absent, blank := true }

end Document

namespace Scalar

def ofNumber : Json.Number → Scalar
  | .int i =>
    { int := some i, nat := if 0 ≤ i then some i.toNat else none, float := some (.ofInt i)
      free := some (.int i) }
  | .float x => { float := some x, free := some (.ofFloat x) }

def ofBool (b : Bool) : Scalar := { bool := some b, free := some (.bool b) }

def ofString (s : String) : Scalar := { text := some s, name := some s, free := some (.str s) }

def null : Scalar := { free := some .null, presence := .absent }

end Scalar

namespace Document

mutual

def ofJson : Json → Document
  | .null => scalar .null
  | .bool b => scalar (.ofBool b)
  | .num n => scalar (.ofNumber n)
  | .str s => scalar (.ofString s)
  | .arr items => list .loose (ofItems items)
  | .obj entries => map .loose (ofEntries entries)

def ofItems : List Json → List Document
  | [] => []
  | j :: rest => ofJson j :: ofItems rest

def ofEntries : List (String × Json) → List (Option String × Document)
  | [] => []
  | (key, j) :: rest => (some key, ofJson j) :: ofEntries rest

end

mutual

def height : Document → Nat
  | scalar _ => 0
  | list _ items => heightItems items + 1
  | map _ entries => heightEntries entries + 1

def heightItems : List Document → Nat
  | [] => 0
  | d :: rest => max d.height (heightItems rest)

def heightEntries : List (Option String × Document) → Nat
  | [] => 0
  | (_, d) :: rest => max d.height (heightEntries rest)

end

end Document

end GoScaffold
