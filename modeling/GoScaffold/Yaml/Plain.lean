import GoScaffold.Document.Basic
import GoScaffold.Text.Substring
import GoScaffold.Yaml.Token

/-! The readings of YAML scalars: which plain scalars are nothing, truth values or numbers, and what
tags change about that. -/

namespace GoScaffold.Yaml

def isNull (s : String) : Bool := s == "null" || s == "Null" || s == "NULL" || s == "~"

def bool? : String → Option Bool
  | "true" | "True" | "TRUE" => some true
  | "false" | "False" | "FALSE" => some false
  | _ => none

def digit? (radix : Nat) (c : Char) : Option Nat :=
  let n :=
    if c.isDigit then c.toNat - '0'.toNat
    else if c.isLower then c.toNat - 'a'.toNat + 10
    else if c.isUpper then c.toNat - 'A'.toNat + 10
    else radix
  if n < radix then some n else none

def digits? (radix : Nat) (cs : List Char) : Option Nat :=
  if cs.isEmpty then none else cs.foldlM (fun n c => (digit? radix c).map (radix * n + ·)) 0

def hasLeadingZero (cs : List Char) : Bool :=
  let cs := match cs with
    | '-' :: rest | '+' :: rest => rest
    | _ => cs
  match cs with
  | '0' :: d :: rest => (d :: rest).all Char.isDigit
  | _ => false

def magnitude? : List Char → Option Nat
  | '0' :: 'x' :: rest => digits? 16 rest
  | '0' :: 'o' :: rest => digits? 8 rest
  | '0' :: 'b' :: rest => digits? 2 rest
  | cs => digits? 10 cs

def int? (s : String) : Option Int :=
  let cs := s.toList
  if hasLeadingZero cs then none
  else match cs with
    | '-' :: rest => (magnitude? rest).map fun n => -(n : Int)
    | '+' :: rest => (magnitude? rest).map fun n => (n : Int)
    | _ => (magnitude? cs).map fun n => (n : Int)

def nat? (s : String) : Option Nat :=
  if Text.startsWith s "-" then none else (int? s).map Int.toNat

/-- The floating point number that a scalar stands for. It is finite but for the words that name
other numbers. -/
def float? (s : String) : Option Binary64 :=
  let unsigned := match s.toList with
    | '+' :: rest => if rest.head? == some '+' || rest.head? == some '-' then none
      else some (String.ofList rest)
    | _ => some s
  match unsigned, s with
  | none, _ => none
  | some ".inf", _ | some ".Inf", _ | some ".INF", _ => some (.infinity false)
  | _, "-.inf" | _, "-.Inf" | _, "-.INF" => some (.infinity true)
  | _, ".nan" | _, ".NaN" | _, ".NAN" => some .nan
  | some u, _ => (Binary64.parse? u).filter Binary64.isFinite

/-- An integer in a place for any value. One that needs more than 64 bits but no more than 128 is
refused, and one that needs still more is not read as an integer. -/
def freeInt? (i : Int) : Option (Option Json) :=
  if Width.holdsEither 64 i then some (some (.int i))
  else if Width.holdsEither 128 i then some none
  else none

def freePlain (s : String) : Option Json :=
  if s.isEmpty || isNull s then some .null
  else match bool? s, (int? s).bind freeInt? with
    | some b, _ => some (.bool b)
    | none, some result => result
    | none, none =>
      if hasLeadingZero s.toList then some (.str s)
      else match float? s with
        | some x => some (.ofFloat x)
        | none => some (.str s)

def coreTag (name : String) : String := "tag:yaml.org,2002:" ++ name

def freeTagged (tag : String) (s : String) : Option Json :=
  if tag = coreTag "bool" then (bool? s).map .bool
  else if tag = coreTag "int" then ((int? s).bind freeInt?).bind id
  else if tag = coreTag "float" then (float? s).map .ofFloat
  else if tag = coreTag "null" then (if isNull s then some .null else none)
  else some (.str s)

def isLocal (tag : Option String) : Bool :=
  match tag with
  | some t => Text.startsWith t "!"
  | none => false

def presence (tag : Option String) (style : Style) (s : String) : Presence :=
  if style ≠ .plain then .present
  else match tag with
    | none => if s.isEmpty || isNull s then .absent else .present
    | some t => if t = coreTag "null" then (if isNull s then .absent else .broken) else .present

def readings (tag : Option String) (style : Style) (s : String) : Scalar :=
  let plain := style == .plain
  let asTyped (name : String) : Bool := plain || (style == .literal && tag == some (coreTag name))
  let guard {α : Type} (ok : Bool) (a : Option α) : Option α := if ok then a else none
  { text := some s
    name := match tag with
      | some t =>
        if !isLocal tag then some s
        else if plain && (s.isEmpty || isNull s) then some (String.ofList (t.toList.drop 1))
        else none
      | none => some s
    int := guard (asTyped "int") (int? s)
    nat := guard (asTyped "int") (nat? s)
    float := guard (asTyped "float") (float? s)
    bool := guard (asTyped "bool") (bool? s)
    free := match tag with
      | some t => if isLocal tag then none else freeTagged t s
      | none => if plain then freePlain s else some (.str s)
    presence := presence tag style s
    blank := plain && s.isEmpty }

end GoScaffold.Yaml
