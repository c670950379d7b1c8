import GoScaffold.Json.Numeral
import GoScaffold.Document.Reading

/-! The document that a JSON text denotes. The text must be well formed everywhere; a number out of
range or a string with half of a surrogate pair is found only where it is read. -/

namespace GoScaffold.Json

def isSpace (c : Char) : Bool := c == ' ' || c == '\n' || c == '\t' || c == '\r'

def skipSpace (cs : List Char) : List Char := cs.dropWhile isSpace

def hexValue? (c : Char) : Option Nat :=
  if c.isDigit then some (c.toNat - '0'.toNat)
  else if 'a' ≤ c ∧ c ≤ 'f' then some (c.toNat - 'a'.toNat + 10)
  else if 'A' ≤ c ∧ c ≤ 'F' then some (c.toNat - 'A'.toNat + 10)
  else none

def codeUnit? (a b c d : Char) : Option Nat := do
  return 4096 * (← hexValue? a) + 256 * (← hexValue? b) + 16 * (← hexValue? c) + (← hexValue? d)

def escaped? (c : Char) : Option Char :=
  if c = '"' || c = '\\' || c = '/' then some c
  else if c = 'n' then some '\n'
  else if c = 'r' then some '\r'
  else if c = 't' then some '\t'
  else if c = 'b' then some (Char.ofNat 0x08)
  else if c = 'f' then some (Char.ofNat 0x0C)
  else none

/-- The code units of a string, up to its closing quote. A character that is not escaped counts as
one unit, so units above `0xFFFF` are whole characters. -/
def readUnits (units : List Nat) : List Char → Option (List Nat × List Char)
  | [] => none
  | '"' :: rest => some (units.reverse, rest)
  | '\\' :: 'u' :: a :: b :: c :: d :: rest => do
    let unit ← codeUnit? a b c d
    readUnits (unit :: units) rest
  | '\\' :: c :: rest => do
    let char ← escaped? c
    readUnits (char.toNat :: units) rest
  | c :: rest => if c.toNat < 0x20 then none else readUnits (c.toNat :: units) rest

/-- The characters of code units; `none` when half of a surrogate pair stands alone. -/
def charsOfUnits (cs : List Char) : List Nat → Option (List Char)
  | [] => some cs.reverse
  | u :: rest =>
    if 0xD800 ≤ u ∧ u < 0xDC00 then
      match rest with
      | v :: rest =>
        if 0xDC00 ≤ v ∧ v < 0xE000 then
          charsOfUnits (Char.ofNat (0x10000 + 1024 * (u - 0xD800) + (v - 0xDC00)) :: cs) rest
        else none
      | [] => none
    else if 0xDC00 ≤ u ∧ u < 0xE000 then none
    else charsOfUnits (Char.ofNat u :: cs) rest

def readString (cs : List Char) : Option (Option String × List Char) :=
  (readUnits [] cs).map fun (units, rest) => ((charsOfUnits [] units).map String.ofList, rest)

def numeralScalar (n : Numeral) : Scalar :=
  match n.number? with
  | some n => .ofNumber n
  | none => {}

def stringScalar (s : Option String) : Scalar :=
  match s with
  | some s => .ofString s
  | none => {}

mutual

def readValue : (fuel : Nat) → List Char → Option (Document × List Char)
  | 0, _ => none
  | fuel + 1, cs =>
    match skipSpace cs with
    | 'n' :: 'u' :: 'l' :: 'l' :: rest => some (.scalar .null, rest)
    | 't' :: 'r' :: 'u' :: 'e' :: rest => some (.scalar (.ofBool true), rest)
    | 'f' :: 'a' :: 'l' :: 's' :: 'e' :: rest => some (.scalar (.ofBool false), rest)
    | '"' :: rest => (readString rest).map fun (s, rest) => (.scalar (stringScalar s), rest)
    | '[' :: rest =>
      match skipSpace rest with
      | ']' :: rest => some (.list .loose [], rest)
      | rest => (readItems fuel [] rest).map fun (items, rest) => (.list .loose items, rest)
    | '\x7b' :: rest =>
      match skipSpace rest with
      | '\x7d' :: rest => some (.map .loose [], rest)
      | rest => (readEntries fuel [] rest).map fun (entries, rest) => (.map .loose entries, rest)
    | cs => (Numeral.read cs).map fun (n, rest) => (.scalar (numeralScalar n), rest)

def readItems : (fuel : Nat) → List Document → List Char → Option (List Document × List Char)
  | 0, _, _ => none
  | fuel + 1, items, cs => do
    let (d, rest) ← readValue fuel cs
    match skipSpace rest with
    | ',' :: rest => readItems fuel (d :: items) rest
    | ']' :: rest => return ((d :: items).reverse, rest)
    | _ => none

def readEntries : (fuel : Nat) → List (Option String × Document) → List Char →
    Option (List (Option String × Document) × List Char)
  | 0, _, _ => none
  | fuel + 1, entries, cs =>
    match skipSpace cs with
    | '"' :: rest => do
      let (key, rest) ← readString rest
      match skipSpace rest with
      | ':' :: rest =>
        let (d, rest) ← readValue fuel rest
        match skipSpace rest with
        | ',' :: rest => readEntries fuel ((key, d) :: entries) rest
        | '\x7d' :: rest => return (((key, d) :: entries).reverse, rest)
        | _ => none
      | _ => none
    | _ => none

end

def document? (text : String) : Option Document := do
  let cs := text.toList
  let (d, rest) ← readValue (cs.length + 1) cs
  if (skipSpace rest).isEmpty then some d else none

def maxDepth : Nat := 127

def decode? {α : Type} (reading : Reading α) (text : String) : Option α :=
  (document? text).bind (reading maxDepth)

def parse? (text : String) : Option Json := decode? .free text

end GoScaffold.Json
