/-! Positions in a YAML text, and the classes of characters that its rules are about. -/

namespace GoScaffold.Yaml

def isAllowed (c : Char) : Bool :=
  let n := c.toNat
  n == 0x09 || n == 0x0A || n == 0x0D || (0x20 ≤ n && n ≤ 0x7E) || n == 0x85 ||
    (0xA0 ≤ n && n ≤ 0xD7FF) || (0xE000 ≤ n && n ≤ 0xFFFD) || 0x10000 ≤ n

def isBlank (c : Char) : Bool := c == ' ' || c == '\t'

def isBreak (c : Char) : Bool :=
  let n := c.toNat
  n == 0x0A || n == 0x0D || n == 0x85 || n == 0x2028 || n == 0x2029

def isWord (c : Char) : Bool := c.isAlphanum || c == '_' || c == '-'

/-- What is left of a text, and where in the text and in its line it begins. -/
structure Cursor where
  rest : List Char
  index : Nat := 0
  line : Nat := 0
  column : Nat := 0

namespace Cursor

def peek (c : Cursor) (ahead : Nat := 0) : Option Char := c.rest[ahead]?

def looksAt (c : Cursor) (ch : Char) : Bool := c.peek == some ch

def atEnd (c : Cursor) : Bool := c.rest.isEmpty

def sees (c : Cursor) (p : Char → Bool) (ahead : Nat := 0) : Bool :=
  match c.peek ahead with
  | some ch => p ch
  | none => false

def endsAt (c : Cursor) (p : Char → Bool) (ahead : Nat := 0) : Bool :=
  match c.peek ahead with
  | some ch => p ch
  | none => true

def blankAhead (c : Cursor) (ahead : Nat := 0) : Bool :=
  c.endsAt (fun ch => isBlank ch || isBreak ch) ahead

def breakAhead (c : Cursor) (ahead : Nat := 0) : Bool := c.endsAt isBreak ahead

def next (c : Cursor) : Cursor :=
  { c with rest := c.rest.drop 1, index := c.index + 1, column := c.column + 1 }

def skip (c : Cursor) (count : Nat) : Cursor :=
  { c with rest := c.rest.drop count, index := c.index + count, column := c.column + count }

def skipWhile (c : Cursor) (p : Char → Bool) : Cursor :=
  c.skip (c.rest.takeWhile p).length

/-- Passes the end of a line. A carriage return and a line feed are one. -/
def nextLine (c : Cursor) : Cursor :=
  match c.rest with
  | '\r' :: '\n' :: rest => { rest, index := c.index + 2, line := c.line + 1, column := 0 }
  | _ :: rest => { rest, index := c.index + 1, line := c.line + 1, column := 0 }
  | [] => c

def breakChar (c : Cursor) : List Char :=
  match c.rest with
  | ch :: _ =>
    if ch.toNat = 0x2028 ∨ ch.toNat = 0x2029 then [ch] else if isBreak ch then ['\n'] else []
  | [] => []

def atMarker (c : Cursor) (mark : Char) : Bool :=
  c.column == 0 && c.rest.take 3 == [mark, mark, mark] && c.blankAhead 3

def atDocumentMarker (c : Cursor) : Bool := c.atMarker '-' || c.atMarker '.'

def skipComment (c : Cursor) : Cursor :=
  if c.looksAt '#' then c.skipWhile (!isBreak ·) else c

end Cursor

end GoScaffold.Yaml
