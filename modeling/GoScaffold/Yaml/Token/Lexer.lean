import GoScaffold.Yaml.ScalarText
import GoScaffold.Yaml.Token

/-! The tokens of a YAML text. A key is recognised only by the colon behind it, so its place is
remembered and the token inserted there; indentation opens and closes blocks. -/

namespace GoScaffold.Yaml

structure PendingKey where
  required : Bool
  number : Nat
  index : Nat
  line : Nat
  column : Nat

structure Lexer where
  pos : Cursor
  tokens : List Token := []
  count : Nat := 0
  /-- The column of the innermost block, and of those around it. -/
  indent : Int := -1
  indents : List Int := []
  keyAllowed : Bool := true
  /-- The pending key of each flow level, the innermost first. -/
  keys : List (Option PendingKey) := [none]

namespace Lexer

def flowLevel (l : Lexer) : Nat := l.keys.length - 1

def inFlow (l : Lexer) : Bool := 0 < l.flowLevel

def push (t : Token) (l : Lexer) : Lexer := { l with tokens := t :: l.tokens, count := l.count + 1 }

def insert (number : Nat) (t : Token) (l : Lexer) : Lexer :=
  let later := l.count - number
  { l with tokens := l.tokens.take later ++ t :: l.tokens.drop later, count := l.count + 1 }

def moveTo (c : Cursor) (l : Lexer) : Lexer := { l with pos := c }

def skip (count : Nat) (l : Lexer) : Lexer := l.moveTo (l.pos.skip count)

def allowKey (allowed : Bool) (l : Lexer) : Lexer := { l with keyAllowed := allowed }

/-- A key and its colon stand on one line, at most 1024 characters apart. -/
def isStale (l : Lexer) (k : PendingKey) : Bool :=
  k.line < l.pos.line || k.index + 1024 < l.pos.index

/-- Forgets keys that can be none any more; `none` if one of them had to be a key. -/
def dropStaleKeys (l : Lexer) : Option Lexer := do
  let keys ← l.keys.mapM fun
    | some k => if l.isStale k then (if k.required then none else some none) else some (some k)
    | none => some none
  return { l with keys }

def dropKey (l : Lexer) : Option Lexer :=
  match l.keys with
  | some k :: rest => if k.required then none else some { l with keys := none :: rest }
  | _ => some l

def saveKey (l : Lexer) : Option Lexer :=
  if !l.keyAllowed then some l
  else do
    let l ← l.dropKey
    let key : PendingKey :=
      { required := !l.inFlow && l.indent == (l.pos.column : Int), number := l.count
        index := l.pos.index, line := l.pos.line, column := l.pos.column }
    return { l with keys := some key :: l.keys.drop 1 }

def openBlock (column number : Nat) (start : Token) (l : Lexer) : Lexer :=
  if l.inFlow || (column : Int) ≤ l.indent then l
  else insert number start { l with indents := l.indent :: l.indents, indent := column }

def closeBlocks (column : Int) (l : Lexer) : Lexer :=
  if l.inFlow then l
  else
    let closed := (l.indent :: l.indents).takeWhile (column < ·)
    let left := (l.indent :: l.indents).dropWhile (column < ·)
    { l with
      tokens := List.replicate closed.length .blockEnd ++ l.tokens
      count := l.count + closed.length
      indent := left.headD (-1)
      indents := left.drop 1 }

/-- Passes blanks, comments and line ends. A tab counts as blank only where no key can begin. -/
def skipSpace : (fuel : Nat) → Lexer → Lexer
  | 0, l => l
  | fuel + 1, l =>
    let c := if l.pos.index = 0 && l.pos.sees (·.toNat == 0xFEFF) then l.pos.next else l.pos
    let tabs := l.inFlow || !l.keyAllowed
    let c := (c.skipWhile fun ch => ch == ' ' || (tabs && ch == '\t')).skipComment
    if c.sees isBreak then
      skipSpace fuel { l with pos := c.nextLine, keyAllowed := l.keyAllowed || !l.inFlow }
    else { l with pos := c }

def documentMarker (t : Token) (l : Lexer) : Option Lexer := do
  let l ← (l.closeBlocks (-1)).dropKey
  return ((l.allowKey false).skip 3).push t

def flowStart (t : Token) (l : Lexer) : Option Lexer := do
  let l ← l.saveKey
  let l := { l with keys := none :: l.keys }
  return ((l.allowKey true).skip 1).push t

def flowEnd (t : Token) (l : Lexer) : Option Lexer := do
  let l ← l.dropKey
  let l := if l.inFlow then { l with keys := l.keys.drop 1 } else l
  return ((l.allowKey false).skip 1).push t

def flowEntry (l : Lexer) : Option Lexer := do
  return (((← l.dropKey).allowKey true).skip 1).push .flowEntry

def blockEntry (l : Lexer) : Option Lexer := do
  if !l.inFlow && !l.keyAllowed then none
  else
    let l ← (l.openBlock l.pos.column l.count .blockSequenceStart).dropKey
    return ((l.allowKey true).skip 1).push .blockEntry

def explicitKey (l : Lexer) : Option Lexer := do
  if !l.inFlow && !l.keyAllowed then none
  else
    let l ← (l.openBlock l.pos.column l.count .blockMappingStart).dropKey
    return ((l.allowKey (!l.inFlow)).skip 1).push .key

/-- A colon: makes a key of the pending one, if there is one. -/
def value (l : Lexer) : Option Lexer :=
  match l.keys with
  | some k :: rest =>
    let l := insert k.number .key { l with keys := none :: rest }
    let l := l.openBlock k.column k.number .blockMappingStart
    some (((l.allowKey false).skip 1).push .value)
  | _ =>
    if !l.inFlow && !l.keyAllowed then none
    else
      let l := l.openBlock l.pos.column l.count .blockMappingStart
      some (((l.allowKey (!l.inFlow)).skip 1).push .value)

def endsAnchor (c : Cursor) : Bool :=
  c.blankAhead || c.sees fun ch => "?:,]\x7d%@\x60".toList.contains ch

def anchor (make : String → Token) (l : Lexer) : Option Lexer := do
  let l ← l.saveKey
  let c := l.pos.next
  let name := c.rest.takeWhile isWord
  let c := c.skip name.length
  if name.isEmpty || !endsAnchor c then none
  else return ((l.allowKey false).moveTo c).push (make (String.ofList name))

def isTagChar (verbatim : Bool) (c : Char) : Bool :=
  isWord c || ";/?:@&=+$.%!~*()".toList.contains c || c.toNat == 0x27 ||
    (verbatim && (c == ',' || c == '[' || c == ']'))

/-- The bytes of percent escapes are read as UTF-8. -/
def tagBytes : List Char → Option (List UInt8)
  | [] => some []
  | '%' :: a :: b :: rest => do
    let n ← hexNumber? [a, b]
    return UInt8.ofNat n :: (← tagBytes rest)
  | '%' :: _ => none
  | c :: rest => do return (String.singleton c).toUTF8.toList ++ (← tagBytes rest)

def tagText? (cs : List Char) : Option String := do
  String.fromUTF8? (ByteArray.mk (← tagBytes cs).toArray)

def readHandle (c : Cursor) : Option (List Char × Cursor) :=
  match c.rest with
  | '!' :: rest =>
    let word := rest.takeWhile isWord
    let c := c.skip (word.length + 1)
    if c.looksAt '!' then some ('!' :: (word ++ ['!']), c.next) else some ('!' :: word, c)
  | _ => none

def readTagText (verbatim : Bool) (c : Cursor) : List Char × Cursor :=
  let cs := c.rest.takeWhile (isTagChar verbatim)
  (cs, c.skip cs.length)

def readTag (c : Cursor) : Option (String × String × Cursor) := do
  if c.peek 1 == some '<' then
    let (cs, c) := readTagText true (c.skip 2)
    if cs.isEmpty || !c.looksAt '>' then none else return ("", ← tagText? cs, c.next)
  else
    let (handle, c) ← readHandle c
    let (cs, c) := readTagText false c
    if 1 < handle.length && handle.getLast? == some '!' then
      if cs.isEmpty then none else return (String.ofList handle, ← tagText? cs, c)
    else
      let suffix ← tagText? (handle.drop 1 ++ cs)
      return if suffix.isEmpty then ("", "!", c) else ("!", suffix, c)

def tag (l : Lexer) : Option Lexer := do
  let l ← l.saveKey
  let (handle, suffix, c) ← readTag l.pos
  if !c.blankAhead && !(l.inFlow && c.looksAt ',') then none
  else return ((l.allowKey false).moveTo c).push (.tag handle suffix)

def blockScalar (literal : Bool) (l : Lexer) : Option Lexer := do
  let l ← l.dropKey
  let (text, c) ← blockText literal l.indent l.pos.next
  return ((l.allowKey true).moveTo c).push
    (.scalar (if literal then .literal else .folded) (String.ofList text))

def quotedScalar (single : Bool) (l : Lexer) : Option Lexer := do
  let l ← l.saveKey
  let c := l.pos.next
  let (text, c) ← quotedText single (c.rest.length + 1) [] c
  return ((l.allowKey false).moveTo c).push
    (.scalar (if single then .singleQuoted else .doubleQuoted) (String.ofList text.reverse))

def plainScalar (l : Lexer) : Option Lexer := do
  let l ← l.saveKey
  let (text, gap, c) ← plainText l.inFlow (l.indent + 1) (l.pos.rest.length + 1) [] {} l.pos
  return ((l.allowKey gap.broken).moveTo c).push (.scalar .plain (String.ofList text.reverse))

def readNumber (c : Cursor) : Option (Nat × Cursor) :=
  let digits := c.rest.takeWhile Char.isDigit
  if digits.isEmpty || 9 < digits.length then none
  else some (digits.foldl (fun n d => 10 * n + (d.toNat - '0'.toNat)) 0, c.skip digits.length)

def readVersion (c : Cursor) : Option (Token × Cursor) := do
  let (major, c) ← readNumber (c.skipWhile isBlank)
  if !c.looksAt '.' then none
  else
    let (minor, c) ← readNumber c.next
    return (.version major minor, c)

def readTagDirective (c : Cursor) : Option (Token × Cursor) := do
  let (handle, c) ← readHandle (c.skipWhile isBlank)
  let closed := handle.length == 1 || handle.getLast? == some '!'
  if !closed || !c.sees isBlank then none
  else
    let (cs, c) := readTagText true (c.skipWhile isBlank)
    if cs.isEmpty || !c.blankAhead then none
    else return (.tagDirective (String.ofList handle) (← tagText? cs), c)

def directive (l : Lexer) : Option Lexer := do
  let l ← (l.closeBlocks (-1)).dropKey
  let c := l.pos.next
  let name := c.rest.takeWhile isWord
  let c := c.skip name.length
  if name.isEmpty || !c.blankAhead then none
  else
    let (t, c) ←
      if name = "YAML".toList then readVersion c
      else if name = "TAG".toList then readTagDirective c
      else none
    let c := (c.skipWhile isBlank).skipComment
    if !c.breakAhead then none
    else return ((l.allowKey false).moveTo (if c.atEnd then c else c.nextLine)).push t

def startsPlain (l : Lexer) : Bool :=
  let c := l.pos
  match c.peek with
  | none => false
  | some ch =>
    let indicator := "-?:,[]\x7b\x7d#&*!|>\"%@\x60".toList.contains ch || ch.toNat == 0x27
    (!isBlank ch && !isBreak ch && !indicator) ||
      (ch == '-' && !c.sees isBlank 1) ||
      (!l.inFlow && (ch == '?' || ch == ':') && !c.blankAhead 1)

def token (l : Lexer) : Option Lexer :=
  let c := l.pos
  let quoted := if atQuote true c then some true else if atQuote false c then some false else none
  match c.peek, quoted with
  | _, some single => l.quotedScalar single
  | none, _ => none
  | some ch, none =>
    if ch == '%' && c.column == 0 then l.directive
    else if c.atMarker '-' then l.documentMarker .documentStart
    else if c.atMarker '.' then l.documentMarker .documentEnd
    else if ch == '[' then l.flowStart .flowSequenceStart
    else if ch == '\x7b' then l.flowStart .flowMappingStart
    else if ch == ']' then l.flowEnd .flowSequenceEnd
    else if ch == '\x7d' then l.flowEnd .flowMappingEnd
    else if ch == ',' then l.flowEntry
    else if ch == '-' && c.blankAhead 1 then l.blockEntry
    else if ch == '?' && (l.inFlow || c.blankAhead 1) then l.explicitKey
    else if ch == ':' && (l.inFlow || c.blankAhead 1) then l.value
    else if ch == '*' then l.anchor .reference
    else if ch == '&' then l.anchor .anchor
    else if ch == '!' then l.tag
    else if ch == '|' && !l.inFlow then l.blockScalar true
    else if ch == '>' && !l.inFlow then l.blockScalar false
    else if l.startsPlain then l.plainScalar
    else none

def run : (fuel : Nat) → Lexer → Option (List Token)
  | 0, _ => none
  | fuel + 1, l => do
    let l ← (skipSpace (l.pos.rest.length + 1) l).dropStaleKeys
    let l := l.closeBlocks l.pos.column
    if l.pos.atEnd then
      let c :=
        if l.pos.column = 0 then l.pos else { l.pos with column := 0, line := l.pos.line + 1 }
      let l ← ((l.moveTo c).closeBlocks (-1)).dropKey
      return l.tokens.reverse
    else run fuel (← l.token)

end Lexer

def Token.scan? (text : String) : Option (List Token) :=
  let cs := text.toList
  if cs.all isAllowed then Lexer.run (cs.length + 1) { pos := { rest := cs } } else none

end GoScaffold.Yaml
