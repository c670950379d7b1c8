import GoScaffold.Text.Substring
import GoScaffold.Yaml.Cursor

/-! The texts of scalars: plain ones, quoted ones and blocks. -/

namespace GoScaffold.Yaml

structure Gap where
  blanks : List Char := []
  broken : Bool := false
  first : List Char := []
  more : List Char := []

namespace Gap

/-- What a gap means: one line end is a blank, several are one less, blanks alone are kept. -/
def text (g : Gap) : List Char :=
  if !g.broken then g.blanks
  else if g.first = ['\n'] then (if g.more.isEmpty then [' '] else g.more)
  else g.first ++ g.more

def addBreak (g : Gap) (c : Cursor) : Gap :=
  if g.broken then { g with more := g.more ++ c.breakChar }
  else { blanks := [], broken := true, first := c.breakChar, more := [] }

/-- Reads blanks and line ends. In a plain scalar a tab must not stand for indentation; `indent` is
the column where its lines begin at least. -/
def read (indent : Option Int) : (fuel : Nat) → Gap → Cursor → Option (Gap × Cursor)
  | 0, _, _ => none
  | fuel + 1, g, c =>
    match c.peek with
    | none => some (g, c)
    | some ch =>
      if isBlank ch then
        let misplaced := match indent with
          | some n => g.broken && (c.column : Int) < n && ch == '\t'
          | none => false
        if misplaced then none
        else read indent fuel (if g.broken then g else { g with blanks := g.blanks ++ [ch] }) c.next
      else if isBreak ch then read indent fuel (g.addBreak c) c.nextLine
      else some (g, c)

end Gap

def isFlowIndicator (c : Char) : Bool :=
  c == ',' || c == '[' || c == ']' || c == '\x7b' || c == '\x7d'

/-- Reads a word of a plain scalar, up to a blank or an indicator. `text` is what was read before,
in reverse; the gap is joined in front of the first character. -/
def plainWord (flow : Bool) : (fuel : Nat) → (text : List Char) → Gap → Cursor →
    Option (List Char × Gap × Cursor)
  | 0, _, _, _ => none
  | fuel + 1, text, g, c =>
    if c.blankAhead then some (text, g, c)
    else
      let colon := c.looksAt ':'
      if flow && colon && c.sees (fun ch => isFlowIndicator ch || ch == '?') 1 then none
      else if (colon && c.blankAhead 1) || (flow && c.sees isFlowIndicator) then some (text, g, c)
      else plainWord flow fuel (c.rest.head?.toList ++ g.text.reverse ++ text) {} c.next

def plainText (flow : Bool) (indent : Int) : (fuel : Nat) → (text : List Char) → Gap → Cursor →
    Option (List Char × Gap × Cursor)
  | 0, _, _, _ => none
  | fuel + 1, text, g, c =>
    if c.atDocumentMarker || c.looksAt '#' then some (text, g, c)
    else do
      let (text, g, c) ← plainWord flow (c.rest.length + 1) text g c
      if !c.sees fun ch => isBlank ch || isBreak ch then some (text, g, c)
      else
        let (g, c) ← g.read (some indent) (c.rest.length + 1) c
        if !flow && (c.column : Int) < indent then some (text, g, c)
        else plainText flow indent fuel text g c

def escapeChar? (c : Char) : Option Char :=
  match c with
  | '0' => some (Char.ofNat 0)
  | 'a' => some (Char.ofNat 0x07)
  | 'b' => some (Char.ofNat 0x08)
  | 't' | '\t' => some '\t'
  | 'n' => some '\n'
  | 'v' => some (Char.ofNat 0x0B)
  | 'f' => some (Char.ofNat 0x0C)
  | 'r' => some '\r'
  | 'e' => some (Char.ofNat 0x1B)
  | ' ' | '"' | '/' | '\\' => some c
  | 'N' => some (Char.ofNat 0x85)
  | '_' => some (Char.ofNat 0xA0)
  | 'L' => some (Char.ofNat 0x2028)
  | 'P' => some (Char.ofNat 0x2029)
  | _ => none

def escapeWidth? (c : Char) : Option Nat :=
  match c with
  | 'x' => some 2
  | 'u' => some 4
  | 'U' => some 8
  | _ => none

def hexDigit? (c : Char) : Option Nat :=
  if c.isDigit then some (c.toNat - '0'.toNat)
  else if 'a' ≤ c ∧ c ≤ 'f' then some (c.toNat - 'a'.toNat + 10)
  else if 'A' ≤ c ∧ c ≤ 'F' then some (c.toNat - 'A'.toNat + 10)
  else none

def hexNumber? (cs : List Char) : Option Nat :=
  cs.foldlM (fun n c => (hexDigit? c).map (16 * n + ·)) 0

def charOfCode? (n : Nat) : Option Char :=
  if (0xD800 ≤ n ∧ n ≤ 0xDFFF) ∨ 0x10FFFF < n then none else some (Char.ofNat n)

def readEscape (c : Cursor) : Option (Char × Cursor) := do
  let letter ← c.peek
  match escapeWidth? letter with
  | none => return (← escapeChar? letter, c.next)
  | some width =>
    let digits := (c.rest.drop 1).take width
    if digits.length < width then none
    else return (← charOfCode? (← hexNumber? digits), c.skip (width + 1))

def quoteCode (single : Bool) : Nat := if single then 0x27 else 0x22

def atQuote (single : Bool) (c : Cursor) (ahead : Nat := 0) : Bool :=
  c.sees (fun ch => ch.toNat == quoteCode single) ahead

/-- Reads characters of a quoted scalar up to a blank or the closing quote. A line end that is
escaped opens a gap of its own. -/
def quotedWord (single : Bool) : (fuel : Nat) → (text : List Char) → Cursor →
    Option (List Char × Gap × Cursor)
  | 0, _, _ => none
  | fuel + 1, text, c =>
    if c.blankAhead then some (text, {}, c)
    else if single && atQuote true c && atQuote true c 1 then
      quotedWord single fuel (Char.ofNat 0x27 :: text) (c.skip 2)
    else if atQuote single c then some (text, {}, c)
    else if !single && c.looksAt '\\' then
      if c.sees isBreak 1 then some (text, { broken := true }, c.next.nextLine)
      else do
        let (ch, c) ← readEscape c.next
        quotedWord single fuel (ch :: text) c
    else quotedWord single fuel (c.rest.head?.toList ++ text) c.next

def quotedText (single : Bool) : (fuel : Nat) → (text : List Char) → Cursor →
    Option (List Char × Cursor)
  | 0, _, _ => none
  | fuel + 1, text, c =>
    if c.atDocumentMarker || c.atEnd then none
    else do
      let (text, g, c) ← quotedWord single (c.rest.length + 1) text c
      if atQuote single c then some (text, c.next)
      else
        let (g, c) ← g.read none (c.rest.length + 1) c
        quotedText single fuel (g.text.reverse ++ text) c

inductive Chomping where
  | strip | clip | keep
deriving DecidableEq

structure BlockHead where
  chomping : Chomping := .clip
  indent : Option Nat := none

def readChomping (c : Cursor) : Option Chomping × Cursor :=
  if c.looksAt '+' then (some .keep, c.next)
  else if c.looksAt '-' then (some .strip, c.next)
  else (none, c)

def readIndent (c : Cursor) : Option (Option Nat × Cursor) :=
  match c.peek with
  | some ch =>
    if ch.isDigit then
      if ch = '0' then none else some (some (ch.toNat - '0'.toNat), c.next)
    else some (none, c)
  | none => some (none, c)

def readBlockHead (c : Cursor) : Option (BlockHead × Cursor) := do
  let (first, c) := readChomping c
  let (indent, c) ← readIndent c
  let (second, c) := if first.isNone && indent.isSome then readChomping c else (none, c)
  let c := (c.skipWhile isBlank).skipComment
  if !c.breakAhead then none
  else
    let chomping := (first.orElse fun _ => second).getD .clip
    return ({ chomping, indent }, if c.atEnd then c else c.nextLine)

/-- Passes empty lines and indentation up to `indent`, where that is known, and gives the line ends
and the widest indentation. A tab must not stand for indentation. -/
def blockBreaks (indent : Option Nat) : (fuel : Nat) → (breaks : List Char) → (widest : Nat) →
    Cursor → Option (List Char × Nat × Cursor)
  | 0, _, _, _ => none
  | fuel + 1, breaks, widest, c =>
    let spaces := (c.rest.takeWhile (· == ' ')).length
    let c := c.skip (match indent with
      | some n => min spaces (n - c.column)
      | none => spaces)
    let widest := max widest c.column
    let inside := match indent with
      | some n => c.column < n
      | none => true
    if inside && c.looksAt '\t' then none
    else if !c.sees isBreak then some (breaks, widest, c)
    else blockBreaks indent fuel (breaks ++ c.breakChar) widest c.nextLine

/-- Reads the lines of a block scalar. `lead` is the line end before the current line, `trail` are
the empty lines behind it, and `blank` says that the line before began with a blank. Gives the text
in reverse and the line ends that are left. -/
def blockLines (literal : Bool) (indent : Nat) : (fuel : Nat) → (text lead trail : List Char) →
    (blank : Bool) → Cursor → Option (List Char × List Char × List Char × Cursor)
  | 0, _, _, _, _, _ => none
  | fuel + 1, text, lead, trail, blank, c =>
    if c.column ≠ indent || c.atEnd then some (text, lead, trail, c)
    else do
      let startsBlank := c.sees isBlank
      let joint :=
        if !literal && lead = ['\n'] && !blank && !startsBlank then
          (if trail.isEmpty then [' '] else [])
        else lead
      let line := c.rest.takeWhile (!isBreak ·)
      let c := c.skip line.length
      let lead := c.breakChar
      let c := if c.atEnd then c else c.nextLine
      let text' := line.reverse ++ trail.reverse ++ joint.reverse ++ text
      let (trail, _, c) ← blockBreaks (some indent) (c.rest.length + 1) [] 0 c
      blockLines literal indent fuel text' lead trail startsBlank c

def blockText (literal : Bool) (parent : Int) (c : Cursor) : Option (List Char × Cursor) := do
  let (head, c) ← readBlockHead c
  let declared := head.indent.map fun n => if 0 ≤ parent then parent.toNat + n else n
  let (trail, widest, c) ← blockBreaks declared (c.rest.length + 1) [] 0 c
  let indent := declared.getD (max (max widest (parent + 1).toNat) 1)
  let (text, lead, trail, c) ← blockLines literal indent (c.rest.length + 2) [] [] trail false c
  let tail := match head.chomping with
    | .strip => []
    | .clip => lead
    | .keep => lead ++ trail
  return (text.reverse ++ tail, c)

end GoScaffold.Yaml
