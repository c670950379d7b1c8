import GoScaffold.Json.Reader
import GoScaffold.Number.Scientific
import GoScaffold.Text.Blank
import GoScaffold.Template.Token

/-! A template text cut into pieces. A statement alone on its line leaves nothing of the line: the
blanks before it and the line end after it go. A minus sign at either end of a tag removes all
blank space on that side, a plus sign keeps it. -/

namespace GoScaffold.Template.Lexer

inductive Margin where
  | usual
  | remove
  | keep
deriving DecidableEq

inductive Tag where
  | print
  | statement
  | comment
deriving DecidableEq

def isLineEnd (c : Char) : Bool := c == '\n' || c == '\r'

def isSpace (c : Char) : Bool :=
  c == ' ' || c == '\t' || c == '\n' || c == '\r' || c.toNat == 0x0C

def tagOf (c : Char) : Option Tag :=
  if c.toNat == 0x7B then some .print
  else if c == '%' then some .statement
  else if c == '#' then some .comment
  else none

/-- The text before the first tag, in reverse, with the tag and what follows its opening. -/
def lead (before : List Char) : List Char → List Char × Option (Tag × List Char)
  | [] => (before, none)
  | [c] => (c :: before, none)
  | c :: d :: rest =>
    match if c.toNat == 0x7B then tagOf d else none with
    | some tag => (before, some (tag, rest))
    | none => lead (c :: before) (d :: rest)

def openingMargin : List Char → Margin × List Char
  | '-' :: rest => (.remove, rest)
  | '+' :: rest => (.keep, rest)
  | rest => (.usual, rest)

/-- What remains of the text before a tag, in reverse. The flag tells whether nothing but blanks
stands before the text in its line. -/
def trimLead (tag : Tag) (margin : Margin) (lineClean : Bool) (before : List Char) : List Char :=
  match margin with
  | .remove => before.dropWhile Text.isBlank
  | .keep => before
  | .usual =>
    if tag == .print then before else
    let kept := before.dropWhile fun c => Text.isBlank c && !isLineEnd c
    let alone := match kept with
      | c :: _ => isLineEnd c
      | [] => lineClean
    if alone then kept else before

def trimTail (tag : Tag) (margin : Margin) (after : List Char) : List Char × Bool :=
  match margin with
  | .remove =>
    let (blanks, rest) := after.span Text.isBlank
    (rest, blanks.any isLineEnd)
  | .keep => (after, false)
  | .usual =>
    if tag == .print then (after, false) else
    match after with
    | '\r' :: '\n' :: rest => (rest, true)
    | '\r' :: rest => (rest, true)
    | '\n' :: rest => (rest, true)
    | _ => (after, false)

def closing (close : List Char) (cs : List Char) : Option (Margin × List Char) :=
  if close.isPrefixOf cs then some (.usual, cs.drop close.length)
  else match cs with
    | s :: rest =>
      if (s == '-' || s == '+') && close.isPrefixOf rest then
        some (if s == '-' then .remove else .keep, rest.drop close.length)
      else none
    | [] => none

def stringBody (quote : Char) (text : List Char) : List Char → Option (List Char × List Char)
  | [] => none
  | c :: rest =>
    if c == quote then some (text.reverse, rest)
    else if c == '\\' then
      match rest with
      | 'u' :: a :: b :: d :: e :: rest =>
        match Json.codeUnit? a b d e with
        | some n => stringBody quote (Char.ofNat n :: text) rest
        | none => none
      | x :: rest =>
        if x.toNat == 0x27 then stringBody quote (x :: text) rest
        else match Json.escaped? x with
          | some y => stringBody quote (y :: text) rest
          | none => none
      | [] => none
    else stringBody quote (c :: text) rest

def marks : List (List Char) :=
  ["==", "!=", ">=", "<=", "//", "**", "+", "-", "*", "/", "%", "!", ".", ",", ":", "~", "|", "=",
    ">", "<", "(", ")", "[", "]", "\x7b", "\x7d"].map String.toList

def number (cs : List Char) : Option (Token × List Char) :=
  let (whole, rest) := cs.span Char.isDigit
  match rest with
  | '.' :: d :: more =>
    if d.isDigit then
      let (fraction, rest) := (d :: more).span Char.isDigit
      (Binary64.parse? (String.ofList (whole ++ '.' :: fraction))).map fun x => (.float x, rest)
    else some (.int (Scientific.natOfDigits whole), rest)
  | _ => some (.int (Scientific.natOfDigits whole), rest)

def token : List Char → Option (Token × List Char)
  | [] => none
  | c :: rest =>
    if c.isAlpha || c == '_' then
      let (word, rest) := rest.span fun d => d.isAlphanum || d == '_'
      some (.word (String.ofList (c :: word)), rest)
    else if c == '"' || c.toNat == 0x27 then
      (stringBody c [] rest).map fun (text, rest) => (.str (String.ofList text), rest)
    else if c.isDigit then number (c :: rest)
    else (marks.find? (·.isPrefixOf (c :: rest))).map fun m =>
      (.mark (String.ofList m), (c :: rest).drop m.length)

def tokens (close : List Char) : Nat → List Token → List Char →
    Option (List Token × Margin × List Char)
  | 0, _, _ => none
  | fuel + 1, seen, cs =>
    let cs := cs.dropWhile isSpace
    match closing close cs with
    | some (margin, rest) => some (seen.reverse, margin, rest)
    | none => do
      let (t, rest) ← token cs
      tokens close fuel (t :: seen) rest

def comment (last : Option Char) : List Char → Option (Margin × List Char)
  | [] => none
  | '#' :: c :: rest =>
    if c.toNat == 0x7D then
      some (if last == some '-' then .remove else if last == some '+' then .keep else .usual, rest)
    else comment (some '#') (c :: rest)
  | c :: rest => comment (some c) rest

def textPiece (before : List Char) : List Piece :=
  if before.isEmpty then [] else [.text (String.ofList before.reverse)]

def pieces : Nat → Bool → List Char → Option (List Piece)
  | 0, _, _ => none
  | fuel + 1, lineClean, cs =>
    match lead [] cs with
    | (before, none) => some (textPiece before)
    | (before, some (tag, rest)) => do
      let (margin, rest) := openingMargin rest
      let first := textPiece (trimLead tag margin lineClean before)
      let (tagPieces, margin, rest) ← match tag with
        | .comment => do
          let (margin, rest) ← comment none rest
          pure ([], margin, rest)
        | .statement => do
          let (ts, margin, rest) ← tokens "%\x7d".toList (rest.length + 1) [] rest
          pure ([Piece.statement ts], margin, rest)
        | .print => do
          let (ts, margin, rest) ← tokens "\x7d\x7d".toList (rest.length + 1) [] rest
          pure ([Piece.print ts], margin, rest)
      let (rest, lineClean) := trimTail tag margin rest
      let more ← pieces fuel lineClean rest
      pure (first ++ tagPieces ++ more)

end Lexer

def pieces? (text : String) : Option (List Piece) :=
  Lexer.pieces (text.length + 1) true text.toList

end GoScaffold.Template
