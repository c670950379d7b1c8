import GoScaffold.Text.Property.Identifier
import GoScaffold.Go.Token

/-! Go source cut into tokens. Each scanner takes a text and gives the token at its head and what
follows, or nothing when no token of its class begins there. -/

namespace GoScaffold.Go.Lexer

abbrev Scan := List Char → Option (List Char × List Char)

def run (p : Char → Bool) (cs : List Char) : List Char × List Char := cs.span p

def isHexDigit (c : Char) : Bool :=
  c.isDigit || ('a' ≤ c && c ≤ 'f') || ('A' ≤ c && c ≤ 'F')

def isOctalDigit (c : Char) : Bool := '0' ≤ c && c ≤ '7'

def isBinaryDigit (c : Char) : Bool := c == '0' || c == '1'

def isBlank (c : Char) : Bool := c == ' ' || (0x09 ≤ c.toNat && c.toNat ≤ 0x0D)

/-- Digits in which single underscores may stand between two digits. -/
def digits (isDigit : Char → Bool) : List Char → List Char × List Char
  | [] => ([], [])
  | '_' :: c :: rest =>
    if isDigit c then
      let (more, after) := digits isDigit rest
      ('_' :: c :: more, after)
    else ([], '_' :: c :: rest)
  | c :: rest =>
    if isDigit c then
      let (more, after) := digits isDigit rest
      (c :: more, after)
    else ([], c :: rest)

def exponent (isMark : Char → Bool) (cs : List Char) : List Char × List Char :=
  match cs with
  | e :: rest =>
    if !isMark e then ([], cs) else
    let (sign, rest) := match rest with
      | s :: after => if s == '+' || s == '-' then ([s], after) else ([], rest)
      | [] => ([], [])
    match rest with
    | d :: _ =>
      if d.isDigit then
        let (power, after) := digits Char.isDigit rest
        (e :: sign ++ power, after)
      else ([], cs)
    | [] => ([], cs)
  | [] => ([], [])

def imaginary (number : List Char × List Char) : List Char × List Char :=
  match number.2 with
  | 'i' :: rest => (number.1 ++ ['i'], rest)
  | _ => number

def based (lead : List Char) (isDigit : Char → Bool) (cs : List Char) :
    Option (List Char × List Char) :=
  let (first, cs) := match cs with
    | '_' :: rest => (['_'], rest)
    | _ => ([], cs)
  match digits isDigit cs with
  | ([], _) => none
  | (ds, rest) => some (imaginary (lead ++ first ++ ds, rest))

/-- The fraction and exponent of a hexadecimal number; without an exponent there is no fraction. -/
def hexadecimal (whole : List Char × List Char) : List Char × List Char :=
  let isMark := fun c => c == 'p' || c == 'P'
  let (fraction, rest) := match whole.2 with
    | '.' :: rest =>
      let (ds, rest) := digits isHexDigit rest
      ('.' :: ds, rest)
    | rest => ([], rest)
  match exponent isMark rest with
  | ([], _) => whole
  | (power, rest) => imaginary (whole.1 ++ fraction ++ power, rest)

/-- A decimal number. A leading zero before another digit makes it octal unless a point, an exponent
or the imaginary suffix follows. -/
def decimal (cs : List Char) : Option (List Char × List Char) :=
  let isMark := fun c => c == 'e' || c == 'E'
  let (whole, rest) := digits Char.isDigit cs
  let (point, rest) := match rest with
    | '.' :: after =>
      if whole.isEmpty && !(after.head?.any Char.isDigit) then ([], rest)
      else
        let (ds, after) := digits Char.isDigit after
        ('.' :: ds, after)
    | _ => ([], rest)
  if whole.isEmpty && point.isEmpty then none else
  let (power, rest) := exponent isMark rest
  let number := imaginary (whole ++ point ++ power, rest)
  let isWhole := number.1.length == whole.length
  if isWhole && whole.head? == some '0' && whole.any (fun c => c == '8' || c == '9') then none
  else some number

def number : Scan := fun cs =>
  match cs with
  | '0' :: x :: rest =>
    if x == 'x' || x == 'X' then (based ['0', x] isHexDigit rest).map hexadecimal
    else if x == 'b' || x == 'B' then based ['0', x] isBinaryDigit rest
    else if x == 'o' || x == 'O' then based ['0', x] isOctalDigit rest
    else decimal cs
  | _ => decimal cs

def escapeDigits (isDigit : Char → Bool) (count : Nat) (cs : List Char) : Option (List Char) :=
  if (cs.take count).length == count && (cs.take count).all isDigit then some (cs.drop count)
  else none

def stringEscape : List Char → Option (List Char)
  | 'x' :: rest => escapeDigits isHexDigit 2 rest
  | 'u' :: rest => escapeDigits isHexDigit 4 rest
  | 'U' :: rest => escapeDigits isHexDigit 8 rest
  | _ :: rest => some rest
  | [] => none

def runeEscape : List Char → Option (List Char)
  | 'x' :: rest => escapeDigits isHexDigit 2 rest
  | 'u' :: rest => escapeDigits isHexDigit 4 rest
  | 'U' :: rest => escapeDigits isHexDigit 8 rest
  | c :: rest =>
    if isOctalDigit c then escapeDigits isOctalDigit 3 (c :: rest)
    else if "abfnrtv\\'\"".toList.contains c then some rest
    else none
  | [] => none

def stringEnd : Nat → List Char → Option (List Char)
  | 0, _ => none
  | _, [] => none
  | fuel + 1, c :: rest =>
    if c == '"' then some rest
    else if c == '\n' then none
    else if c == '\\' then (stringEscape rest).bind (stringEnd fuel)
    else stringEnd fuel rest

def runeEnd (cs : List Char) : Option (List Char) :=
  let after := match cs with
    | '\\' :: rest => runeEscape rest
    | c :: rest => if c.toNat == 0x27 then none else some rest
    | [] => none
  match after with
  | some (c :: rest) => if c.toNat == 0x27 then some rest else none
  | _ => none

def commentEnd : List Char → Option (List Char)
  | '*' :: '/' :: rest => some rest
  | _ :: rest => commentEnd rest
  | [] => none

/-- The marks of the language. A longer one comes before those that begin it. -/
def marks : List (List Char) :=
  ["<<=", ">>=", "&^=", "...", "&&", "||", "<-", "++", "--", "==", "!=", "<=", ">=", ":=", "+=",
    "-=", "*=", "/=", "%=", "&=", "|=", "^=", "<<", ">>", "&^", "+", "-", "*", "/", "%", "&", "|",
    "^", "<", ">", "=", "!", "(", ")", "[", "]", "\x7b", "\x7d", ",", ";", ".", ":", "~"].map
      String.toList

def mark : Scan := fun cs =>
  (marks.find? (·.isPrefixOf cs)).map fun m => (m, cs.drop m.length)

def rowsIn (cs : List Char) : Nat := cs.count '\n'

/-- The tokens of the text, which begins in the given row, put before those already seen. Both
lists of the result are in reverse order. -/
def tokensFrom : Nat → Nat → Bool → Tokens → List Char → Option Tokens
  | _, _, _, seen, [] => some seen
  | 0, _, _, _, _ => none
  | fuel + 1, row, afterBreak, seen, c :: rest =>
    let push (kind : Token.Kind) (text : List Char) : Tokens :=
      { seen with tokens := ⟨kind, String.ofList text, afterBreak⟩ :: seen.tokens }
    if c == '\n' then tokensFrom fuel (row + 1) true seen rest
    else if isBlank c then tokensFrom fuel row afterBreak seen rest
    else if Text.isIdentifierStart c then
      let (word, after) := run Text.isIdentifierPart rest
      tokensFrom fuel row false (push .word (c :: word)) after
    else if c == '"' then
      match stringEnd rest.length rest with
      | some after => tokensFrom fuel row false (push .string [c]) after
      | none => none
    else if c.toNat == 0x60 then
      match rest.span (·.toNat != 0x60) with
      | (body, _ :: after) =>
        let last := row + rowsIn body
        let pushed := push .string [c]
        let rawRows := if row < last then ⟨row, last⟩ :: seen.rawRows else seen.rawRows
        tokensFrom fuel last false { pushed with rawRows } after
      | (_, []) => none
    else if c.toNat == 0x27 then
      match runeEnd rest with
      | some after => tokensFrom fuel row false (push .literal [c]) after
      | none => none
    else if c == '/' && rest.head? == some '/' then
      tokensFrom fuel row afterBreak seen (rest.dropWhile (· != '\n'))
    else if c == '/' && rest.head? == some '*' then
      match commentEnd (rest.drop 1) with
      | some after =>
        let taken := rest.length - after.length
        tokensFrom fuel (row + rowsIn (rest.take taken)) afterBreak seen after
      | none => none
    else if c.isDigit || (c == '.' && rest.head?.any Char.isDigit) then
      match number (c :: rest) with
      | some (text, after) => tokensFrom fuel row false (push .literal text) after
      | none => none
    else match mark (c :: rest) with
      | some (text, after) => tokensFrom fuel row false (push .mark text) after
      | none => none

end Lexer

/-- The tokens of a source text, or none when some part of it is no token. A byte order mark may
stand at the very beginning. -/
def Tokens.ofText? (text : String) : Option Tokens :=
  let cs := match text.toList with
    | c :: rest => if c.toNat == 0xFEFF then rest else c :: rest
    | [] => []
  (Lexer.tokensFrom cs.length 0 false ⟨[], []⟩ cs).map fun seen =>
    { tokens := seen.tokens.reverse, rawRows := seen.rawRows.reverse }

end GoScaffold.Go
