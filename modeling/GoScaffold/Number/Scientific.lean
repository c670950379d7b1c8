import GoScaffold.Number.Binary64

/-! Decimal literals: digits scaled by a power of ten, and the floating point numbers they
denote. -/

namespace GoScaffold

/-- The number `digits * 10 ^ exponent`, with a sign. -/
structure Scientific where
  negative : Bool := false
  digits : Nat
  exponent : Int := 0

namespace Scientific

def natOfDigits (cs : List Char) : Nat := cs.foldl (fun n c => 10 * n + (c.toNat - '0'.toNat)) 0

def width (n : Nat) : Nat := (Nat.toDigits 10 n).length

def toBinary64 (s : Scientific) : Binary64 :=
  if s.digits = 0 then .ofMagnitude s.negative 0
  else if 400 < s.exponent + width s.digits then .infinity s.negative
  else if s.exponent + width s.digits < -400 then .ofMagnitude s.negative 0
  else if 0 ≤ s.exponent then .ofRatio s.negative (s.digits * Nat.pow 10 s.exponent.toNat) 1
  else .ofRatio s.negative s.digits (Nat.pow 10 (-s.exponent).toNat)

def sign : List Char → Bool × List Char
  | '+' :: rest => (false, rest)
  | '-' :: rest => (true, rest)
  | cs => (false, cs)

def exponent? : List Char → Option Int
  | [] => some 0
  | e :: rest =>
    let (negative, digits) := sign rest
    if (e == 'e' || e == 'E') && !digits.isEmpty && digits.all Char.isDigit then
      let n := natOfDigits digits
      some (if negative then -n else n)
    else none

/-- Reads a literal without sign: digits with at most one point among them, of which at least one
digit, and an optional exponent. -/
def unsigned? (cs : List Char) : Option Scientific :=
  let whole := cs.takeWhile Char.isDigit
  let afterWhole := cs.dropWhile Char.isDigit
  let (fraction, rest) := match afterWhole with
    | '.' :: more => (more.takeWhile Char.isDigit, more.dropWhile Char.isDigit)
    | other => ([], other)
  if whole.isEmpty && fraction.isEmpty then none
  else (exponent? rest).map fun e =>
    { digits := natOfDigits (whole ++ fraction), exponent := e - fraction.length }

end Scientific

namespace Binary64

def special? (word : List Char) : Option Binary64 :=
  let lower := String.ofList (word.map Char.toLower)
  if lower = "inf" || lower = "infinity" then some (infinity false)
  else if lower = "nan" then some nan
  else none

def parse? (s : String) : Option Binary64 :=
  let (negative, rest) := Scientific.sign s.toList
  match special? rest with
  | some x => some (if negative then x.neg else x)
  | none => (Scientific.unsigned? rest).map fun d => { d with negative }.toBinary64

end Binary64

def parseInt64? (s : String) : Option Int :=
  let (negative, digits) := Scientific.sign s.toList
  if digits.isEmpty || !digits.all Char.isDigit then none
  else
    let n : Int := Scientific.natOfDigits digits
    let i := if negative then -n else n
    if Width.holdsInt 64 i then some i else none

end GoScaffold
