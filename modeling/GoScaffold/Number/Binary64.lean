import GoScaffold.Number.Width

/-! Binary floating point numbers of 64 bits, with exact arithmetic on what they denote. A finite
number is `m * 2 ^ q`; every operation rounds the exact result to the nearest number, a tie to the
even significand. -/

namespace GoScaffold

/-- A floating point number, by its bits: sign, eleven bits of exponent, 52 bits of fraction. -/
structure Binary64 where
  bits : UInt64
deriving DecidableEq

namespace Binary64

def signUnit : Nat := Nat.pow 2 63

def exponentUnit : Nat := Nat.pow 2 52

def isNegative (x : Binary64) : Bool := signUnit ≤ x.bits.toNat

def magnitude (x : Binary64) : Nat := x.bits.toNat % signUnit

/-- The magnitude of the infinities. What lies above it is no number. -/
def infiniteMagnitude : Nat := 2047 * exponentUnit

def isFinite (x : Binary64) : Bool := x.magnitude < infiniteMagnitude

def isNaN (x : Binary64) : Bool := infiniteMagnitude < x.magnitude

def significand (x : Binary64) : Nat :=
  let fraction := x.magnitude % exponentUnit
  if x.magnitude < exponentUnit then fraction else exponentUnit + fraction

/-- How far the exponent lies above the least one, which is `-1074`. -/
def scale (x : Binary64) : Nat := x.magnitude / exponentUnit - 1

def numerator (x : Binary64) : Nat := x.significand * Nat.pow 2 x.scale

def denominator : Nat := Nat.pow 2 1074

def ofMagnitude (negative : Bool) (magnitude : Nat) : Binary64 :=
  ⟨UInt64.ofNat (if negative then signUnit + magnitude else magnitude)⟩

def zero : Binary64 := ofMagnitude false 0

def infinity (negative : Bool) : Binary64 := ofMagnitude negative infiniteMagnitude

def nan : Binary64 := ofMagnitude false (infiniteMagnitude + exponentUnit / 2)

def neg (x : Binary64) : Binary64 := ofMagnitude (!x.isNegative) x.magnitude

/-- The natural number nearest to a quotient, a tie going to the even one. -/
def roundDiv (num den : Nat) : Nat :=
  let quotient := num / den
  let twice := 2 * (num % den)
  if twice < den then quotient
  else if den < twice then quotient + 1
  else quotient + quotient % 2

def magnitudeOfRatio (num den : Nat) : Nat :=
  if num = 0 then 0
  else
    -- the fraction lies in `[2 ^ (width - 1), 2 ^ (width + 1))` units of the least exponent
    let width := (num * denominator / den).log2
    let shift := width - 52
    let rounded := roundDiv (num * denominator) (den * Nat.pow 2 shift)
    -- a significand of 53 bits carries one into the exponent field
    min (shift * exponentUnit + rounded) infiniteMagnitude

def ofRatio (negative : Bool) (num den : Nat) : Binary64 :=
  ofMagnitude negative (magnitudeOfRatio num den)

def ofNat (n : Nat) : Binary64 := ofRatio false n 1

def ofInt (i : Int) : Binary64 := ofRatio (i < 0) i.natAbs 1

def mul (x y : Binary64) : Binary64 :=
  ofRatio (x.isNegative != y.isNegative) (x.numerator * y.numerator) (denominator * denominator)

def div (x y : Binary64) : Binary64 :=
  ofRatio (x.isNegative != y.isNegative) x.numerator y.numerator

def add (x y : Binary64) : Binary64 :=
  let signed (z : Binary64) : Int := if z.isNegative then -z.numerator else z.numerator
  let sum := signed x + signed y
  if sum = 0 then ofMagnitude (x.isNegative && y.isNegative) 0
  else ofRatio (sum < 0) sum.natAbs denominator

/-- The position of a number in the order of all numbers; both zeros have the same. -/
def rank (x : Binary64) : Int := if x.isNegative then -x.magnitude else x.magnitude

/-- The larger number. A number that is none gives way. -/
def max (x y : Binary64) : Binary64 :=
  if x.isNaN then y else if y.isNaN then x else if x.rank < y.rank then y else x

def truncate (x : Binary64) : Int :=
  let whole : Int := (x.numerator / denominator : Nat)
  if x.isNegative then -whole else whole

def toInt64 (x : Binary64) : Int :=
  if x.isNaN then 0
  else if x.isFinite then Width.clamp 64 x.truncate
  else if x.isNegative then Width.least 64 else Width.greatest 64

def isWhole (x : Binary64) : Bool := x.isFinite && x.numerator % denominator == 0

end Binary64

end GoScaffold
