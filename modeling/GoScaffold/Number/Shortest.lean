import GoScaffold.Number.Scientific

/-! Decimal text of floating point numbers. The shortest form has the fewest digits that read back
as the number, and of those the ones nearest to it. -/

namespace GoScaffold.Binary64

/-- The reals that round to the number `m * 2 ^ scale` units form an interval around it. Its ends,
counted in quarter units, belong to it when `m` is even. -/
structure Neighbourhood where
  low : Nat
  value : Nat
  high : Nat
  closed : Bool

/-- The neighbourhood of a finite number that is not zero. Below a power of two the numbers lie
twice as dense. -/
def neighbourhood (x : Binary64) : Neighbourhood :=
  let m := x.significand
  let unit := Nat.pow 2 x.scale
  let below := if m = exponentUnit ∧ 0 < x.scale then 1 else 2
  { low := (4 * m - below) * unit
    value := 4 * m * unit
    high := (4 * m + 2) * unit
    closed := m % 2 == 0 }

def Neighbourhood.holds (n : Neighbourhood) (d : Nat) (e : Int) : Bool :=
  let num := d * Nat.pow 10 e.toNat * (4 * denominator)
  let den := Nat.pow 10 (-e).toNat
  if n.closed then n.low * den ≤ num && num ≤ n.high * den
  else n.low * den < num && num < n.high * den

/-- Twice the distance from `d * 10 ^ e` to the value, scaled to compare grid points. -/
def Neighbourhood.distance (n : Neighbourhood) (d : Nat) (e : Int) : Nat :=
  let num : Int := (d * Nat.pow 10 e.toNat * (4 * denominator) : Nat)
  let den : Int := (n.value * Nat.pow 10 (-e).toNat : Nat)
  (num - den).natAbs

/-- The point of the grid `10 ^ e` that reads back as the number and is nearest to it. -/
def Neighbourhood.onGrid? (n : Neighbourhood) (e : Int) : Option Nat :=
  let down := n.value * Nat.pow 10 (-e).toNat / (Nat.pow 10 e.toNat * (4 * denominator))
  match n.holds down e, n.holds (down + 1) e with
  | true, true =>
    let a := n.distance down e
    let b := n.distance (down + 1) e
    some (if a < b then down else if b < a then down + 1 else down + down % 2)
  | true, false => some down
  | false, true => some (down + 1)
  | false, false => none

def leadingExponent (num den : Nat) : Int :=
  if den ≤ num then ((Scientific.width (num / den) : Nat) : Int) - 1
  else
    -- the first power of ten that lifts the fraction to one
    let places := Scientific.width (den / num)
    if den ≤ num * Nat.pow 10 (places - 1) then 1 - (places : Int) else -(places : Int)

def searchGrid (n : Neighbourhood) (lead : Int) : (tries : Nat) → Nat → Nat × Int
  | 0, _ => (0, 0)
  | tries + 1, digits =>
    let e := lead + 1 - digits
    match n.onGrid? e with
    | some d => (d, e)
    | none => searchGrid n lead tries (digits + 1)

def dropZeros : (fuel : Nat) → Nat × Int → Nat × Int
  | 0, de => de
  | fuel + 1, (d, e) => if d ≠ 0 ∧ d % 10 = 0 then dropZeros fuel (d / 10, e + 1) else (d, e)

def shortest (x : Binary64) : Nat × Int :=
  dropZeros 20 (searchGrid x.neighbourhood (leadingExponent x.numerator denominator) 18 1)

def zeros (n : Nat) : List Char := List.replicate n '0'

def positional (digits : List Char) (point : Int) : List Char :=
  if point ≤ 0 then ['0', '.'] ++ zeros (-point).toNat ++ digits
  else if (digits.length : Int) ≤ point then digits ++ zeros (point.toNat - digits.length) ++
    ['.', '0']
  else digits.take point.toNat ++ '.' :: digits.drop point.toNat

def exponential (digits : List Char) (point : Int) : List Char :=
  let e := point - 1
  let mantissa := match digits with
    | [] => ['0']
    | [d] => [d]
    | d :: ds => d :: '.' :: ds
  mantissa ++ 'e' :: (if e < 0 then '-' else '+') :: Nat.toDigits 10 e.natAbs

def signed (x : Binary64) (text : List Char) : String :=
  String.ofList (if x.isNegative then '-' :: text else text)

/-- Text of a finite number in a document: positional when the leading digit stands for a power
between `10 ^ -5` and `10 ^ 15`, with an exponent otherwise. -/
def toText (x : Binary64) : String :=
  if x.magnitude = 0 then x.signed "0.0".toList
  else
    let (d, e) := x.shortest
    let digits := Nat.toDigits 10 d
    let point := e + digits.length
    x.signed (if -5 < point ∧ point ≤ 16 then positional digits point else exponential digits point)

def toPlainText (x : Binary64) : String :=
  if x.isNaN then "NaN"
  else if !x.isFinite then x.signed "inf".toList
  else if x.magnitude = 0 then x.signed "0.0".toList
  else
    let (d, e) := x.shortest
    let digits := Nat.toDigits 10 d
    x.signed (positional digits (e + digits.length))

def toFixed (places : Nat) (x : Binary64) : String :=
  if x.isNaN then "NaN"
  else if !x.isFinite then x.signed "inf".toList
  else
    let n := roundDiv (x.numerator * Nat.pow 10 places) denominator
    let digits := Nat.toDigits 10 n
    let padded := zeros (places + 1 - digits.length) ++ digits
    let whole := padded.length - places
    x.signed (padded.take whole ++ '.' :: padded.drop whole)

end GoScaffold.Binary64
