import GoScaffold.Json.Basic

/-! Number literals of JSON. A literal with a fraction or an exponent, or one that does not fit in
64 bits, denotes a floating point number: the leading digits that fit in 64 bits, scaled by a power
of ten, each of the two steps rounded. -/

namespace GoScaffold.Json

structure Numeral where
  negative : Bool
  whole : List Char
  fraction : Option (List Char)
  exponent : Option Int

namespace Numeral

def digitValue (c : Char) : Nat := c.toNat - '0'.toNat

def push? (n : Nat) (c : Char) : Option Nat :=
  let m := 10 * n + digitValue c
  if Width.holdsNat 64 m then some m else none

/-- Appends leading digits as long as the result fits in 64 bits. Gives the result and the number of
digits left over. -/
def absorb (n : Nat) : List Char → Nat × Nat
  | [] => (n, 0)
  | c :: rest => (push? n c).elim (n, rest.length + 1) fun m => absorb m rest

def maxPower : Nat := 308

def power (n : Nat) : Binary64 := .ofRatio false (Nat.pow 10 n) 1

/-- Scales by a power of ten; `none` when the result is too large. Below the least power it divides
in steps, until nothing is left of the number. -/
def scale? (x : Binary64) (e : Int) : (steps : Nat) → Option Binary64
  | 0 => some .zero
  | steps + 1 =>
    if e.natAbs ≤ maxPower then
      if 0 ≤ e then
        let y := x.mul (power e.natAbs)
        if y.isFinite then some y else none
      else some (x.div (power e.natAbs))
    else if x = .zero then some x
    else if 0 ≤ e then none
    else scale? (x.div (power maxPower)) (e + maxPower) steps

def float? (n : Numeral) : Option Binary64 :=
  let (head, dropped) := absorb 0 n.whole
  let digits := n.fraction.getD []
  let (significand, left) := absorb head digits
  let exponent := (dropped : Int) - (digits.length - left : Nat) + n.exponent.getD 0
  (scale? (.ofNat significand) exponent 5).map fun x => if n.negative then x.neg else x

def isWhole (n : Numeral) : Bool := n.fraction.isNone && n.exponent.isNone

/-- The number that a literal denotes; `none` when it is too large. Minus zero is a floating point
number, and so is what lies below the least integer of 64 bits. -/
def number? (n : Numeral) : Option Number :=
  match n.isWhole, absorb 0 n.whole with
  | true, (m, 0) =>
    if !n.negative then some (.int m)
    else if m = 0 || !Width.holdsInt 64 (-m) then some (.float (Binary64.ofNat m).neg)
    else some (.int (-m))
  | _, _ => n.float?.map .float

def readExponent : List Char → Option (Option Int × List Char)
  | c :: rest =>
    if c = 'e' || c = 'E' then
      let (negative, rest) := Scientific.sign rest
      let digits := rest.takeWhile Char.isDigit
      if digits.isEmpty then none
      else
        let e : Int := Scientific.natOfDigits digits
        some (some (if negative then -e else e), rest.dropWhile Char.isDigit)
    else some (none, c :: rest)
  | [] => some (none, [])

def readFraction : List Char → Option (Option (List Char) × List Char)
  | '.' :: rest =>
    let digits := rest.takeWhile Char.isDigit
    if digits.isEmpty then none else some (some digits, rest.dropWhile Char.isDigit)
  | rest => some (none, rest)

def readWhole (cs : List Char) : Option (List Char × List Char) :=
  let digits := cs.takeWhile Char.isDigit
  let rest := cs.dropWhile Char.isDigit
  match digits with
  | [] => none
  | ['0'] => some (digits, rest)
  | '0' :: _ => none
  | _ => some (digits, rest)

def read (cs : List Char) : Option (Numeral × List Char) := do
  let (negative, cs) := match cs with
    | '-' :: rest => (true, rest)
    | _ => (false, cs)
  let (whole, cs) ← readWhole cs
  let (fraction, cs) ← readFraction cs
  let (exponent, cs) ← readExponent cs
  return ({ negative, whole, fraction, exponent }, cs)

end Numeral

end GoScaffold.Json
