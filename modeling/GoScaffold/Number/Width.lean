/-! Integers of a given width in bits. -/

namespace GoScaffold.Width

def count (bits : Nat) : Nat := Nat.pow 2 bits

def holdsNat (bits n : Nat) : Bool := decide (n < count bits)

def least (bits : Nat) : Int := -Int.ofNat (count (bits - 1))

def greatest (bits : Nat) : Int := Int.ofNat (count (bits - 1)) - 1

def holdsInt (bits : Nat) (i : Int) : Bool := least bits ≤ i && i ≤ greatest bits

def holdsEither (bits : Nat) (i : Int) : Bool := least bits ≤ i && i < Int.ofNat (count bits)

def clamp (bits : Nat) (i : Int) : Int :=
  if i < least bits then least bits else if greatest bits < i then greatest bits else i

end GoScaffold.Width
