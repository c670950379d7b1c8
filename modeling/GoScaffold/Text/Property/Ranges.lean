/-! Sets of code points given by the ends of their intervals. -/

namespace GoScaffold.Text

/-- Membership in a union of half-open intervals, listed in increasing order as alternating first
and past-the-end points. -/
def Ranges.contains : List Nat → Nat → Bool
  | first :: past :: rest, n =>
    if n < first then false else if n < past then true else Ranges.contains rest n
  | _, _ => false

end GoScaffold.Text
