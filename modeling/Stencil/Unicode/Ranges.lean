/-!
# Sets of code points

A property of characters is given as the list of the ranges of code points that have it, both ends
included and in ascending order.
-/

namespace Stencil.Unicode

/-- A set of code points: inclusive ranges in ascending order. -/
abbrev Ranges := List (Nat × Nat)

/-- The range that `code` lies in. -/
def Ranges.find? (ranges : Ranges) (code : Nat) : Option (Nat × Nat) :=
  List.find? (fun range => range.1 ≤ code && code ≤ range.2) ranges

/-- Does `code` lie in one of the ranges? -/
def Ranges.contains (ranges : Ranges) (code : Nat) : Bool :=
  List.any ranges fun range => range.1 ≤ code && code ≤ range.2

end Stencil.Unicode
