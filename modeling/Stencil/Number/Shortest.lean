import Stencil.Number.Binary

/-!
# Shortest decimals

The fewest decimal digits that a floating point number can be read back from, and of those the
decimal nearest to it. Every number that rounds to `m · 2 ^ q` lies in an interval around it, whose
ends belong to it exactly when `m` is even. A grid of decimals with a given number of digits has a
point in that interval only if one of the two neighbours of the number itself is such a point.
-/

namespace Stencil

/-- The decimal `0.d₁d₂… · 10 ^ point` with the digits `d₁d₂…` of `digits`. -/
structure Decimal where
  digits : List Char
  point : Int
  deriving Repr, DecidableEq

namespace Decimal

/-- A fraction scaled by a power of ten. -/
def scale (numerator denominator : Nat) (power : Int) : Nat × Nat :=
  if 0 ≤ power then (numerator * Nat.pow 10 power.toNat, denominator)
  else (numerator, denominator * Nat.pow 10 (-power).toNat)

/-- The number of zeros between the point and the first digit of a fraction below one. -/
def leadingZeros (denominator : Nat) : Nat → Nat → Nat
  | 0, _ => 0
  | limit + 1, numerator =>
      if denominator ≤ numerator * 10 then 0
      else leadingZeros denominator limit (numerator * 10) + 1

/-- The number of digits before the point of a positive fraction; below one, less the zeros after
the point. -/
def pointOf (numerator denominator : Nat) : Int :=
  if denominator ≤ numerator then (Nat.toDigits 10 (numerator / denominator)).length
  else -(leadingZeros denominator 400 numerator : Int)

/-- The point nearest to the number on the grid with `count` digits, if one lies in the interval.
The number is `4 · m` units, and the interval reaches from `low` to `high` units; a unit is
`unit.1 / unit.2`. -/
def onGrid? (m low high : Nat) (unit : Nat × Nat) (point : Int) (count : Nat) : Option Nat :=
  let (numerator, denominator) := scale unit.1 unit.2 (count - point)
  let inside (candidate : Nat) : Bool :=
    let position := candidate * denominator
    if m % 2 = 0 then low * numerator ≤ position && position ≤ high * numerator
    else low * numerator < position && position < high * numerator
  let below := 4 * m * numerator / denominator
  let rest := 2 * (4 * m * numerator % denominator)
  let upIsNearer := denominator < rest || (rest == denominator && below % 2 == 1)
  match inside below, inside (below + 1) with
  | true, true => some (if upIsNearer then below + 1 else below)
  | true, false => some below
  | false, true => some (below + 1)
  | false, false => none

/-- The shortest decimal of a positive number. Seventeen digits always suffice. -/
def shortest (b : Binary) : Decimal :=
  let m := b.mantissa
  let unit : Nat × Nat := Binary.toRatio ⟨false, 1, b.exponent - 2⟩
  let low := if m = Nat.pow 2 52 && b.exponent > -1074 then 4 * m - 1 else 4 * m - 2
  let point := pointOf (4 * m * unit.1) unit.2
  let grids := (List.range 17).filterMap fun i =>
    (onGrid? m low (4 * m + 2) unit point (i + 1)).map fun digits => (i + 1, digits)
  match grids.head? with
  | none => ⟨Nat.toDigits 10 m, 0⟩
  | some (count, digits) =>
      let written := Nat.toDigits 10 digits
      ⟨(written.reverse.dropWhile (· = '0')).reverse, point + ((written.length : Int) - count)⟩

end Decimal

end Stencil
