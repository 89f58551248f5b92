/-!
# Floating point numbers as exact fractions

A finite floating point number is an integer times a power of two. `Binary.ofFloat?` takes it apart
without rounding, and `Binary.round` gives the number nearest to a fraction, where a tie goes to
the even neighbour. Whatever has to be exact about such numbers is computed on integers in between.
-/

namespace Stencil

/-- A non-negative number `mantissa · 2 ^ exponent` with a sign. -/
structure Binary where
  isNegative : Bool
  mantissa : Nat
  exponent : Int
  deriving Repr, DecidableEq

namespace Binary

/-- The parts of a finite number. -/
def ofFloat? (x : Float) : Option Binary :=
  let bits : Nat := x.toBits.toNat
  let biased : Nat := bits / Nat.pow 2 52 % Nat.pow 2 11
  let fraction : Nat := bits % Nat.pow 2 52
  let isNegative := bits / Nat.pow 2 63 == 1
  if biased = 2047 then none
  else if biased = 0 then some ⟨isNegative, fraction, -1074⟩
  else some ⟨isNegative, fraction + Nat.pow 2 52, (biased : Int) - 1075⟩

/-- The number as a fraction: a numerator without its sign, and a denominator. -/
def toRatio (b : Binary) : Nat × Nat :=
  if 0 ≤ b.exponent then (b.mantissa * Nat.pow 2 b.exponent.toNat, 1)
  else (b.mantissa, Nat.pow 2 (-b.exponent).toNat)

/-- A quotient rounded to the nearest integer, a tie to the even one. -/
def roundQuotient (numerator denominator : Nat) : Nat :=
  let quotient := numerator / denominator
  let twice := 2 * (numerator % denominator)
  if twice < denominator then quotient
  else if denominator < twice then quotient + 1
  else quotient + quotient % 2

/-- The largest `e` with `2 ^ e` at most the positive fraction. -/
def floorLog2 (numerator denominator : Nat) : Int :=
  let guess : Int := (numerator.log2 : Int) - denominator.log2
  let reached : Bool :=
    if 0 ≤ guess then Nat.pow 2 guess.toNat * denominator ≤ numerator
    else denominator ≤ numerator * Nat.pow 2 (-guess).toNat
  if reached then guess else guess - 1

/-- The floating point number nearest to a non-negative fraction. -/
def round (numerator denominator : Nat) : Float :=
  if numerator = 0 then 0.0
  else
    let unit : Int := max (floorLog2 numerator denominator - 52) (-1074)
    let mantissa :=
      if 0 ≤ unit then roundQuotient numerator (denominator * Nat.pow 2 unit.toNat)
      else roundQuotient (numerator * Nat.pow 2 (-unit).toNat) denominator
    (Float.ofNat mantissa).scaleB unit

/-- The floating point number nearest to an integer. -/
def roundInt (n : Int) : Float :=
  let size := round n.natAbs 1
  if n < 0 then -size else size

/-- The fraction of a finite number with its sign on the numerator. -/
def toSignedRatio (b : Binary) : Int × Nat :=
  let (numerator, denominator) := b.toRatio
  (if b.isNegative then -(numerator : Int) else numerator, denominator)

end Binary

end Stencil
