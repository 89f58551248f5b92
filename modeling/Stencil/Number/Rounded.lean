import Stencil.Number.Shortest
import Stencil.Text.Basic

/-!
# Rounded decimals

Fractions written with a given number of digits: after the point, or in all with an exponent. A
fraction that lies in the middle between two such decimals goes to the one whose last digit is even.
-/

namespace Stencil

namespace Decimal

/-- Digits with a point before the last `places` of them. A point with nothing after it is only
written if it is to be kept. -/
def withPoint (keepPoint : Bool) (places : Nat) (digits : Text) : Text :=
  let digits := List.replicate (places + 1 - digits.length) '0' ++ digits
  let whole := digits.take (digits.length - places)
  if places = 0 && !keepPoint then whole
  else whole ++ '.' :: digits.drop (digits.length - places)

/-- A fraction with `places` digits after the point. -/
def fixed (keepPoint : Bool) (numerator denominator places : Nat) : Text :=
  let size := Binary.roundQuotient (numerator * Nat.pow 10 places) denominator
  withPoint keepPoint places (Text.ofNat size)

/-- The first `count` digits of a positive fraction, and the exponent of the first of them. -/
def leading (numerator denominator count : Nat) : Nat × Int :=
  let point := pointOf numerator denominator
  let (scaled, unit) := scale numerator denominator (count - point)
  let digits := Binary.roundQuotient scaled unit
  if Nat.pow 10 count ≤ digits then (digits / 10, point) else (digits, point - 1)

/-- The first `count` digits of a fraction, and the exponent of the first of them. -/
def leadingOf (numerator denominator count : Nat) : Text × Int :=
  if numerator = 0 then (List.replicate count '0', 0)
  else
    let (digits, exponent) := leading numerator denominator count
    (Text.ofNat digits, exponent)

/-- A signed exponent of at least two digits. -/
def exponentText (exponent : Int) : Text :=
  let size := Text.ofNat exponent.natAbs
  'e' :: (if exponent < 0 then '-' else '+') :: List.replicate (2 - size.length) '0' ++ size

/-- A text with a point, without the zeros at its end. -/
def withoutZeros (text : Text) : Text :=
  if text.contains '.' then
    let start := (text.reverse.dropWhile (· = '0'))
    (if start.head? = some '.' then start.drop 1 else start).reverse
  else text

/-- A fraction with `places + 1` digits and an exponent. -/
def scientific (keepPoint : Bool) (numerator denominator places : Nat) : Text :=
  let (digits, exponent) := leadingOf numerator denominator (places + 1)
  withPoint keepPoint places digits ++ exponentText exponent

/-- A fraction with `count` digits, written without an exponent if that is neither less than minus
four nor as great as the number of digits. Zeros at the end go with the point. -/
def general (keepPoint : Bool) (numerator denominator count : Nat) : Text :=
  let count := max count 1
  let clean (text : Text) : Text := if keepPoint then text else withoutZeros text
  let (digits, exponent) := leadingOf numerator denominator count
  if -4 ≤ exponent && exponent < count then
    clean (withPoint keepPoint (count - 1 - exponent).toNat digits)
  else clean (withPoint keepPoint (count - 1) digits) ++ exponentText exponent

end Decimal

end Stencil
