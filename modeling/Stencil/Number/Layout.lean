import Stencil.Number.Shortest
import Stencil.Text.Basic

/-!
# Written numbers

How a floating point number is written: its shortest decimal, with the point in place as long as the
number is neither very large nor very small, and with an exponent otherwise.
-/

namespace Stencil

/-- The choices of a way to write decimals. -/
structure Layout where
  /-- The least and the greatest place of the point that is written without an exponent. -/
  leastPoint : Int
  greatestPoint : Int
  /-- The least number of digits in an exponent. -/
  exponentDigits : Nat

namespace Layout

/-- Digits before and after the point, at least one on each side. -/
def positional (decimal : Decimal) : Text :=
  let count := decimal.digits.length
  if decimal.point ≤ 0 then
    '0' :: '.' :: List.replicate (-decimal.point).toNat '0' ++ decimal.digits
  else
    let whole := decimal.point.toNat
    if count ≤ whole then
      decimal.digits ++ List.replicate (whole - count) '0' ++ ['.', '0']
    else decimal.digits.take whole ++ '.' :: decimal.digits.drop whole

/-- One digit before the point, and a signed exponent. -/
def scientific (layout : Layout) (decimal : Decimal) : Text :=
  let exponent := decimal.point - 1
  let size := Text.ofNat exponent.natAbs
  let fraction := match decimal.digits with
    | [] => []
    | [digit] => [digit]
    | digit :: more => digit :: '.' :: more
  fraction ++ 'e' :: (if exponent < 0 then '-' else '+')
    :: List.replicate (layout.exponentDigits - size.length) '0' ++ size

/-- A decimal as written. -/
def write (layout : Layout) (decimal : Decimal) : Text :=
  if layout.leastPoint ≤ decimal.point && decimal.point ≤ layout.greatestPoint then
    positional decimal
  else layout.scientific decimal

end Layout

/-- Numbers from one ten-thousandth up to ten to the sixteenth are written without an exponent; an
exponent has at least two digits. -/
def numberLayout : Layout := ⟨-3, 16, 2⟩

/-- A floating point number as it is written everywhere. -/
def Text.ofFloat (x : Float) : Text :=
  match Binary.ofFloat? x with
  | none => if x.isNaN then "nan".toList else if x < 0 then "-inf".toList else "inf".toList
  | some b =>
      let size := if b.mantissa = 0 then "0.0".toList else numberLayout.write (Decimal.shortest b)
      if b.isNegative then '-' :: size else size

/-! ### Reading -/

namespace Decimal

/-- The value of decimal digits. -/
def digitsValue (digits : Text) : Nat :=
  digits.foldl (fun value digit => value * 10 + (digit.toNat - '0'.toNat)) 0

/-- The floating point number nearest to `digits · 10 ^ exponent`. -/
def toFloat (digits : Nat) (exponent : Int) : Float :=
  if digits = 0 then 0.0
  else if 0 ≤ exponent then
    if 400 < exponent then 1.0 / 0.0 else Binary.round (digits * Nat.pow 10 exponent.toNat) 1
  else Binary.round digits (Nat.pow 10 (-exponent).toNat)

/-- Read digits with an optional sign, point and exponent. -/
def read? (text : Text) : Option Float := do
  let (isNegative, size) := match text with
    | '-' :: rest => (true, rest)
    | '+' :: rest => (false, rest)
    | text => (false, text)
  let whole := size.takeWhile Char.isDigit
  let afterWhole := size.dropWhile Char.isDigit
  let (fraction, afterFraction) := match afterWhole with
    | '.' :: rest => (rest.takeWhile Char.isDigit, rest.dropWhile Char.isDigit)
    | rest => ([], rest)
  guard (!(whole ++ fraction).isEmpty)
  let exponent : Int ← match afterFraction with
    | [] => some 0
    | e :: rest =>
        if e = 'e' || e = 'E' then
          let (sign, digits) := match rest with
            | '-' :: digits => (-1, digits)
            | '+' :: digits => (1, digits)
            | digits => ((1 : Int), digits)
          if digits.isEmpty || !digits.all Char.isDigit then none
          else some (sign * digitsValue digits)
        else none
  let number := toFloat (digitsValue (whole ++ fraction)) (exponent - fraction.length)
  return if isNegative then -number else number

end Decimal

end Stencil
