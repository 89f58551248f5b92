import Stencil.Script.Display
import Stencil.Script.Expr

/-!
# Arithmetic

The operators on numbers. Integers have no bounds. A quotient of integers is the floating point
number nearest to it; an integer quotient is rounded down, and a remainder has the sign of its
divisor. Whatever involves a floating point number is computed with floating point numbers.
-/

namespace Stencil.Script.Arithmetic

/-! ### Floating point numbers -/

/-- An integer as a floating point number, if it is not too large for one. -/
def toFloat (n : Int) : Except Fault Float :=
  let x := Binary.roundInt n
  if x.isInf then .error (.overflow "int too large to convert to float") else .ok x

/-- A number as a floating point number. -/
def floatOf (value : Value) : Except Fault Float :=
  match value with
  | .float x => .ok x
  | value => toFloat (value.integer?.getD 0)

/-- The remainder of a division that is rounded toward zero: exact, and with the sign of `x`. -/
def truncatedRemainder (x y : Float) : Float :=
  match Binary.ofFloat? x, Binary.ofFloat? y with
  | some a, some b =>
      let (n, d) := a.toRatio
      let (n', d') := b.toRatio
      if n' = 0 then 0.0 / 0.0
      else
        let size := Binary.round (n * d' % (n' * d)) (d * d')
        if a.isNegative then -size else size
  | some _, none => if y.isNaN then y else x
  | none, _ => 0.0 / 0.0

/-- Does a number have a minus sign, zeros included? -/
def isNegative (x : Float) : Bool :=
  x.toBits >>> 63 == 1

/-- A zero with the sign of a number. -/
def zeroLike (x : Float) : Float :=
  if isNegative x then -0.0 else 0.0

/-- The quotient rounded down and the remainder with the sign of the divisor. -/
def floorDivMod (x y : Float) : Float × Float :=
  let remainder := truncatedRemainder x y
  let quotient := (x - remainder) / y
  let (quotient, remainder) :=
    if remainder != 0.0 then
      if (y < 0.0) != (remainder < 0.0) then (quotient - 1.0, remainder + y)
      else (quotient, remainder)
    else (quotient, zeroLike y)
  if quotient != 0.0 then
    let whole := quotient.floor
    (if quotient - whole > 0.5 then whole + 1.0 else whole, remainder)
  else (zeroLike (x / y), remainder)

/-- A power of floating point numbers. -/
def power (x y : Float) : Except Fault Value :=
  if x == 0.0 && y < 0.0 then
    .error (.zeroDivision "0.0 cannot be raised to a negative power")
  else
    let result := x.pow y
    if x < 0.0 && y.floor != y && !x.isInf && !y.isInf then .ok (.other "complex".toList)
    else if result.isInf && !x.isInf && !y.isInf then
      .error (.overflow "(34, 'Numerical result out of range')")
    else .ok (.float result)

/-- An operator between two floating point numbers. -/
def onFloats (operator : Operator) (x y : Float) : Except Fault Value :=
  match operator with
  | .add => .ok (.float (x + y))
  | .sub => .ok (.float (x - y))
  | .mul => .ok (.float (x * y))
  | .div =>
      if y == 0.0 then .error (.zeroDivision "float division by zero") else .ok (.float (x / y))
  | .floorDiv =>
      if y == 0.0 then .error (.zeroDivision "float floor division by zero")
      else .ok (.float (floorDivMod x y).1)
  | .mod =>
      if y == 0.0 then .error (.zeroDivision "float modulo")
      else .ok (.float (floorDivMod x y).2)
  | .pow => power x y

/-! ### Integers -/

/-- The quotient of two integers as the nearest floating point number. -/
def quotient (m n : Int) : Except Fault Value :=
  let size := Binary.round m.natAbs n.natAbs
  if size.isInf then .error (.overflow "integer division result too large for a float")
  else .ok (.float (if (m < 0) != (n < 0) then -size else size))

/-- The greatest number of binary digits that a power may have. -/
def powerLimit : Nat := Nat.pow 2 33

/-- A power of integers with an exponent that is not negative. -/
def integerPower (m : Int) (n : Nat) : Except Fault Value :=
  if m.natAbs < 2 then .ok (.int (if m = -1 then if n % 2 = 0 then 1 else -1
    else if m = 0 && n ≠ 0 then 0 else 1))
  else if powerLimit < m.natAbs.log2 * n then .error .memory
  else .ok (.int (m.pow n))

/-- An operator between two integers. -/
def onIntegers (operator : Operator) (m n : Int) : Except Fault Value :=
  match operator with
  | .add => .ok (.int (m + n))
  | .sub => .ok (.int (m - n))
  | .mul => .ok (.int (m * n))
  | .div => if n = 0 then .error (.zeroDivision "division by zero") else quotient m n
  | .floorDiv =>
      if n = 0 then .error (.zeroDivision "integer division or modulo by zero")
      else .ok (.int (m.fdiv n))
  | .mod =>
      if n = 0 then .error (.zeroDivision "integer modulo by zero") else .ok (.int (m.fmod n))
  | .pow =>
      if n < 0 then do power (← toFloat m) (← toFloat n)
      else integerPower m n.toNat

/-- An operator between two numbers. -/
def onNumbers (operator : Operator) (a b : Value) : Except Fault Value :=
  match a, b with
  | .float x, b => do onFloats operator x (← floatOf b)
  | a, .float y => do onFloats operator (← floatOf a) y
  | a, b => onIntegers operator (a.integer?.getD 0) (b.integer?.getD 0)

/-! ### Signs -/

/-- A number with its sign turned. -/
def negate (value : Value) : Except Fault Value :=
  match value with
  | .float x => .ok (.float (-x))
  | value => match value.integer? with
    | some n => .ok (.int (-n))
    | none => .error (.typeNamed "bad operand type for unary -: " value.typeName)

/-- A number behind a plus sign. -/
def keepSign (value : Value) : Except Fault Value :=
  match value with
  | .float x => .ok (.float x)
  | value => match value.integer? with
    | some n => .ok (.int n)
    | none => .error (.typeNamed "bad operand type for unary +: " value.typeName)

/-- The size of a number. -/
def absolute (value : Value) : Except Fault Value :=
  match value with
  | .float x => .ok (.float x.abs)
  | value => match value.integer? with
    | some n => .ok (.int n.natAbs)
    | none => .error (.typeNamed "bad operand type for abs(): " value.typeName)

/-- A floating point number without what follows its point. -/
def truncate (x : Float) : Except Fault Value :=
  match Binary.ofFloat? x with
  | none =>
      if x.isNaN then .error (.value "cannot convert float NaN to integer")
      else .error (.overflow "cannot convert float infinity to integer")
  | some b =>
      let (numerator, denominator) := b.toSignedRatio
      .ok (.int (numerator.tdiv denominator))

end Stencil.Script.Arithmetic
