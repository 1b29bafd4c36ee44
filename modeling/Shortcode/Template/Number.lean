import Shortcode.Decimal.Binary
import Shortcode.Decimal.Nearest
import Shortcode.Template.Use
import Shortcode.Template.Tree

/-!
# Arithmetic

Flags count as whole numbers, and a whole number becomes a floating-point number where it meets
one.  Whole numbers are divided exactly and rounded once; they are compared with floating-point
numbers by size, without rounding.
-/

namespace Shortcode.Template

/-- A number. -/
inductive Number where
  | whole (number : Int)
  | float (number : Float)

/-- The value as a number. -/
def Number.of? : Value → Option Number
  | .float number => some (.float number)
  | other => other.int?.map .whole

/-- The number as a value. -/
def Number.value : Number → Value
  | .whole number => .int number
  | .float number => .float number

/-- The number as a floating-point number. -/
def Number.toFloat : Number → Except RenderError Float
  | .float number => .ok number
  | .whole number =>
    match Decimal.nearestToInt? number with
    | some nearest => .ok nearest
    | none => .error ⟨.overflow, "int too large to convert to float"⟩

/-- The number with its sign changed. -/
def Number.negated : Number → Number
  | .whole number => .whole (-number)
  | .float number => .float (-number)

/-- A number divided by zero. -/
def divisionByZero (detail : String) : RenderError := ⟨.division, detail⟩

/-- The floating-point number nearest to a quotient. -/
def quotient (left right : Int) : Except RenderError Float :=
  if right == 0 then .error (divisionByZero "division by zero")
  else match Decimal.nearest? left.natAbs right.natAbs with
    | some size => .ok (if (left < 0) != (right < 0) then -size else size)
    | none => .error ⟨.overflow, "integer division result too large for a float"⟩

/-- A negative power of zero. -/
def zeroToNegative : RenderError :=
  divisionByZero "0.0 cannot be raised to a negative power"

/-- A power of floating-point numbers. -/
def floatPower (base exponent : Float) : Except RenderError Float :=
  if base == 0 && exponent < 0 then .error zeroToNegative
  else
    let result := Float.pow base exponent
    if result.isInf && base.isFinite && exponent.isFinite then
      .error ⟨.overflow, "(34, 'Numerical result out of range')"⟩
    else .ok result

/-- An operation on whole numbers. -/
def wholeOperation (operation : Arithmetic) (left right : Int) : Except RenderError Number :=
  match operation with
  | .add => .ok (.whole (left + right))
  | .subtract => .ok (.whole (left - right))
  | .multiply => .ok (.whole (left * right))
  | .divide => (quotient left right).map .float
  | .floorDivide =>
    if right == 0 then .error (divisionByZero "integer division or modulo by zero")
    else .ok (.whole (Int.fdiv left right))
  | .modulo =>
    if right == 0 then .error (divisionByZero "integer modulo by zero")
    else .ok (.whole (Int.fmod left right))
  | .power =>
    if 0 ≤ right then .ok (.whole (Int.pow left right.toNat))
    else if left == 0 then .error zeroToNegative
    else do
      let base ← Number.toFloat (.whole left)
      (floatPower base (← Number.toFloat (.whole right))).map .float

/-- The size of a number with the sign of another one. -/
def withSignOf (sign size : Float) : Float :=
  if sign < 0 || (sign == 0 && 1 / sign < 0) then -size.abs else size.abs

/-- What is left of a number after another one has been taken from it as often as possible, with
the sign of the first.  The result is exact. -/
def floatRemainder (left right : Float) : Float :=
  match Decimal.decode left, Decimal.decode right with
  | .finite one, .finite other =>
    let (numerator, denominator) := one.fraction
    let (otherNumerator, otherDenominator) := other.fraction
    let rest := (numerator.natAbs * otherDenominator) % (otherNumerator.natAbs * denominator)
    withSignOf left ((Decimal.nearest? rest (denominator * otherDenominator)).getD 0)
  | .finite _, .infinite _ => left
  | _, _ => 0.0 / 0.0

/-- The floor of a quotient, and the rest, which has the sign of the divisor. -/
def floatDivision (left right : Float) : Float × Float :=
  let rest := floatRemainder left right
  let whole := (left - rest) / right
  let (rest, whole) :=
    if rest == 0 then (withSignOf right 0, whole)
    else if (right < 0) != (rest < 0) then (rest + right, whole - 1) else (rest, whole)
  let floor := whole.floor
  let floor :=
    if whole == 0 then withSignOf (left / right) 0
    else if whole - floor > 0.5 then floor + 1 else floor
  (floor, rest)

/-- An operation on floating-point numbers. -/
def floatOperation (operation : Arithmetic) (left right : Float) : Except RenderError Float :=
  match operation with
  | .add => .ok (left + right)
  | .subtract => .ok (left - right)
  | .multiply => .ok (left * right)
  | .divide =>
    if right == 0 then .error (divisionByZero "float division by zero") else .ok (left / right)
  | .floorDivide =>
    if right == 0 then .error (divisionByZero "float floor division by zero")
    else .ok (floatDivision left right).1
  | .modulo =>
    if right == 0 then .error (divisionByZero "float modulo")
    else .ok (floatDivision left right).2
  | .power => floatPower left right

/-- An operation on two numbers. -/
def Number.operation (operation : Arithmetic) (left right : Number) : Except RenderError Number :=
  match left, right with
  | .whole one, .whole other => wholeOperation operation one other
  | _, _ => do
    let one ← left.toFloat
    (floatOperation operation one (← right.toFloat)).map .float

/-- How a whole number compares with a floating-point number, unless that is no number. -/
def compareWhole? (whole : Int) (number : Float) : Option Ordering :=
  match Decimal.decode number with
  | .finite binary =>
    let (numerator, denominator) := binary.fraction
    some (compare (whole * denominator) numerator)
  | .infinite negative => some (if negative then .gt else .lt)
  | .invalid => none

/-- How two numbers compare, if both are numbers. -/
def Number.compare? (left right : Number) : Option Ordering :=
  match left, right with
  | .whole one, .whole other => some (compare one other)
  | .whole one, .float other => compareWhole? one other
  | .float one, .whole other => (compareWhole? other one).map Ordering.swap
  | .float one, .float other =>
    if one < other then some .lt else if one == other then some .eq
    else if other < one then some .gt else none

end Shortcode.Template
