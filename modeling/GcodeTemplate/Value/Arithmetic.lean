import GcodeTemplate.Diagnostic.Cause
import GcodeTemplate.Number.Remainder
import GcodeTemplate.Value

/-!
# Operators on values

Arithmetic stays with 64-bit integers, which wrap around, as long as both
operands are such; a double makes the result a double.  An operator does not
know positions: it reports a cause and the operand that is at fault.
-/

namespace GcodeTemplate

/-- The operand that a failure of an operator belongs to. -/
inductive Operand where
  | left
  | right
  | both
deriving DecidableEq, Repr

/-- The failure of an operator. -/
structure Mismatch where
  cause : Cause
  operand : Operand
deriving DecidableEq, Repr

/-- The arithmetic operators. -/
inductive ArithmeticOperator where
  | add
  | subtract
  | multiply
  | divide
  | remainder
deriving DecidableEq, Repr

/-- The comparisons. -/
inductive Comparison where
  | equal
  | notEqual
  | less
  | greater
  | lessOrEqual
  | greaterOrEqual
deriving DecidableEq, Repr

/-- The operators on truth values. -/
inductive LogicalOperator where
  | and
  | or
deriving DecidableEq, Repr

namespace ArithmeticOperator

/-- An operator on integers; division cuts toward zero. -/
def onInts : ArithmeticOperator → Int64 → Int64 → Int64
  | add, m, n => m + n
  | subtract, m, n => m - n
  | multiply, m, n => m * n
  | divide, m, n => m / n
  | remainder, m, n => m % n

/-- An operator on doubles. -/
def onFloats : ArithmeticOperator → Float → Float → Float
  | add, x, y => x + y
  | subtract, x, y => x - y
  | multiply, x, y => x * y
  | divide, x, y => x / y
  | remainder, x, y => Number.remainder x y

/-- Whether the right operand must not be zero. -/
def divides : ArithmeticOperator → Bool
  | divide | remainder => true
  | _ => false

/-- Why an operator refuses its left operand. -/
def leftCause : ArithmeticOperator → Cause
  | add => .cannotAdd
  | subtract => .cannotSubtract
  | multiply => .cannotMultiply
  | divide | remainder => .cannotDivide

/-- Why an operator refuses its right operand. -/
def rightCause : ArithmeticOperator → Cause
  | add => .cannotAdd
  | subtract => .cannotSubtract
  | multiply => .cannotMultiply
  | divide | remainder => .cannotDivideBy

end ArithmeticOperator

namespace Value

/-- Whether a number is zero. -/
def isZero : Value → Bool
  | int n => n == 0
  | double x => x == 0.0
  | _ => false

/-- An arithmetic operator on two numbers. -/
def calculate
    (operator : ArithmeticOperator)
    (left right : Value) :
    Except Mismatch Value :=
  if ! left.isNumeric then
    .error ⟨operator.leftCause, .left⟩
  else if ! right.isNumeric then
    .error ⟨operator.rightCause, .right⟩
  else if operator.divides && right.isZero then
    .error ⟨.divisionByZero, .right⟩
  else
    match left, right with
    | int m, int n => .ok (int (operator.onInts m n))
    | _, _ => .ok (double (operator.onFloats left.toFloat right.toFloat))

/--
An arithmetic operator on any two values.  Adding anything to a string joins
the texts.
-/
def arithmetic
    (operator : ArithmeticOperator)
    (left right : Value) :
    Except Mismatch Value :=
  if operator = .add && (left.isString || right.isString) then
    .ok (string (left.text ++ right.text))
  else
    calculate operator left right

/-- The negative of a number. -/
def negate : Value → Except Mismatch Value
  | int n => .ok (int (-n))
  | double x => .ok (double (-x))
  | _ => .error ⟨.cannotNegate, .left⟩

/-- The opposite of a truth value. -/
def invert : Value → Except Mismatch Value
  | bool b => .ok (bool (! b))
  | _ => .error ⟨.cannotInvert, .left⟩

/-- Why rounding refuses a value. -/
def roundingCause : Number.Rounding → Cause
  | .towardZero => .cannotTruncate
  | .halfAway => .cannotRound
  | .down => .cannotFloor
  | .up => .cannotCeil

/-- The integer that a number is rounded to.  Integers stay as they are. -/
def toInt (rounding : Number.Rounding) : Value → Except Mismatch Value
  | int n => .ok (int n)
  | double x => .ok (int (rounding.toInt64 x))
  | _ => .error ⟨roundingCause rounding, .left⟩

/-- A logical operator on two truth values; both are always looked at. -/
def logic
    (operator : LogicalOperator)
    (left right : Value) :
    Except Mismatch Value :=
  match left, right with
  | bool a, bool b =>
      match operator with
      | .and => .ok (bool (a && b))
      | .or => .ok (bool (a || b))
  | bool _, _ => .error ⟨.cannotJoinLogically, .right⟩
  | _, _ => .error ⟨.cannotJoinLogically, .left⟩

end Value

end GcodeTemplate
