import GcodeTemplate.Proofs.Suppression
import Mathlib.Data.Int.Notation

/-!
# Arithmetic on integers and doubles

An expression of integers, signs and arithmetic operators has an integer as its value, the
one that 64 bits in two's complement hold of it, unless one of its divisors is zero.  Then
the first such divisor that is evaluated is at fault.  A single double among the numbers
makes the value a double.
-/

namespace GcodeTemplate

open Evaluation Eval

/-- An integer as 64 bits in two's complement hold it. -/
def wrapped (n : ℤ) : ℤ :=
  n.bmod Int64.size

namespace ArithmeticOperator

/-- An operator on integers of any size; division cuts toward zero. -/
def onIntegers : ArithmeticOperator → ℤ → ℤ → ℤ
  | add, m, n => m + n
  | subtract, m, n => m - n
  | multiply, m, n => m * n
  | divide, m, n => m.tdiv n
  | remainder, m, n => m.tmod n

/-- On 64 bits an operator yields what it yields on integers, as 64 bits hold it. -/
theorem toInt_onInts
    (operator : ArithmeticOperator)
    (m n : Int64) :
    (operator.onInts m n).toInt = wrapped (operator.onIntegers m.toInt n.toInt) := by
  cases operator with
  | add => exact Int64.toInt_add m n
  | subtract => exact Int64.toInt_sub m n
  | multiply => exact Int64.toInt_mul m n
  | divide => exact Int64.toInt_div m n
  | remainder =>
      have held := Int64.toInt_bmod (m % n)
      rw [Int64.toInt_mod] at held
      exact (Int64.toInt_mod m n).trans held.symm

/-- The least integer has no opposite: divided by minus one it is itself, without a remainder. -/
example :
    divide.onInts Int64.minValue (-1) = Int64.minValue ∧
      remainder.onInts Int64.minValue (-1) = 0 := by
  decide

end ArithmeticOperator

/-! ## Trees of numbers -/

namespace Expr

/-- Trees of numbers, signs in front of them and arithmetic operators between them. -/
inductive IsArithmetic : Expr → Prop where
  | int (span : Span) (n : Int64) :
      IsArithmetic (literal span (.int n))
  | double (span : Span) (x : Float) :
      IsArithmetic (literal span (.double x))
  | negate (span : Span) {operand : Expr} (inner : operand.IsArithmetic) :
      IsArithmetic (unary span .negate operand)
  | plus (span : Span) {operand : Expr} (inner : operand.IsArithmetic) :
      IsArithmetic (unary span .plus operand)
  | binary
      (span : Span)
      (operator : ArithmeticOperator)
      {left right : Expr}
      (leftInner : left.IsArithmetic)
      (rightInner : right.IsArithmetic) :
      IsArithmetic (binary span (.arithmetic operator) left right)

/-- The values that are written in a tree. -/
def literals : Expr → List Value
  | literal _ value => [value]
  | unary _ _ operand => operand.literals
  | binary _ _ left right => left.literals ++ right.literals
  | _ => []

/-- Whether one of the values that are written in a tree is a double. -/
def hasDouble (expr : Expr) : Bool :=
  expr.literals.any (·.isDouble)

theorem hasDouble_binary
    (span : Span)
    (operator : BinaryOperator)
    (left right : Expr) :
    (binary span operator left right).hasDouble = (left.hasDouble || right.hasDouble) :=
  List.any_append

/-- The divisors in a tree, each of them behind those in its own operands and in the dividend. -/
def divisors : Expr → List Expr
  | unary _ _ operand => operand.divisors
  | binary _ (.arithmetic operator) left right =>
      left.divisors ++ (right.divisors ++ if operator.divides then [right] else [])
  | _ => []

/-- The integer that a tree of integers stands for, wrapped at every operator. -/
def integer : Expr → ℤ
  | literal _ (.int n) => n.toInt
  | unary _ .negate operand => wrapped (-operand.integer)
  | unary _ .plus operand => operand.integer
  | binary _ (.arithmetic operator) left right =>
      wrapped (operator.onIntegers left.integer right.integer)
  | _ => 0

/-- The first divisor of a tree that is zero. -/
def zeroDivisor? (expr : Expr) : Option Expr :=
  expr.divisors.find? (·.integer == 0)

end Expr

/-! ## One operator -/

section Step

variable {layers : Layers} {state : State} (active : state.suppressed = 0)

include active

theorem Expr.eval_literal
    (span : Span)
    (value : Value) :
    (Expr.literal span value).eval layers state = (.ok value, state) := by
  rw [Expr.eval.eq_def, unlessSkipping_of_active _ active]
  rfl

theorem Expr.eval_unary
    {operand : Expr}
    {result : Except Fault Value}
    (evaluated : operand.eval layers state = (result, state))
    (span : Span)
    (operator : UnaryOperator) :
    (Expr.unary span operator operand).eval layers state =
      (result >>= fun value =>
        (operator.apply value).mapError (·.fault span operand.span operand.span), state) := by
  rw [Expr.eval.eq_def, unlessSkipping_of_active _ active]
  cases result with
  | error fault => exact bind_of_error evaluated
  | ok value => exact bind_of_ok evaluated

theorem Expr.eval_binary_of_left_error
    {left : Expr}
    {fault : Fault}
    (failed : left.eval layers state = (.error fault, state))
    (span : Span)
    (operator : BinaryOperator)
    (right : Expr) :
    (Expr.binary span operator left right).eval layers state = (.error fault, state) := by
  rw [Expr.eval.eq_def, unlessSkipping_of_active _ active]
  exact bind_of_error failed

section LeftEvaluated

variable
  {left right : Expr}
  {a b : Value}
  (evaluatedLeft : left.eval layers state = (.ok a, state))

include evaluatedLeft

theorem Expr.eval_binary_of_right_error
    {fault : Fault}
    (failed : right.eval layers state = (.error fault, state))
    (span : Span)
    (operator : BinaryOperator) :
    (Expr.binary span operator left right).eval layers state = (.error fault, state) := by
  rw [Expr.eval.eq_def, unlessSkipping_of_active _ active]
  exact (bind_of_ok evaluatedLeft).trans (bind_of_error failed)

theorem Expr.eval_binary_of_ok
    (evaluatedRight : right.eval layers state = (.ok b, state))
    (span : Span)
    (operator : BinaryOperator) :
    (Expr.binary span operator left right).eval layers state =
      ((operator.apply a b).mapError (·.fault span left.span right.span), state) := by
  rw [Expr.eval.eq_def, unlessSkipping_of_active _ active]
  exact (bind_of_ok evaluatedLeft).trans (bind_of_ok evaluatedRight)

end LeftEvaluated

end Step

/-! ## Integers -/

/-- On integers an operator fails exactly if it divides by zero. -/
theorem Value.arithmetic_int
    (operator : ArithmeticOperator)
    (m n : Int64) :
    (Value.int m).arithmetic operator (.int n) =
      if operator.divides && n == 0 then
        .error ⟨.divisionByZero, .right⟩
      else
        .ok (.int (operator.onInts m n)) := by
  cases operator <;> rfl

namespace Expr

theorem zeroDivisor?_binary
    (span : Span)
    (operator : ArithmeticOperator)
    (left right : Expr) :
    (binary span (.arithmetic operator) left right).zeroDivisor? =
      (left.zeroDivisor?.or (right.zeroDivisor?.or
        (if operator.divides && right.integer == 0 then some right else none))) := by
  simp only [zeroDivisor?, divisors, List.find?_append]
  cases operator.divides with
  | false => rfl
  | true =>
      cases zero : right.integer == 0 <;> simp [zero]

variable {layers : Layers} {state : State} {expr : Expr}

/-- What an operator yields between trees that have integers as their values. -/
theorem eval_binary_of_ints
    (active : state.suppressed = 0)
    {left right : Expr}
    {m n : Int64}
    (evaluatedLeft : left.eval layers state = (.ok (.int m), state))
    (evaluatedRight : right.eval layers state = (.ok (.int n), state))
    (span : Span)
    (operator : ArithmeticOperator) :
    (binary span (.arithmetic operator) left right).eval layers state =
      (if operator.divides && n == 0 then
        .error ⟨.divisionByZero, right.span⟩
      else
        .ok (.int (operator.onInts m n)), state) := by
  rw [eval_binary_of_ok active evaluatedLeft evaluatedRight span, BinaryOperator.apply,
    Value.arithmetic_int]
  split <;> rfl

/--
A tree of integers has the integer that it stands for as its value, or else its first
divisor that is zero is at fault.
-/
theorem eval_of_integers
    (active : state.suppressed = 0)
    (arithmetic : expr.IsArithmetic)
    (integers : expr.hasDouble = false) :
    (expr.zeroDivisor? = none →
      ∃ n : Int64, n.toInt = expr.integer ∧
        expr.eval layers state = (.ok (.int n), state)) ∧
    ∀ divisor, expr.zeroDivisor? = some divisor →
      expr.eval layers state = (.error ⟨.divisionByZero, divisor.span⟩, state) := by
  induction arithmetic with
  | int span n =>
      exact ⟨fun _ => ⟨n, rfl, eval_literal active span (.int n)⟩, nofun⟩
  | double span x =>
      nomatch integers
  | negate span inner ih =>
      rcases ih integers with ⟨calculated, failed⟩
      refine ⟨fun none => ?_, fun divisor zero => ?_⟩
      · rcases calculated none with ⟨n, same, evaluated⟩
        refine ⟨-n, ?_, eval_unary active evaluated span .negate⟩
        rw [Int64.toInt_neg, same]
        rfl
      · exact eval_unary active (failed divisor zero) span .negate
  | plus span inner ih =>
      rcases ih integers with ⟨calculated, failed⟩
      refine ⟨fun none => ?_, fun divisor zero => ?_⟩
      · rcases calculated none with ⟨n, same, evaluated⟩
        exact ⟨n, same, eval_unary active evaluated span .plus⟩
      · exact eval_unary active (failed divisor zero) span .plus
  | @binary span operator left right leftInner rightInner ihLeft ihRight =>
      rw [hasDouble_binary, Bool.or_eq_false_iff] at integers
      rcases ihLeft integers.1 with ⟨calculatedLeft, failedLeft⟩
      rcases ihRight integers.2 with ⟨calculatedRight, failedRight⟩
      rw [zeroDivisor?_binary]
      cases zeroLeft : left.zeroDivisor? with
      | some divisor =>
          refine ⟨nofun, fun first same => ?_⟩
          cases same
          exact eval_binary_of_left_error active (failedLeft divisor zeroLeft) span _ right
      | none =>
          rcases calculatedLeft zeroLeft with ⟨m, sameLeft, evaluatedLeft⟩
          cases zeroRight : right.zeroDivisor? with
          | some divisor =>
              refine ⟨nofun, fun first same => ?_⟩
              cases same
              exact eval_binary_of_right_error active evaluatedLeft
                (failedRight divisor zeroRight) span _
          | none =>
              rcases calculatedRight zeroRight with ⟨n, sameRight, evaluatedRight⟩
              have zero : (right.integer == 0) = (n == 0) := by
                rw [← sameRight, Bool.eq_iff_iff, beq_iff_eq, beq_iff_eq, ← Int64.toInt_inj]
                rfl
              rw [eval_binary_of_ints active evaluatedLeft evaluatedRight span]
              simp only [Option.none_or, zero]
              cases operator.divides && n == 0 with
              | true =>
                  refine ⟨nofun, fun first same => ?_⟩
                  cases same
                  rfl
              | false =>
                  refine ⟨fun _ => ⟨operator.onInts m n, ?_, rfl⟩, nofun⟩
                  rw [operator.toInt_onInts, sameLeft, sameRight]
                  rfl

end Expr

/-! ## Integers and doubles -/

/-- A number is no string. -/
theorem Value.isString_of_isNumeric
    {value : Value}
    (numeric : value.isNumeric) :
    value.isString = false := by
  cases value <;> first | rfl | nomatch numeric

/-- On numbers an operator yields a double if one of them is, unless it divides by zero. -/
theorem Value.arithmetic_of_isNumeric
    (operator : ArithmeticOperator)
    {a b : Value}
    (left : a.isNumeric)
    (right : b.isNumeric) :
    (∃ value : Value, a.arithmetic operator b = .ok value ∧ value.isNumeric ∧
      value.isDouble = (a.isDouble || b.isDouble)) ∨
    operator.divides ∧ a.arithmetic operator b = .error ⟨.divisionByZero, .right⟩ := by
  simp only [arithmetic, isString_of_isNumeric left, isString_of_isNumeric right, Bool.or_false,
    Bool.and_false, Bool.false_eq_true, if_false, calculate, left, right, Bool.not_true]
  cases divides : operator.divides && b.isZero with
  | true =>
      exact .inr ⟨(Bool.and_eq_true_iff.1 divides).1, rfl⟩
  | false =>
      refine .inl ?_
      cases a with
      | int m =>
          cases b with
          | int n => exact ⟨_, rfl, rfl, rfl⟩
          | double y => exact ⟨_, rfl, rfl, rfl⟩
          | _ => nomatch right
      | double x => exact ⟨_, rfl, rfl, rfl⟩
      | _ => nomatch left

namespace Expr

variable {layers : Layers} {state : State} {expr : Expr}

/--
A tree of numbers has a number as its value, a double if one is written in it, or else one
of its divisors is at fault.
-/
theorem eval_of_isArithmetic
    (active : state.suppressed = 0)
    (arithmetic : expr.IsArithmetic) :
    (∃ value : Value, expr.eval layers state = (.ok value, state) ∧ value.isNumeric ∧
      value.isDouble = expr.hasDouble) ∨
    ∃ divisor ∈ expr.divisors,
      expr.eval layers state = (.error ⟨.divisionByZero, divisor.span⟩, state) := by
  induction arithmetic with
  | int span n =>
      exact .inl ⟨.int n, eval_literal active span (.int n), rfl, rfl⟩
  | double span x =>
      exact .inl ⟨.double x, eval_literal active span (.double x), rfl, rfl⟩
  | negate span inner ih =>
      rcases ih with ⟨value, evaluated, numeric, double⟩ | ⟨divisor, member, failed⟩
      · have negated := eval_unary active evaluated span .negate
        cases value with
        | int n => exact .inl ⟨.int (-n), negated, rfl, double⟩
        | double x => exact .inl ⟨.double (-x), negated, rfl, double⟩
        | _ => nomatch numeric
      · exact .inr ⟨divisor, member, eval_unary active failed span .negate⟩
  | plus span inner ih =>
      rcases ih with ⟨value, evaluated, numeric, double⟩ | ⟨divisor, member, failed⟩
      · exact .inl ⟨value, eval_unary active evaluated span .plus, numeric, double⟩
      · exact .inr ⟨divisor, member, eval_unary active failed span .plus⟩
  | @binary span operator left right leftInner rightInner ihLeft ihRight =>
      rcases ihLeft with ⟨a, evaluatedLeft, numericLeft, doubleLeft⟩ | ⟨divisor, member, failed⟩
      · rcases ihRight with
          ⟨b, evaluatedRight, numericRight, doubleRight⟩ | ⟨divisor, member, failed⟩
        · rw [eval_binary_of_ok active evaluatedLeft evaluatedRight span, BinaryOperator.apply,
            hasDouble_binary, ← doubleLeft, ← doubleRight]
          rcases Value.arithmetic_of_isNumeric operator numericLeft numericRight with
            ⟨value, calculated, numeric, double⟩ | ⟨divides, failed⟩
          · exact .inl ⟨value, by rw [calculated]; rfl, numeric, double⟩
          · refine .inr ⟨right, ?_, by rw [failed]; rfl⟩
            simp [divisors, divides]
        · refine .inr ⟨divisor, ?_, eval_binary_of_right_error active evaluatedLeft failed span _⟩
          simp [divisors, member]
      · refine .inr ⟨divisor, ?_, eval_binary_of_left_error active failed span _ right⟩
        simp [divisors, member]

end Expr

/--
Evaluate a tree of numbers, signs and arithmetic operators where blocks are taken.  If all
of its numbers are integers, its value is the integer that arithmetic in 64 bits gives, as
long as no divisor is zero; otherwise the first zero divisor, operands before operators and
from left to right, is at fault.  Doubles or not, a value of the tree is a number, and a
double exactly if one is written in it; and nothing but a divisor is ever at fault.
-/
theorem arithmetic_closed_and_promoting
    (layers : Layers)
    (state : State)
    (expr : Expr)
    (active : state.suppressed = 0)
    (arithmetic : expr.IsArithmetic) :
    (expr.hasDouble = false →
      ((∀ divisor ∈ expr.divisors, divisor.integer ≠ 0) →
        ∃ n : Int64, n.toInt = expr.integer ∧
          expr.eval layers state = (.ok (.int n), state)) ∧
      ∀ divisor, expr.divisors.find? (·.integer == 0) = some divisor →
        expr.eval layers state = (.error ⟨.divisionByZero, divisor.span⟩, state)) ∧
    (∀ value after, expr.eval layers state = (.ok value, after) →
      value.isNumeric ∧ value.isDouble = expr.hasDouble ∧ after = state) ∧
    ∀ fault after, expr.eval layers state = (.error fault, after) →
      fault.cause = .divisionByZero ∧ (∃ divisor ∈ expr.divisors, fault.span = divisor.span) ∧
        after = state := by
  refine ⟨fun integers => ?_, fun value after evaluated => ?_, fun fault after failed => ?_⟩
  · rcases Expr.eval_of_integers active arithmetic integers with ⟨calculated, failed⟩
    refine ⟨fun nonzero => calculated (List.find?_eq_none.2 fun divisor member => ?_), failed⟩
    simpa using nonzero divisor member
  · rcases expr.eval_of_isArithmetic active arithmetic with
      ⟨other, same, numeric, double⟩ | ⟨divisor, _, failed⟩
    · cases same.symm.trans evaluated
      exact ⟨numeric, double, rfl⟩
    · nomatch failed.symm.trans evaluated
  · rcases expr.eval_of_isArithmetic active arithmetic with
      ⟨value, evaluated, _⟩ | ⟨divisor, member, same⟩
    · nomatch evaluated.symm.trans failed
    · cases same.symm.trans failed
      exact ⟨rfl, ⟨divisor, member, rfl⟩, rfl⟩

/--
The least integer divided by minus one is itself again, so subtracting it from that leaves a
divisor that is zero; and a double in front of the quotient makes the sum a double.
-/
theorem least_integer_without_opposite :
    let least : Expr := .literal ⟨0, 4⟩ (.int Int64.minValue)
    let quotient : Expr :=
      .binary ⟨0, 9⟩ (.arithmetic .divide) least (.literal ⟨7, 9⟩ (.int (-1)))
    let nothing : Expr := .binary ⟨0, 16⟩ (.arithmetic .subtract) quotient least
    let failing : Expr :=
      .binary ⟨0, 20⟩ (.arithmetic .remainder) (.literal ⟨19, 20⟩ (.int 7)) nothing
    let sum : Expr :=
      .binary ⟨0, 15⟩ (.arithmetic .add) (.literal ⟨12, 15⟩ (.double 0.5)) quotient
    ({} : State).suppressed = 0 ∧ quotient.IsArithmetic ∧ failing.IsArithmetic ∧
      sum.IsArithmetic ∧
      (∃ n : Int64, n.toInt = -9223372036854775808 ∧
        quotient.eval { process := ∅ } {} = (.ok (.int n), {})) ∧
      failing.eval { process := ∅ } {} = (.error ⟨.divisionByZero, ⟨0, 16⟩⟩, {}) ∧
      ∃ value : Value, sum.eval { process := ∅ } {} = (.ok value, {}) ∧ value.isDouble := by
  intro least quotient nothing failing sum
  have quotientIs : quotient.IsArithmetic := .binary _ _ (.int _ _) (.int _ _)
  have failingIs : failing.IsArithmetic :=
    .binary _ _ (.int _ _) (.binary _ _ quotientIs (.int _ _))
  have sumIs : sum.IsArithmetic := .binary _ _ (.double _ _) quotientIs
  refine ⟨rfl, quotientIs, failingIs, sumIs, ?_, ?_, _, rfl, ?_⟩
  · have nonzero := ((arithmetic_closed_and_promoting { process := ∅ } {} quotient rfl
      quotientIs).1 rfl).1
    refine nonzero fun divisor member => ?_
    obtain rfl : divisor = .literal ⟨7, 9⟩ (.int (-1)) := List.mem_singleton.1 member
    decide
  · exact ((arithmetic_closed_and_promoting { process := ∅ } {} failing rfl failingIs).1 rfl).2
      nothing rfl
  · exact ((arithmetic_closed_and_promoting { process := ∅ } {} sum rfl sumIs).2.1 _ {} rfl).2.1

end GcodeTemplate
