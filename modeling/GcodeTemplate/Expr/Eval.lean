import GcodeTemplate.Call.Inspection
import GcodeTemplate.Call.Interpolation
import GcodeTemplate.Call.Numeric
import GcodeTemplate.Expr
import GcodeTemplate.Pattern

/-!
# The value of an expression

Operands are evaluated from left to right, and both operands of a logical
operator are.  Of a conditional one branch is evaluated and the other one is
gone through as a block that is not taken.
-/

namespace GcodeTemplate

namespace Mismatch

/-- Where the fault of an operator is placed. -/
def fault (mismatch : Mismatch) (whole left right : Span) : Fault :=
  match mismatch.operand with
  | .left => ⟨mismatch.cause, left⟩
  | .right => ⟨mismatch.cause, right⟩
  | .both => ⟨mismatch.cause, whole⟩

end Mismatch

namespace Sourced

/--
A value that is an index, a negative one as that of the first element.  Only
vectors have an index.
-/
def place (isVector : Bool) (source : Sourced) : Except Fault (Option Nat) :=
  match source.value with
  | .int n => .ok (if isVector then some n.toInt.toNat else none)
  | .empty => .ok none
  | _ => .error ⟨.indexNotWhole, source.span⟩

end Sourced

namespace UnaryOperator

/-- The value that an operator makes of another one. -/
def apply (operator : UnaryOperator) (value : Value) : Except Mismatch Value :=
  match operator with
  | negate => value.negate
  | plus => .ok value
  | not => value.invert

end UnaryOperator

namespace BinaryOperator

/-- The value that an operator makes of two others. -/
def apply (operator : BinaryOperator) (left right : Value) : Except Mismatch Value :=
  match operator with
  | arithmetic operator => left.arithmetic operator right
  | compare comparison => .bool <$> left.compare comparison right
  | logic operator => left.logic operator right

end BinaryOperator

namespace Eval

open Evaluation

/-- Evaluate an expression at a span, and take its value as what it has to be. -/
def expecting
    {α : Type}
    (check : Sourced → Except Fault α)
    (span : Span)
    (evaluation : Eval Value) :
    Eval α := do
  let value ← evaluation
  ofExcept (check ⟨value, span⟩)

/-- The result of an operator between expressions with the given spans. -/
def operate (result : Except Mismatch Value) (whole left right : Span) : Eval Value :=
  ofExcept (result.mapError (·.fault whole left right))

/-- The scope of a name, and whether it stands for a vector. -/
def resolve (name : String) (span : Span) : Eval (Scope × Bool) :=
  inspect fun layers state =>
    match lookUp layers state name with
    | some (setting, scope) => .ok (scope, setting.isVector)
    | none => .error ⟨.unknownVariable, span⟩

/-- The pattern of a regular expression that stands at a span; it may be rejected. -/
def regex (rejection : Cause) (source : String) (span : Span) : Eval Pattern :=
  match Pattern.ofRegex? source with
  | some pattern => pure pattern
  | none => fail rejection span

end Eval

open Evaluation Eval Sourced

mutual

/-- The value of an expression. -/
def Expr.eval (expr : Expr) : Eval Value :=
  unlessSkipping <|
    match expr with
    | .literal _ value => pure value
    | .read _ reference => do
        let binding ← reference.bind
        read binding
    | .unary span operator operand => do
        let value ← operand.eval
        operate (operator.apply value) span operand.span operand.span
    | .binary span operator left right => do
        let first ← left.eval
        let second ← right.eval
        operate (operator.apply first second) span left.span right.span
    | .fullMatch _ negated subject source sourceSpan => do
        let text ← expecting (string .matchedNotString) subject.span subject.eval
        let pattern ← regex (.patternMalformed source) source sourceSpan
        pure (.bool (pattern.accepts text != negated))
    | .conditional _ condition yes no => do
        let holds ← expecting (truth .notACondition) condition.span condition.eval
        let first ← within holds yes.eval
        let second ← within (! holds) no.eval
        pure (if holds then first else second)
    | .call span call => call.eval span

/-- The binding of a reference, with its index evaluated. -/
def Reference.bind (reference : Reference Expr) : Eval Binding :=
  match reference with
  | ⟨name, nameSpan, none, span⟩ => do
      let (scope, _) ← resolve name nameSpan
      pure ⟨name, scope, none, span⟩
  | ⟨name, nameSpan, some index, span⟩ => do
      let (scope, isVector) ← resolve name nameSpan
      let place ← expecting (place isVector) index.span index.eval
      pure ⟨name, scope, place, span⟩

/-- The value of a call that stands at a span. -/
def Call.eval (call : Call) (span : Span) : Eval Value :=
  match call with
  | .minimum left right => do
      let first ← expecting (number .argumentNotNumeric) left.span left.eval
      let second ← expecting (number .argumentNotNumeric) right.span right.eval
      pure (Value.Extreme.least.of first second)
  | .maximum left right => do
      let first ← expecting (number .argumentNotNumeric) left.span left.eval
      let second ← expecting (number .argumentNotNumeric) right.span right.eval
      pure (Value.Extreme.greatest.of first second)
  | .random low high => do
      let first ← expecting (number .argumentNotNumeric) low.span low.eval
      let second ← expecting (number .argumentNotNumeric) high.span high.eval
      draw span first second
  | .changeFilament filament => do
      let value ← expecting (number .argumentNotNumeric) filament.span filament.eval
      changeFilament filament.span value
  | .digits zeros value width none => do
      let value ← expecting (number .argumentNotNumeric) value.span value.eval
      let width ← expecting (whole .widthNotWhole) width.span width.eval
      pure (.string (value.columnText zeros width none))
  | .digits zeros value width (some places) => do
      let value ← expecting (number .argumentNotNumeric) value.span value.eval
      let width ← expecting (whole .widthNotWhole) width.span width.eval
      let places ← expecting (whole .placesNotWhole) places.span places.eval
      pure (.string (value.columnText zeros width (some places)))
  | .round rounding argument => do
      let value ← argument.eval
      operate (value.toInt rounding) span argument.span argument.span
  | .isNil reference => do
      let binding ← reference.bind
      .bool <$> inspect binding.isNil
  | .isEmpty reference => do
      let binding ← reference.bind
      let size ← inspect (binding.vectorSize reference.index.isSome .emptyOfScalar)
      pure (.bool (size == 0))
  | .size reference => do
      let binding ← reference.bind
      let size ← inspect (binding.vectorSize reference.index.isSome .sizeOfScalar)
      pure (.int (.ofNat size))
  | .oneOf subject candidates => do
      let value ← subject.eval
      .bool <$> Candidate.anyAccepts ⟨value, subject.span⟩ candidates
  | .interpolate abscissa table => do
      let x ← expecting (number .abscissaNotNumeric) abscissa.span abscissa.eval
      let knots ← Table.eval table
      .double <$> ofExcept (knots.interpolate x.toFloat abscissa.span)

/-- Whether a candidate accepts a subject; none is evaluated after one that does. -/
def Candidate.anyAccepts (subject : Sourced) : List (Candidate Expr) → Eval Bool
  | [] => pure false
  | candidate :: rest => do
      let text ← ofExcept (string .subjectNotString subject)
      if ← candidate.accepts text then
        pure true
      else
        Candidate.anyAccepts subject rest

/-- Whether a candidate accepts a text. -/
def Candidate.accepts (candidate : Candidate Expr) (text : String) : Eval Bool :=
  match candidate with
  | .text expr => do
      let expected ← expecting (string .patternNotString) expr.span expr.eval
      pure ((Pattern.literal expected).accepts text)
  | .pattern expr => do
      let source ← expecting (string .patternNotString) expr.span expr.eval
      let pattern ← regex .patternRejected source expr.span
      pure (pattern.accepts text)
  | .regex source span => do
      let pattern ← regex (.patternMalformed source) source span
      pure (pattern.accepts text)

/-- The points of a table. -/
def Table.eval : List (Expr × Expr) → Eval Table
  | [] => pure []
  | (x, y) :: rest => do
      let abscissa ← expecting (number .knotAbscissaNotNumeric) x.span x.eval
      let ordinate ← expecting (number .knotOrdinateNotNumeric) y.span y.eval
      let knots ← Table.eval rest
      pure (⟨abscissa.toFloat, ordinate.toFloat, x.span⟩ :: knots)

end

/-- The value of an expression that has to be a condition. -/
def Expr.evalCondition (expr : Expr) : Eval Bool :=
  expecting (truth .notACondition) expr.span expr.eval

end GcodeTemplate
