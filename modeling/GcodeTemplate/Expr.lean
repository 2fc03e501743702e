import GcodeTemplate.Diagnostic.Span
import GcodeTemplate.Value.Compare

/-!
# Expressions

The syntax trees of expressions.  Every part carries the span that it was read
from, which places the faults of its evaluation.
-/

namespace GcodeTemplate

/-- The operators in front of an expression. -/
inductive UnaryOperator where
  | negate
  | plus
  | not
deriving DecidableEq, Repr

/-- The operators between two expressions. -/
inductive BinaryOperator where
  | arithmetic (operator : ArithmeticOperator)
  | compare (comparison : Comparison)
  | logic (operator : LogicalOperator)
deriving DecidableEq, Repr

/-- A variable, or an element of one, with the index written as an `ε`. -/
structure Reference (ε : Type) where
  name : String
  nameSpan : Span
  index : Option ε
  span : Span

/-- What a string may be compared with in a list of candidates. -/
inductive Candidate (ε : Type) where
  /-- A string that has to be equal. -/
  | text (expr : ε)
  /-- A string that holds a regular expression. -/
  | pattern (expr : ε)
  /-- A regular expression between slashes. -/
  | regex (source : String) (span : Span)

mutual

/-- An expression. -/
inductive Expr where
  | literal (span : Span) (value : Value)
  | read (span : Span) (reference : Reference Expr)
  | unary (span : Span) (operator : UnaryOperator) (operand : Expr)
  | binary (span : Span) (operator : BinaryOperator) (left right : Expr)
  /-- Whether a regular expression matches a string, or does not. -/
  | fullMatch
      (span : Span)
      (negated : Bool)
      (subject : Expr)
      (pattern : String)
      (patternSpan : Span)
  | conditional (span : Span) (condition yes no : Expr)
  | call (span : Span) (call : Call)

/-- A call of one of the functions of the language. -/
inductive Call where
  | minimum (left right : Expr)
  | maximum (left right : Expr)
  | random (low high : Expr)
  | changeFilament (filament : Expr)
  | digits (zeros : Bool) (value width : Expr) (places : Option Expr)
  | round (rounding : Number.Rounding) (argument : Expr)
  | isNil (reference : Reference Expr)
  | isEmpty (reference : Reference Expr)
  | size (reference : Reference Expr)
  | oneOf (subject : Expr) (candidates : List (Candidate Expr))
  | interpolate (abscissa : Expr) (table : List (Expr × Expr))

end

namespace Expr

/-- The span that an expression was read from. -/
def span : Expr → Span
  | literal span _ => span
  | read span _ => span
  | unary span _ _ => span
  | binary span _ _ _ => span
  | fullMatch span _ _ _ _ => span
  | conditional span _ _ _ => span
  | call span _ => span

/-- The same expression with another span. -/
def withSpan (span : Span) : Expr → Expr
  | literal _ value => literal span value
  | read _ reference => read span reference
  | unary _ operator operand => unary span operator operand
  | binary _ operator left right => binary span operator left right
  | fullMatch _ negated subject pattern patternSpan =>
      fullMatch span negated subject pattern patternSpan
  | conditional _ condition yes no => conditional span condition yes no
  | call _ called => call span called

/-- The reference, if an expression is nothing but one. -/
def reference? : Expr → Option (Reference Expr)
  | read _ reference => some reference
  | _ => none

end Expr

end GcodeTemplate
