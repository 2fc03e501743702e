import GcodeTemplate.Expr

/-!
# Pieces of a template

A template is a sequence of pieces: text that is copied, brackets that insert a
setting, expressions that insert their value, and statements.
-/

namespace GcodeTemplate

/-- A setting in brackets, maybe with the name of a setting that is its index. -/
structure Bracket where
  name : String
  nameSpan : Span
  index : Option (String × Span)
  span : Span

/-- What a variable is assigned or declared with. -/
inductive Initializer where
  /-- The elements of a vector. -/
  | list (span : Span) (items : List Expr)
  /-- A variable, which may be a whole vector. -/
  | reference (reference : Reference Expr)
  /-- A scalar. -/
  | expression (expr : Expr)
  /-- A number of equal elements. -/
  | fill (span : Span) (count value : Expr)

/-- The span that an initializer was read from. -/
def Initializer.span : Initializer → Span
  | list span _ => span
  | reference read => read.span
  | expression expr => expr.span
  | fill span _ _ => span

/-- A declaration of a variable. -/
structure Declaration where
  /-- Whether the variable outlives the evaluation. -/
  isGlobal : Bool
  name : String
  nameSpan : Span
  initializer : Initializer

/-- A branch of an if block, with a body that consists of `π`s. -/
structure Branch (π : Type) where
  condition : Expr
  body : List π

/-- A piece of a template. -/
inductive Piece where
  | text (text : String)
  | bracket (bracket : Bracket)
  | expression (expr : Expr)
  | assign (target : Reference Expr) (initializer : Initializer)
  | declare (declaration : Declaration)
  | choose (branches : List (Branch Piece)) (otherwise : Option (List Piece))

end GcodeTemplate
