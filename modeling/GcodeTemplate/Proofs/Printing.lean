import GcodeTemplate.Proofs.Levels
import GcodeTemplate.Proofs.Spans

/-!
# Writing expressions

The text of an expression, with parentheses only around what is looser than the level
that it is written at: a conditional is looser than a disjunction, and so on down to the
operators in front of an operand, which are tightest.  The operands of an operator are
written at its own level on the left and one level tighter on the right, and those of a
conditional the other way round.  Beside the text stand the units of nesting that reading
it takes.
-/

namespace GcodeTemplate

open Grammar Text

/-- How operators are written. -/
structure Style where
  /-- What stands around an operator. -/
  gap : List Char
  /-- Whether logical operators are words. -/
  words : Bool
  /-- Whether an inequality is written with two angles. -/
  angles : Bool
  blank : ∀ c ∈ gap, isAsciiBlank c = true
  apart : words = true → gap ≠ []

/-- The level that the operands of an operator are joined at. -/
def BinaryOperator.level : BinaryOperator → Level
  | .logic .or => .disjunction
  | .logic .and => .conjunction
  | .compare .equal | .compare .notEqual => .equality
  | .compare _ => .relation
  | .arithmetic .add | .arithmetic .subtract => .sum
  | .arithmetic _ => .product

/-- The level of an expression that is written without parentheses. -/
def Expr.level : Expr → Level
  | .conditional .. => .conditional
  | .binary _ operator _ _ => operator.level
  | .fullMatch .. => .equality
  | _ => .operand

/-- Whether a text can be the name of a variable. -/
def Token.isName (name : String) : Bool :=
  match name.toList with
  | [] => false
  | c :: rest => startsWord c && rest.all continuesWord && ! isReserved name

theorem Token.not_isReserved_of_isName
    {name : String}
    (isName : Token.isName name = true) :
    Token.isReserved name = false := by
  unfold Token.isName at isName
  split at isName
  · nomatch isName
  · simp only [Bool.and_eq_true, Bool.not_eq_true'] at isName
    exact isName.2

/-- The trees of literals, variables, operators, conditionals, and calls with plain arguments. -/
inductive Expr.Plain : Expr → Prop
  | int {span : Span} {n : Int64} : 0 ≤ n.toInt → Plain (.literal span (.int n))
  | bool {span : Span} (b : Bool) : Plain (.literal span (.bool b))
  | string {span : Span} (s : String) : Plain (.literal span (.string s))
  | named {span nameSpan whole : Span} {name : String} :
      Token.isName name = true → Plain (.read span ⟨name, nameSpan, none, whole⟩)
  | element {span nameSpan whole : Span} {name : String} {index : Expr} :
      Token.isName name = true → Plain index →
        Plain (.read span ⟨name, nameSpan, some index, whole⟩)
  | unary {span : Span} (operator : UnaryOperator) {operand : Expr} :
      Plain operand → Plain (.unary span operator operand)
  | binary {span : Span} (operator : BinaryOperator) {left right : Expr} :
      Plain left → Plain right → Plain (.binary span operator left right)
  | conditional {span : Span} {condition yes no : Expr} :
      Plain condition → Plain yes → Plain no → Plain (.conditional span condition yes no)
  | minimum {span : Span} {left right : Expr} :
      Plain left → Plain right → Plain (.call span (.minimum left right))
  | maximum {span : Span} {left right : Expr} :
      Plain left → Plain right → Plain (.call span (.maximum left right))
  | random {span : Span} {low high : Expr} :
      Plain low → Plain high → Plain (.call span (.random low high))
  | changeFilament {span : Span} {filament : Expr} :
      Plain filament → Plain (.call span (.changeFilament filament))
  | round {span : Span} (rounding : Number.Rounding) {argument : Expr} :
      Plain argument → Plain (.call span (.round rounding argument))

/-- An expression without its spans. -/
def Expr.shape (expr : Expr) : Expr :=
  expr.mapSpans fun _ => {}

/-- A call without the spans of its arguments. -/
def Call.shape (call : Call) : Call :=
  call.mapSpans fun _ => {}

section Shape

variable (span : Span)

@[simp]
theorem Expr.shape_unary (operator : UnaryOperator) (operand : Expr) :
    (unary span operator operand).shape = unary {} operator operand.shape :=
  rfl

@[simp]
theorem Expr.shape_binary (operator : BinaryOperator) (left right : Expr) :
    (binary span operator left right).shape = binary {} operator left.shape right.shape :=
  rfl

@[simp]
theorem Expr.shape_conditional (condition yes no : Expr) :
    (conditional span condition yes no).shape =
      conditional {} condition.shape yes.shape no.shape :=
  rfl

@[simp]
theorem Expr.shape_call (called : Call) : (call span called).shape = call {} called.shape :=
  rfl

@[simp]
theorem Expr.shape_withSpan (expr : Expr) : (expr.withSpan span).shape = expr.shape := by
  cases expr <;> rfl

/-- The same name with the same index is the same reference, spans aside. -/
theorem Expr.shape_read
    {reference other : Reference Expr}
    (name : reference.name = other.name)
    (index : reference.index.map Expr.shape = other.index.map Expr.shape)
    (place : Span) :
    (Expr.read span reference).shape = (Expr.read place other).shape := by
  have parts :
      reference.index.map (Expr.mapSpans fun _ => {}) =
        other.index.map (Expr.mapSpans fun _ => {}) :=
    index
  simp only [Expr.shape, Expr.mapSpans, Reference.mapSpans_eq, name, parts]

end Shape

section Text

variable (style : Style)

/-- The token of an operator between two operands. -/
def BinaryOperator.token : BinaryOperator → Token
  | .logic .or => if style.words then .word "or" else .symbol .or
  | .logic .and => if style.words then .word "and" else .symbol .and
  | .compare .equal => .symbol .equal
  | .compare .notEqual => .symbol .notEqual
  | .compare .less => .symbol .less
  | .compare .greater => .symbol .greater
  | .compare .lessOrEqual => .symbol .lessOrEqual
  | .compare .greaterOrEqual => .symbol .greaterOrEqual
  | .arithmetic .add => .symbol .plus
  | .arithmetic .subtract => .symbol .minus
  | .arithmetic .multiply => .symbol .star
  | .arithmetic .divide => .symbol .slash
  | .arithmetic .remainder => .symbol .percent

/-- The characters of an operator between two operands. -/
def BinaryOperator.sign : BinaryOperator → List Char
  | .logic .or => if style.words then ['o', 'r'] else ['|', '|']
  | .logic .and => if style.words then ['a', 'n', 'd'] else ['&', '&']
  | .compare .equal => ['=', '=']
  | .compare .notEqual => if style.angles then ['<', '>'] else ['!', '=']
  | .compare .less => ['<']
  | .compare .greater => ['>']
  | .compare .lessOrEqual => ['<', '=']
  | .compare .greaterOrEqual => ['>', '=']
  | .arithmetic .add => ['+']
  | .arithmetic .subtract => ['-']
  | .arithmetic .multiply => ['*']
  | .arithmetic .divide => ['/']
  | .arithmetic .remainder => ['%']

/-- The token of an operator in front of an operand. -/
def UnaryOperator.token : UnaryOperator → Token
  | .negate => .symbol .minus
  | .plus => .symbol .plus
  | .not => if style.words then .word "not" else .symbol .bang

/-- The characters of an operator in front of an operand, and what stands in between. -/
def UnaryOperator.sign : UnaryOperator → List Char
  | .negate => ['-']
  | .plus => ['+']
  | .not => if style.words then ['n', 'o', 't'] ++ style.gap else ['!']

/-- A character of a string as it is written in quotes. -/
def Expr.quoted : Char → List Char
  | '\n' => ['\\', 'n']
  | '\r' => ['\\', 'r']
  | '"' => ['\\', '"']
  | '\\' => ['\\', '\\']
  | c => [c]

/-- The text of a literal. -/
def Expr.literalText : Value → List Char
  | .int n => Number.wholeText n.toInt
  | .bool b => if b then ['t', 'r', 'u', 'e'] else ['f', 'a', 'l', 's', 'e']
  | .string s => '"' :: s.toList.flatMap quoted ++ ['"']
  | _ => []

/-- The name of the function that rounds in a direction. -/
def roundingName : Number.Rounding → List Char
  | .towardZero => ['i', 'n', 't']
  | .halfAway => ['r', 'o', 'u', 'n', 'd']
  | .down => ['f', 'l', 'o', 'o', 'r']
  | .up => ['c', 'e', 'i', 'l']

/-- An expression at a level, given its text, with parentheses if it is looser than that. -/
def Expr.enclosed (level : Level) (expr : Expr) (text : List Char) : List Char :=
  if expr.level.rank < level.rank then '(' :: text ++ [')'] else text

mutual

/-- The text of an expression without parentheses around it. -/
def Expr.text : Expr → List Char
  | .literal _ value => Expr.literalText value
  | .read _ reference => reference.text
  | .unary _ operator operand => operator.sign style ++ operand.enclosed .operand operand.text
  | .binary _ operator left right =>
      left.enclosed operator.level left.text ++ style.gap ++ operator.sign style ++ style.gap ++
        right.enclosed operator.level.tighter right.text
  | .conditional _ condition yes no =>
      condition.enclosed .disjunction condition.text ++ style.gap ++ '?' :: style.gap ++
        yes.text ++ style.gap ++ ':' :: style.gap ++ no.text
  | .call _ call => call.text
  | .fullMatch .. => []

def Reference.text (reference : Reference Expr) : List Char :=
  match reference with
  | ⟨name, _, none, _⟩ => name.toList
  | ⟨name, _, some index, _⟩ =>
      name.toList ++ '[' :: index.enclosed .sum index.text ++ [']']

def Call.text : Call → List Char
  | .minimum left right =>
      ['m', 'i', 'n', '('] ++ left.text ++ ',' :: style.gap ++ right.text ++ [')']
  | .maximum left right =>
      ['m', 'a', 'x', '('] ++ left.text ++ ',' :: style.gap ++ right.text ++ [')']
  | .random low high =>
      ['r', 'a', 'n', 'd', 'o', 'm', '('] ++ low.text ++ ',' :: style.gap ++ high.text ++ [')']
  | .changeFilament filament =>
      ['f', 'i', 'l', 'a', 'm', 'e', 'n', 't', '_', 'c', 'h', 'a', 'n', 'g', 'e', '('] ++
        filament.text ++ [')']
  | .round rounding argument => roundingName rounding ++ '(' :: argument.text ++ [')']
  | _ => []

end

/-- The text of an expression at a level. -/
def Expr.textAt (level : Level) (expr : Expr) : List Char :=
  expr.enclosed level (expr.text style)

end Text

/-- The operators of a level that an expression is a chain of. -/
def Expr.links (level : Level) : Expr → Nat
  | .binary _ operator left _ =>
      if operator.level = level then left.links level + 1 else 0
  | _ => 0

/-- The units that an expression takes at a level, given those that it takes without parentheses. -/
def Expr.enclosedUnits (level : Level) (expr : Expr) (units : Nat) : Nat :=
  if expr.level.rank < level.rank then nestingCost + units else units

mutual

/--
The units of nesting that are spent at a time where an expression is read without
parentheses around it.
-/
def Expr.units : Expr → Nat
  | .literal .. => nestingCost
  | .read _ reference => nestingCost + reference.units
  | .unary _ _ operand => nestingCost + operand.enclosedUnits .operand operand.units
  | .binary _ operator left right =>
      max (left.enclosedUnits operator.level left.units)
        (left.links operator.level + 1 +
          right.enclosedUnits operator.level.tighter right.units)
  | .conditional _ condition yes no =>
      max (condition.enclosedUnits .disjunction condition.units)
        (nestingCost + max yes.units no.units)
  | .call _ call => nestingCost + call.units
  | .fullMatch .. => 0

def Reference.units (reference : Reference Expr) : Nat :=
  match reference with
  | ⟨_, _, none, _⟩ => 0
  | ⟨_, _, some index, _⟩ => index.enclosedUnits .sum index.units

def Call.units : Call → Nat
  | .minimum left right => max left.units right.units
  | .maximum left right => max left.units right.units
  | .random low high => max low.units high.units
  | .changeFilament filament => filament.units
  | .round _ argument => argument.units
  | _ => 0

end

/-- The units that an expression takes at a level. -/
def Expr.unitsAt (level : Level) (expr : Expr) : Nat :=
  expr.enclosedUnits level expr.units

end GcodeTemplate
