import GcodeTemplate.Expr
import GcodeTemplate.Parser
import GcodeTemplate.Pattern.Slash

/-!
# The grammar of expressions

From the loosest to the tightest an expression is a conditional, a disjunction,
a conjunction, a chain of equalities and matches, a chain of relations, a sum,
a product, or an operand.  Operators of one level group from the left,
conditionals from the right.

An operand is read one level of nesting deeper than what it belongs to, so the
parsers of each level are built from those of the level below it.
-/

namespace GcodeTemplate

namespace Grammar

open GcodeTemplate.Parser GcodeTemplate.Text

/-- The parsers of expressions at one level of nesting. -/
structure Expressions where
  operand : Parser Expr
  conditional : Parser Expr

/-- The expression that an operator makes of two others. -/
def joined (operator : BinaryOperator) (left right : Expr) : Expr :=
  .binary (left.span.cover right.span) operator left right

/--
A round of a chain: if an operator comes next, read it and the operand behind
it.  The chain so far is kept with the number of units that it has spent.
-/
def chainLink
    (operand : Parser Expr)
    (operator : BinaryOperator)
    (left : Expr)
    (spent : Nat) :
    Parser (Step (Expr × Nat) Expr) := do
  let _ ← advance
  charge 1 left.span
  let right ← operand
  pure (.again (joined operator left right, spent + 1))

/-- The end of a chain: give back what it has spent. -/
def chainEnd (left : Expr) (spent : Nat) : Parser (Step (Expr × Nat) Expr) := do
  release spent
  pure (.done left)

/-- Operands with operators of one level between them. -/
def chain
    (operand : Parser Expr)
    (operator? : Token → Option BinaryOperator) :
    Parser Expr := do
  let first ← operand
  iterate (fun (left, spent) => do
    let (token, _) ← peek
    match operator? token with
    | some operator => chainLink operand operator left spent
    | none => chainEnd left spent) (first, 0)

/-- The operators of a product. -/
def productOperator? : Token → Option BinaryOperator
  | .symbol .star => some (.arithmetic .multiply)
  | .symbol .slash => some (.arithmetic .divide)
  | .symbol .percent => some (.arithmetic .remainder)
  | _ => none

/-- The operators of a sum. -/
def sumOperator? : Token → Option BinaryOperator
  | .symbol .plus => some (.arithmetic .add)
  | .symbol .minus => some (.arithmetic .subtract)
  | _ => none

/-- The operators of a chain of relations. -/
def relationOperator? : Token → Option BinaryOperator
  | .symbol .less => some (.compare .less)
  | .symbol .lessOrEqual => some (.compare .lessOrEqual)
  | .symbol .greater => some (.compare .greater)
  | .symbol .greaterOrEqual => some (.compare .greaterOrEqual)
  | _ => none

/-- The operators of a chain of equalities. -/
def equalityOperator? : Token → Option BinaryOperator
  | .symbol .equal => some (.compare .equal)
  | .symbol .notEqual => some (.compare .notEqual)
  | _ => none

/-- The signs of a match, with whether they ask for no match. -/
def matchOperator? : Token → Option Bool
  | .symbol .equalTilde => some false
  | .symbol .bangTilde => some true
  | _ => none

/-- The operators of a conjunction. -/
def conjunctionOperator? (token : Token) : Option BinaryOperator :=
  if token.isSymbol .and || token.isWord "and" then some (.logic .and) else none

/-- The operators of a disjunction. -/
def disjunctionOperator? (token : Token) : Option BinaryOperator :=
  if token.isSymbol .or || token.isWord "or" then some (.logic .or) else none

/-- A regular expression between slashes: its source and its span. -/
def regularExpression : Parser (String × Span) :=
  fun cursor =>
    let blanks := cursor.rest.takeWhile isAsciiBlank
    let start := cursor.position + blanks.length
    match cursor.rest.dropWhile isAsciiBlank with
    | '/' :: behind =>
        match Pattern.upToSlash behind with
        | some (written, rest) =>
            let stop := start + byteWidth written + 2
            .ok ((.ofList (Pattern.unescapeSlashes written), ⟨start, stop⟩),
              { cursor with rest := rest, position := stop, previousStop := stop })
        | none =>
            .error ⟨.expected .pattern, ⟨start, start + 1 + byteWidth behind⟩⟩
    | _ => .error ⟨.expected .pattern, .point start⟩

/-- Products: operands with `*`, `/` and `%` between them. -/
def product (operand : Parser Expr) : Parser Expr :=
  chain operand productOperator?

/-- Sums: products with `+` and `-` between them. -/
def sum (operand : Parser Expr) : Parser Expr :=
  chain (product operand) sumOperator?

/-- Relations: sums with `<`, `<=`, `>` and `>=` between them. -/
def relation (operand : Parser Expr) : Parser Expr :=
  chain (sum operand) relationOperator?

/--
Equalities: relations with `==` and `!=` between them, and matches with regular
expressions behind them.  A match spends no units.
-/
def equality (operand : Parser Expr) : Parser Expr := do
  let first ← relation operand
  iterate (fun (left, spent) => do
    let (token, _) ← peek
    match equalityOperator? token, matchOperator? token with
    | some operator, _ => chainLink (relation operand) operator left spent
    | none, some negated => do
        let _ ← advance
        let (pattern, patternSpan) ← regularExpression
        let span := left.span.cover patternSpan
        pure (.again (.fullMatch span negated left pattern patternSpan, spent))
    | none, none => chainEnd left spent) (first, 0)

/-- Conjunctions: equalities with `&&` or `and` between them. -/
def conjunction (operand : Parser Expr) : Parser Expr :=
  chain (equality operand) conjunctionOperator?

/-- Disjunctions: conjunctions with `||` or `or` between them. -/
def disjunction (operand : Parser Expr) : Parser Expr :=
  chain (conjunction operand) disjunctionOperator?

/-- A disjunction, or a conditional whose branches are one level deeper. -/
def conditional (operand : Parser Expr) (inner : Expressions) : Parser Expr := do
  let condition ← disjunction operand
  if ← eat .question then
    let (yes, no) ← nested condition.span do
      let yes ← inner.conditional
      expect .colon .conditional
      let no ← inner.conditional
      pure (yes, no)
    let span ← spanFrom condition.span.start
    pure (.conditional span condition yes no)
  else
    pure condition

section Operands

variable (inner : Expressions)

/-- A variable, maybe with an index in brackets. -/
def reference : Parser (Reference Expr) := do
  let (token, nameSpan) ← peek
  match token with
  | .word name =>
      if Token.isReserved name then
        failExpecting .identifier nameSpan
      else
        let _ ← advance
        let index ←
          if ← eat .leftBracket then
            let index ← sum inner.operand
            expect .rightBracket .closingBracket
            pure (some index)
          else
            pure none
        let span ← spanFrom nameSpan.start
        pure ⟨name, nameSpan, index, span⟩
  | _ => failExpecting .reference nameSpan

/-- An operator in front of an operand; its token starts at `start`. -/
def unary (operator : UnaryOperator) (start : Nat) : Parser Expr := do
  let _ ← advance
  let operand ← inner.operand
  let span ← spanFrom start
  pure (.unary span operator operand)

/-- One argument in parentheses. -/
def oneArgument : Parser Expr := do
  expect .leftParenthesis .operand
  let argument ← inner.conditional
  expect .rightParenthesis .closingParenthesis
  pure argument

/-- Two arguments in parentheses. -/
def twoArguments : Parser (Expr × Expr) := do
  expect .leftParenthesis .operand
  let first ← inner.conditional
  expect .comma .operand
  let second ← inner.conditional
  expect .rightParenthesis .closingParenthesis
  pure (first, second)

/-- A reference in parentheses. -/
def referenceArgument : Parser (Reference Expr) := do
  expect .leftParenthesis .operand
  let argument ← reference inner
  expect .rightParenthesis .closingParenthesis
  pure argument

/-- The arguments of `digits`: a value, a width, and maybe a number of places. -/
def digitsArguments (zeros : Bool) : Parser Call := do
  expect .leftParenthesis .operand
  let value ← inner.conditional
  expect .comma .operand
  let width ← inner.conditional
  if ← eat .rightParenthesis then
    pure (.digits zeros value width none)
  else if ← eat .comma then
    let places ← inner.conditional
    expect .rightParenthesis .closingParenthesis
    pure (.digits zeros value width (some places))
  else
    let (_, span) ← peek
    failExpecting .optionalParameter span

/-- A candidate of `one_of`, and the comma behind it; `none` before a parenthesis. -/
def candidate : Parser (Option (Candidate Expr)) := do
  let (token, _) ← peek
  if token.isSymbol .rightParenthesis then
    pure none
  else
    let candidate ←
      if token.isSymbol .tilde then
        let _ ← advance
        let pattern ← inner.operand
        pure (Candidate.pattern pattern)
      else if token.isSymbol .slash then
        let (source, span) ← regularExpression
        pure (.regex source span)
      else
        let text ← inner.operand
        pure (.text text)
    let _ ← eat .comma
    pure (some candidate)

/-- The arguments of `one_of`: a string and the candidates for it. -/
def oneOfArguments : Parser Call := do
  expect .leftParenthesis .operand
  let subject ← inner.operand
  let candidates ←
    if ← eat .comma then
      many (candidate inner)
    else
      pure []
  expect .rightParenthesis .patternList
  pure (.oneOf subject candidates)

/-- A point of a table, and the comma behind it. -/
def knot : Parser (Option (Expr × Expr)) := do
  if ← eat .leftParenthesis then
    let abscissa ← inner.operand
    expect .comma .operand
    let ordinate ← inner.operand
    expect .rightParenthesis .closingParenthesis
    let _ ← eat .comma
    pure (some (abscissa, ordinate))
  else
    pure none

/-- The arguments of `interpolate_table`: a number and the points of the table. -/
def interpolateArguments : Parser Call := do
  expect .leftParenthesis .operand
  let abscissa ← inner.operand
  expect .comma .operand
  let table ← many (knot inner)
  expect .rightParenthesis .closingParenthesis
  pure (.interpolate abscissa table)

/-- The arguments of a function, if a word is the name of one. -/
def arguments? (name : String) : Option (Parser Call) :=
  match name with
  | "min" => some do
      let (left, right) ← twoArguments inner
      pure (.minimum left right)
  | "max" => some do
      let (left, right) ← twoArguments inner
      pure (.maximum left right)
  | "random" => some do
      let (low, high) ← twoArguments inner
      pure (.random low high)
  | "filament_change" => some (.changeFilament <$> oneArgument inner)
  | "int" => some (.round .towardZero <$> oneArgument inner)
  | "round" => some (.round .halfAway <$> oneArgument inner)
  | "floor" => some (.round .down <$> oneArgument inner)
  | "ceil" => some (.round .up <$> oneArgument inner)
  | "digits" => some (digitsArguments inner false)
  | "zdigits" => some (digitsArguments inner true)
  | "is_nil" => some (.isNil <$> referenceArgument inner)
  | "empty" => some (.isEmpty <$> referenceArgument inner)
  | "size" => some (.size <$> referenceArgument inner)
  | "one_of" => some (oneOfArguments inner)
  | "interpolate_table" => some (interpolateArguments inner)
  | _ => none

/-- An operand that starts with a reserved word. -/
def reservedOperand (name : String) (span : Span) : Parser Expr := do
  if name == "true" || name == "false" then
    let _ ← advance
    pure (.literal span (.bool (name == "true")))
  else if name == "not" then
    unary inner .not span.start
  else
    match arguments? inner name with
    | some arguments => do
        let _ ← advance
        let called ← arguments
        let callSpan ← spanFrom span.start
        pure (.call callSpan called)
    | none => failExpecting .operand span

/-- A conditional in parentheses; it gets the span of the parentheses. -/
def parenthesized (start : Nat) : Parser Expr := do
  let _ ← advance
  let inside ← inner.conditional
  expect .rightParenthesis .closingParenthesis
  let span ← spanFrom start
  pure (inside.withSpan span)

/-- A literal that consists of the next token. -/
def literal (span : Span) (value : Value) : Parser Expr := do
  let _ ← advance
  pure (.literal span value)

/-- What an operand consists of, without the cost of its nesting. -/
def primary : Parser Expr := do
  let (token, span) ← peek
  match token with
  | .symbol .minus => unary inner .negate span.start
  | .symbol .plus => unary inner .plus span.start
  | .symbol .bang => unary inner .not span.start
  | .symbol .leftParenthesis => parenthesized inner span.start
  | .int n => literal span (.int n)
  | .double x => literal span (.double x)
  | .string s => literal span (.string s)
  | .word name =>
      if Token.isReserved name then
        reservedOperand inner name span
      else do
        let read ← reference inner
        pure (.read read.span read)
  | _ => failExpecting .operand span

/-- An operand; what it consists of is one level deeper. -/
def operand : Parser Expr := do
  let (_, span) ← peek
  nested span (primary inner)

end Operands

/-- What is left when no level of nesting is. -/
def tooDeep : Parser Expr := do
  let (_, span) ← peek
  fail .nestedTooDeeply span

/-- The parsers of expressions with a number of levels of nesting left. -/
def expressions : (levels : Nat) → Expressions
  | 0 => ⟨tooDeep, tooDeep⟩
  | levels + 1 =>
      let inner := expressions levels
      ⟨operand inner, conditional (operand inner) inner⟩

end Grammar

/-- Read a source that consists of one expression. -/
def Expr.parse (source : String) : Except Fault Expr :=
  let parser : Parser Expr := do
    let expr ← (Grammar.expressions maximalNesting).conditional
    let (token, span) ← Parser.peek
    match token with
    | .endOfInput => pure expr
    | _ => Parser.failExpecting .endOfInput span
  (parser (.start source)).map (·.1)

end GcodeTemplate
