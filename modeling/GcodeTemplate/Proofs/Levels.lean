import GcodeTemplate.Expr.Grammar
import GcodeTemplate.Proofs.Parsing

/-!
# Levels of expressions

The grammar of expressions has eight levels, from conditionals to operands.  The
six in between are chains: operands of the next tighter level with operators in
between, and at one level also matches behind them.  All of them are one parser,
with the operators of the level as a parameter.
-/

namespace GcodeTemplate

namespace Grammar

open GcodeTemplate.Parser Text

/-- The levels of expressions, from the loosest to the tightest. -/
inductive Level where
  | conditional
  | disjunction
  | conjunction
  | equality
  | relation
  | sum
  | product
  | operand
deriving DecidableEq, Repr

namespace Level

/-- How tight a level is. -/
def rank : Level → Nat
  | conditional => 0
  | disjunction => 1
  | conjunction => 2
  | equality => 3
  | relation => 4
  | sum => 5
  | product => 6
  | operand => 7

/-- The next tighter level. -/
def tighter : Level → Level
  | conditional => disjunction
  | disjunction => conjunction
  | conjunction => equality
  | equality => relation
  | relation => sum
  | sum => product
  | product => operand
  | operand => operand

/-- Whether a level consists of chains. -/
def isChain : Level → Bool
  | conditional | operand => false
  | _ => true

/-- The operators of a level. -/
def operator? : Level → Token → Option BinaryOperator
  | disjunction => disjunctionOperator?
  | conjunction => conjunctionOperator?
  | equality => equalityOperator?
  | relation => relationOperator?
  | sum => sumOperator?
  | product => productOperator?
  | conditional | operand => fun _ => none

/-- The signs of matches at a level. -/
def match? : Level → Token → Option Bool
  | equality => matchOperator?
  | _ => fun _ => none

theorem tighter_eq (level : Level) : level.tighter.isChain ∨ level.tighter = operand := by
  cases level <;> first | exact .inl rfl | exact .inr rfl

theorem rank_tighter
    {level : Level}
    (loose : level ≠ .operand) :
    level.tighter.rank = level.rank + 1 := by
  cases level <;> first | rfl | exact absurd rfl loose

/-- What holds of the tightest level and goes on to each chain holds of all levels but one. -/
theorem tightening
    {motive : Level → Prop}
    (conditional : motive .conditional)
    (operand : motive .operand)
    (chain : ∀ level, level.isChain → motive level.tighter → motive level)
    (level : Level) :
    motive level := by
  have product : motive .product := chain .product rfl operand
  have sum : motive .sum := chain .sum rfl product
  have relation : motive .relation := chain .relation rfl sum
  have equality : motive .equality := chain .equality rfl relation
  have conjunction : motive .conjunction := chain .conjunction rfl equality
  have disjunction : motive .disjunction := chain .disjunction rfl conjunction
  cases level <;> assumption

end Level

/-- A match behind a chain; it spends no units. -/
def matchLink
    (negated : Bool)
    (left : Expr)
    (spent : Nat) :
    Parser (Step (Expr × Nat) Expr) := do
  let _ ← advance
  let (pattern, patternSpan) ← regularExpression
  pure (.again
    (.fullMatch (left.span.cover patternSpan) negated left pattern patternSpan, spent))

/-- A round of the loop of a chain. -/
def Level.step
    (level : Level)
    (operand : Parser Expr) :
    Expr × Nat → Parser (Step (Expr × Nat) Expr)
  | (left, spent) => do
      let (token, _) ← peek
      match level.operator? token, level.match? token with
      | some operator, _ => chainLink operand operator left spent
      | none, some negated => matchLink negated left spent
      | none, none => chainEnd left spent

theorem chainLink_eq_ok
    {operand : Parser Expr}
    {operator : BinaryOperator}
    {left : Expr}
    {spent : Nat}
    {cursor moved : Cursor}
    {answer : Step (Expr × Nat) Expr}
    (run : chainLink operand operator left spent cursor = .ok (answer, moved)) :
    ∃ token between right, advance cursor = .ok (token, between) ∧
      between.depth + 1 ≤ maximalDepth ∧
      operand { between with depth := between.depth + 1 } = .ok (right, moved) ∧
      answer = .again (joined operator left right, spent + 1) := by
  unfold chainLink at run
  rcases bind_eq_ok run with ⟨token, between, advanced, run⟩
  rcases bind_eq_ok run with ⟨_, deeper, charged, run⟩
  rcases bind_eq_ok run with ⟨right, stop, read, answered⟩
  rcases charge_eq_ok charged with ⟨enough, rfl⟩
  cases answered
  exact ⟨token, between, right, advanced, enough, read, rfl⟩

theorem regularExpression_of_slash
    {cursor : Cursor}
    {behind written rest : List Char}
    (start : cursor.rest.dropWhile isAsciiBlank = '/' :: behind)
    (found : Pattern.upToSlash behind = some (written, rest)) :
    let start := cursor.position + (cursor.rest.takeWhile isAsciiBlank).length
    let stop := start + byteWidth written + 2
    regularExpression cursor =
      .ok ((.ofList (Pattern.unescapeSlashes written), ⟨start, stop⟩),
        { cursor with rest := rest, position := stop, previousStop := stop }) := by
  simp only [regularExpression, start, found]

theorem regularExpression_eq_ok
    {cursor moved : Cursor}
    {pattern : String × Span}
    (run : regularExpression cursor = .ok (pattern, moved)) :
    ∃ behind written rest,
      cursor.rest.dropWhile isAsciiBlank = '/' :: behind ∧
      Pattern.upToSlash behind = some (written, rest) ∧
      let start := cursor.position + (cursor.rest.takeWhile isAsciiBlank).length
      let stop := start + byteWidth written + 2
      pattern = (.ofList (Pattern.unescapeSlashes written), ⟨start, stop⟩) ∧
        moved = { cursor with rest := rest, position := stop, previousStop := stop } := by
  unfold regularExpression at run
  generalize cursor.rest.dropWhile isAsciiBlank = text at run
  dsimp only at run
  split at run
  · rename_i behind
    split at run
    · rename_i written rest found
      cases run
      exact ⟨behind, written, rest, rfl, found, rfl, rfl⟩
    · nomatch run
  · nomatch run

theorem matchLink_eq_ok
    {negated : Bool}
    {left : Expr}
    {spent : Nat}
    {cursor moved : Cursor}
    {answer : Step (Expr × Nat) Expr}
    (run : matchLink negated left spent cursor = .ok (answer, moved)) :
    ∃ token between pattern, advance cursor = .ok (token, between) ∧
      regularExpression between = .ok (pattern, moved) ∧
      answer = .again
        (.fullMatch (left.span.cover pattern.2) negated left pattern.1 pattern.2, spent) := by
  unfold matchLink at run
  rcases bind_eq_ok run with ⟨token, between, advanced, run⟩
  rcases bind_eq_ok run with ⟨pattern, stop, read, answered⟩
  cases answered
  exact ⟨token, between, pattern, advanced, read, rfl⟩

section Step

variable
  {level : Level}
  {operand : Parser Expr}
  {left : Expr}
  {spent : Nat}
  {cursor : Cursor}
  {lexeme : Lexeme}
  {span : Span}

theorem Level.step_of_operator
    (found : lexemeAt cursor = .ok (lexeme, span))
    {operator : BinaryOperator}
    (isOperator : level.operator? lexeme.token = some operator) :
    level.step operand (left, spent) cursor =
      chainLink operand operator left spent cursor := by
  rw [Level.step, bind_of_ok (peek_of_lexeme found)]
  simp only [isOperator]

theorem Level.step_of_match
    (found : lexemeAt cursor = .ok (lexeme, span))
    {negated : Bool}
    (noOperator : level.operator? lexeme.token = none)
    (isMatch : level.match? lexeme.token = some negated) :
    level.step operand (left, spent) cursor = matchLink negated left spent cursor := by
  rw [Level.step, bind_of_ok (peek_of_lexeme found)]
  simp only [noOperator, isMatch]

theorem Level.step_of_end
    (found : lexemeAt cursor = .ok (lexeme, span))
    (noOperator : level.operator? lexeme.token = none)
    (noMatch : level.match? lexeme.token = none) :
    level.step operand (left, spent) cursor = chainEnd left spent cursor := by
  rw [Level.step, bind_of_ok (peek_of_lexeme found)]
  simp only [noOperator, noMatch]

end Step

/-- What a round of the loop of a chain can be. -/
theorem Level.step_eq_ok
    (level : Level)
    {operand : Parser Expr}
    {left : Expr}
    {spent : Nat}
    {cursor moved : Cursor}
    {answer : Step (Expr × Nat) Expr}
    (run : level.step operand (left, spent) cursor = .ok (answer, moved)) :
    ∃ lexeme span, lexemeAt cursor = .ok (lexeme, span) ∧
      ((∃ operator, level.operator? lexeme.token = some operator ∧
          chainLink operand operator left spent cursor = .ok (answer, moved)) ∨
        (∃ negated, level.match? lexeme.token = some negated ∧
          matchLink negated left spent cursor = .ok (answer, moved)) ∨
        (level.operator? lexeme.token = none ∧ level.match? lexeme.token = none ∧
          chainEnd left spent cursor = .ok (answer, moved))) := by
  rcases bind_eq_ok run with ⟨⟨token, span⟩, between, peeked, _⟩
  rcases peek_eq_ok peeked with ⟨_, lexeme, found, _⟩
  refine ⟨lexeme, span, found, ?_⟩
  cases isOperator : level.operator? lexeme.token with
  | some operator =>
      rw [step_of_operator found isOperator] at run
      exact .inl ⟨operator, rfl, run⟩
  | none =>
      cases isMatch : level.match? lexeme.token with
      | some negated =>
          rw [step_of_match found isOperator isMatch] at run
          exact .inr (.inl ⟨negated, rfl, run⟩)
      | none =>
          rw [step_of_end found isOperator isMatch] at run
          exact .inr (.inr ⟨rfl, rfl, run⟩)

/-- A chain of a level, given how to read what is tighter. -/
def Level.links (level : Level) (operand : Parser Expr) : Parser Expr := do
  let first ← operand
  iterate (level.step operand) (first, 0)

/-- The parser of a level. -/
def Level.parser (grammar : Expressions) : Level → Parser Expr
  | .conditional => grammar.conditional
  | .disjunction => Grammar.disjunction grammar.operand
  | .conjunction => Grammar.conjunction grammar.operand
  | .equality => Grammar.equality grammar.operand
  | .relation => Grammar.relation grammar.operand
  | .sum => Grammar.sum grammar.operand
  | .product => Grammar.product grammar.operand
  | .operand => grammar.operand

/-- What is read behind a disjunction: its branches, if it is a condition. -/
def branching (inner : Expressions) (condition : Expr) : Parser Expr := do
  if ← eat .question then
    let (yes, no) ← nested condition.span do
      let yes ← inner.conditional
      expect .colon .conditional
      let no ← inner.conditional
      pure (yes, no)
    let span ← spanFrom condition.span.start
    pure (.conditional span condition yes no)
  else
    pure condition

/-- A chain without matches is a chain of its level. -/
theorem chain_eq_links
    (level : Level)
    (matchless : level.match? = fun _ => none)
    (operand : Parser Expr) :
    chain operand level.operator? = level.links operand := by
  refine congrArg (operand >>= ·) (funext fun first => ?_)
  refine congrArg (fun step => iterate step (first, 0)) (funext fun ⟨left, spent⟩ => ?_)
  refine congrArg (peek >>= ·) (funext fun ⟨token, span⟩ => ?_)
  simp only [matchless]
  cases level.operator? token <;> rfl

/-- Every chain reads what is tighter, with its own operators in between. -/
theorem Level.parser_eq_links
    (grammar : Expressions)
    {level : Level}
    (isChain : level.isChain) :
    level.parser grammar = level.links (level.tighter.parser grammar) := by
  cases level with
  | conditional => nomatch isChain
  | operand => nomatch isChain
  | equality => rfl
  | disjunction => exact chain_eq_links .disjunction rfl _
  | conjunction => exact chain_eq_links .conjunction rfl _
  | relation => exact chain_eq_links .relation rfl _
  | sum => exact chain_eq_links .sum rfl _
  | product => exact chain_eq_links .product rfl _

@[simp]
theorem Level.operator?_endOfInput (level : Level) :
    level.operator? .endOfInput = none := by
  cases level <;> rfl

@[simp]
theorem Level.match?_endOfInput (level : Level) :
    level.match? .endOfInput = none := by
  cases level <;> rfl

/-- Whether a token goes on with what has been read at a level. -/
def Level.continues : Level → Token → Bool
  | .conditional, token => token.isSymbol .question
  | level, token => (level.operator? token).isSome || (level.match? token).isSome

/-- A token with which neither a level nor a tighter one goes on. -/
def Level.Stops (level : Level) (token : Token) : Prop :=
  ∀ tight : Level, level.rank ≤ tight.rank → tight.continues token = false

/-- The levels in a list. -/
def Level.all : List Level :=
  [.conditional, .disjunction, .conjunction, .equality, .relation, .sum, .product, .operand]

theorem Level.mem_all (level : Level) : level ∈ all := by
  cases level <;> decide

instance (level : Level) (token : Token) : Decidable (level.Stops token) :=
  decidable_of_iff
    (∀ tight ∈ Level.all, level.rank ≤ tight.rank → tight.continues token = false)
    ⟨fun each tight => each tight tight.mem_all, fun stops tight _ => stops tight⟩

theorem Level.Stops.mono
    {level tight : Level}
    {token : Token}
    (stops : level.Stops token)
    (tighter : level.rank ≤ tight.rank) :
    tight.Stops token :=
  fun _ tightest => stops _ (Nat.le_trans tighter tightest)

section Ends

variable
  {operand : Parser Expr}
  {cursor moved : Cursor}
  {expr : Expr}
  {lexeme : Lexeme}
  {span : Span}

theorem Level.step_of_not_continues
    {level : Level}
    (isChain : level.isChain)
    (left : Expr)
    (spent : Nat)
    (found : lexemeAt moved = .ok (lexeme, span))
    (ends : level.continues lexeme.token = false) :
    level.step operand (left, spent) moved = chainEnd left spent moved := by
  cases level with
  | conditional => nomatch isChain
  | operand => nomatch isChain
  | disjunction | conjunction | equality | relation | sum | product =>
      simp only [continues, Bool.or_eq_false_iff, Option.isSome_eq_false_iff,
        Option.isNone_iff_eq_none] at ends
      exact step_of_end found ends.1 ends.2

/-- A chain of one operand is that operand. -/
theorem Level.links_of_end
    {level : Level}
    (isChain : level.isChain)
    (read : operand cursor = .ok (expr, moved))
    (found : lexemeAt moved = .ok (lexeme, span))
    (ends : level.continues lexeme.token = false) :
    level.links operand cursor = .ok (expr, moved) := by
  rw [links, bind_of_ok read]
  apply iterate_of_done
  rw [step_of_not_continues isChain expr 0 found ends]
  rfl

/-- What is read at a tight level is also read at a looser one if nothing goes on with it. -/
theorem Level.parser_of_tighter
    {grammar : Expressions}
    {level : Level}
    (isChain : level.isChain)
    (read : level.tighter.parser grammar cursor = .ok (expr, moved))
    (found : lexemeAt moved = .ok (lexeme, span))
    (ends : level.continues lexeme.token = false) :
    level.parser grammar cursor = .ok (expr, moved) := by
  rw [level.parser_eq_links grammar isChain]
  exact links_of_end isChain read found ends

theorem Level.parser_of_operand
    {grammar : Expressions}
    (level : Level)
    (read : grammar.operand cursor = .ok (expr, moved))
    (found : lexemeAt moved = .ok (lexeme, span))
    (stops : level.Stops lexeme.token)
    (loose : level ≠ .conditional) :
    level.parser grammar cursor = .ok (expr, moved) := by
  induction level using Level.tightening with
  | conditional => exact absurd rfl loose
  | operand => exact read
  | chain level isChain ih =>
      have tight : level.rank ≤ level.tighter.rank := by
        cases level <;> decide
      have proper : level.tighter ≠ .conditional := by
        cases level <;> decide
      exact parser_of_tighter isChain (ih (stops.mono tight) proper) found
        (stops level (Nat.le_refl _))

theorem conditional_of_end
    {inner : Expressions}
    (read : disjunction operand cursor = .ok (expr, moved))
    (found : lexemeAt moved = .ok (lexeme, span))
    (ends : lexeme.token.isSymbol .question = false) :
    conditional operand inner cursor = .ok (expr, moved) := by
  rw [conditional, bind_of_ok read, bind_of_ok (eat_of_not found ends)]
  rfl

end Ends

end Grammar

section Sources

open Grammar GcodeTemplate.Parser

variable {source : String} {expr : Expr} {stop : Cursor} {lexeme : Lexeme} {span : Span}

/-- A source is an expression if a conditional is all there is. -/
theorem Expr.parse_of_conditional
    (read : (expressions maximalNesting).conditional (.start source) = .ok (expr, stop))
    (found : lexemeAt stop = .ok (lexeme, span))
    (ends : lexeme.token = .endOfInput) :
    Expr.parse source = .ok expr := by
  rw [Expr.parse, bind_of_ok read, bind_of_ok (peek_of_lexeme found)]
  simp only [ends]
  rfl

theorem Expr.parse_of_error
    {fault : Fault}
    (read : (expressions maximalNesting).conditional (.start source) = .error fault) :
    Expr.parse source = .error fault := by
  rw [Expr.parse, bind_of_error read]
  rfl

theorem Expr.parse_eq_ok (parsed : Expr.parse source = .ok expr) :
    ∃ stop lexeme span,
      (expressions maximalNesting).conditional (.start source) = .ok (expr, stop) ∧
        lexemeAt stop = .ok (lexeme, span) ∧ lexeme.token = .endOfInput := by
  cases outcome : (expressions maximalNesting).conditional (.start source) with
  | error fault =>
      rw [Expr.parse_of_error outcome] at parsed
      cases parsed
  | ok answer =>
      rcases answer with ⟨read, stop⟩
      rw [Expr.parse, bind_of_ok outcome] at parsed
      cases next : lexemeAt stop with
      | error fault =>
          rw [bind_of_error (by rw [peek, next])] at parsed
          cases parsed
      | ok found =>
          rcases found with ⟨lexeme, span⟩
          rw [bind_of_ok (peek_of_lexeme next)] at parsed
          cases ends : lexeme.token with
          | endOfInput =>
              simp only [ends] at parsed
              cases parsed
              exact ⟨stop, lexeme, span, rfl, next, ends⟩
          | _ =>
              simp only [ends] at parsed
              cases parsed

end Sources

end GcodeTemplate
