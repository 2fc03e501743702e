import GcodeTemplate.Proofs.Carrying

/-!
# Reading an expression at another place

The grammar of expressions, production by production, carried to another place.
At the other place there may be more levels of nesting.
-/

namespace GcodeTemplate

namespace Grammar

open GcodeTemplate.Parser Text

variable {place : Relocation}

theorem joined_relocated (operator : BinaryOperator) (left right : Expr) :
    joined operator (place.expr left) (place.expr right) =
      place.expr (joined operator left right) := by
  simp only [joined, Expr.mapSpans, Expr.span_mapSpans, Span.shift_cover]

@[simp]
theorem Level.operator?_rightBrace (level : Level) :
    level.operator? (.symbol .rightBrace) = none := by
  cases level <;> rfl

@[simp]
theorem Level.match?_rightBrace (level : Level) :
    level.match? (.symbol .rightBrace) = none := by
  cases level <;> rfl

theorem carried_regularExpression :
    Carried place (Prod.map id place.span) regularExpression regularExpression := by
  intro cursor pattern moved run
  have suffix := (keeps_regularExpression run).rest
  rcases regularExpression_eq_ok run with ⟨behind, written, rest, start, found, rfl, rfl⟩
  refine ⟨suffix, fun seam further carries => ?_⟩
  rcases (seam.mono suffix).run_append isAsciiBlank rfl rfl with ⟨taken, dropped⟩
  rw [start, List.cons_append, ← carries.rest] at dropped
  rw [← carries.rest] at taken
  let start := further.position + (further.rest.takeWhile isAsciiBlank).length
  let stop := start + byteWidth written + 2
  refine ⟨⟨rest ++ place.more, stop, stop, further.depth⟩, ?_, rfl, ?_, ?_, carries.depth⟩
  · rw [regularExpression_of_slash dropped (Pattern.upToSlash_append found place.more)]
    simp only [Prod.map_apply, id_eq, Span.shift, Except.ok.injEq, Prod.mk.injEq,
      Span.mk.injEq, true_and, and_true, stop, start, taken, carries.position]
    omega
  · simp only [stop, start, taken, carries.position]
    omega
  · simp only [stop, start, taken, carries.position]
    omega

section Levels

variable {operand further : Parser Expr}

/-- A link of a chain is carried from its operator, which is no end of the input. -/
theorem carriedAt_chainLink
    {cursor : Cursor}
    {lexeme : Lexeme}
    {span : Span}
    (carried : Carried place place.expr operand further)
    (found : lexemeAt cursor = .ok (lexeme, span))
    (proper : lexeme.token ≠ .endOfInput)
    (operator : BinaryOperator)
    (left : Expr)
    (spent : Nat) :
    CarriedAt place (Step.map (Prod.map place.expr id) place.expr)
      (chainLink operand operator left spent)
      (chainLink further operator (place.expr left) spent) cursor := by
  refine (carriedAt_advance place found fun _ => proper).andThen fun _ => ?_
  refine (carried_charge _ _ _).bind fun _ => carried.bind fun right => ?_
  rw [joined_relocated]
  exact carried_pure (Step.again (joined operator left right, spent + 1))

theorem carriedAt_matchLink
    {cursor : Cursor}
    {lexeme : Lexeme}
    {span : Span}
    (found : lexemeAt cursor = .ok (lexeme, span))
    (proper : lexeme.token ≠ .endOfInput)
    (negated : Bool)
    (left : Expr)
    (spent : Nat) :
    CarriedAt place (Step.map (Prod.map place.expr id) place.expr)
      (matchLink negated left spent) (matchLink negated (place.expr left) spent) cursor := by
  refine (carriedAt_advance place found fun _ => proper).andThen fun _ => ?_
  refine carried_regularExpression.bind fun ⟨pattern, span⟩ => ?_
  simp only [Prod.map_apply, id_eq, Expr.span_mapSpans, ← Span.shift_cover]
  exact carried_pure
    (Step.again (Expr.fullMatch (left.span.cover span) negated left pattern span, spent))

theorem carried_chainEnd (left : Expr) (spent : Nat) :
    Carried place (Step.map (Prod.map place.expr id) place.expr)
      (chainEnd left spent) (chainEnd (place.expr left) spent) :=
  (carried_release _).bind fun _ => carried_pure (Step.done left)

theorem Level.carried_step
    (level : Level)
    (carried : Carried place place.expr operand further)
    (state : Expr × Nat) :
    Carried place (Step.map (Prod.map place.expr id) place.expr)
      (level.step operand state) (level.step further (Prod.map place.expr id state)) := by
  rcases state with ⟨left, spent⟩
  intro cursor
  refine CarriedAt.peek (fun lexeme span found => ?_) fun _ span there => ?_
  · dsimp only
    cases isOperator : level.operator? lexeme.token with
    | some operator =>
        refine carriedAt_chainLink carried found (fun isEnd => ?_) operator left spent
        simp [isEnd] at isOperator
    | none =>
        cases isMatch : level.match? lexeme.token with
        | some negated =>
            refine carriedAt_matchLink found (fun isEnd => ?_) negated left spent
            simp [isEnd] at isMatch
        | none => exact carried_chainEnd left spent cursor
  · simp only [operator?_endOfInput, match?_endOfInput, operator?_rightBrace,
      match?_rightBrace]
    exact carried_chainEnd left spent cursor

theorem Level.carried_links
    (level : Level)
    (carried : Carried place place.expr operand further) :
    Carried place place.expr (level.links operand) (level.links further) :=
  carried.bind fun first => Carried.iterate (level.carried_step carried) (first, 0)

end Levels

/-- Expressions at one level of nesting, and those at the other place. -/
structure Expressions.Carry (place : Relocation) (inner further : Expressions) : Prop where
  operand : Carried place place.expr inner.operand further.operand
  conditional : Carried place place.expr inner.conditional further.conditional

namespace Expressions.Carry

variable {inner further : Expressions} (carry : inner.Carry place further)

include carry

theorem parser (level : Level) :
    Carried place place.expr (level.parser inner) (level.parser further) := by
  induction level using Level.tightening with
  | conditional => exact carry.conditional
  | operand => exact carry.operand
  | chain level isChain tighter =>
      rw [level.parser_eq_links inner isChain, level.parser_eq_links further isChain]
      exact level.carried_links tighter

theorem sum : Carried place place.expr (sum inner.operand) (sum further.operand) :=
  carry.parser .sum

theorem reference : Carried place place.reference (reference inner) (reference further) := by
  intro cursor
  refine CarriedAt.peek (fun lexeme span found => ?_) fun _ span there =>
    carried_failExpecting _ _ _ cursor
  have advanced := carriedAt_advance place found
  dsimp only
  generalize lexeme.token = token at advanced ⊢
  split
  · rename_i name
    split
    · exact carried_failExpecting _ _ _ cursor
    · refine (advanced fun _ => nofun).andThen fun _ => ?_
      have finished (index : Option Expr) :
          Carried place place.reference
            (do
              let span' ← spanFrom span.start
              pure (⟨name, span, index, span'⟩ : Reference Expr))
            (do
              let span' ← spanFrom (place.span span).start
              pure (⟨name, place.span span, index.map place.expr, span'⟩ : Reference Expr)) := by
        refine (carried_spanFrom _).bind fun whole => carried_pure_of_eq ?_
        exact Reference.mapSpans_eq place.span ⟨name, span, index, whole⟩
      refine (carried_eat _ (by simp)).bind fun indexed => ?_
      dsimp only [id]
      split
      · refine carry.sum.bind fun index => (carried_expect _ _).bind fun _ => ?_
        exact finished (some index)
      · exact finished none
  · exact carried_failExpecting _ _ _ cursor

omit carry in
/-- An operator in front of an operand, from the token of the operator on. -/
theorem carriedAt_unary
    {cursor : Cursor}
    (carry : inner.Carry place further)
    (advanced : CarriedAt place (Prod.map id place.span) advance advance cursor)
    (operator : UnaryOperator)
    (start : Nat) :
    CarriedAt place place.expr (unary inner operator start)
      (unary further operator (start + place.offset)) cursor := by
  refine advanced.andThen fun _ => carry.operand.bind fun operand => ?_
  refine (carried_spanFrom _).bind fun span => ?_
  exact carried_pure (Expr.unary span operator operand)

theorem oneArgument : Carried place place.expr (oneArgument inner) (oneArgument further) :=
  (carried_expect _ _).bind fun _ => carry.conditional.bind fun argument =>
    (carried_expect _ _).bind fun _ => carried_pure argument

theorem twoArguments :
    Carried place (Prod.map place.expr place.expr) (twoArguments inner)
      (twoArguments further) :=
  (carried_expect _ _).bind fun _ => carry.conditional.bind fun first =>
    (carried_expect _ _).bind fun _ => carry.conditional.bind fun second =>
      (carried_expect _ _).bind fun _ => carried_pure (first, second)

theorem referenceArgument :
    Carried place place.reference (referenceArgument inner) (referenceArgument further) :=
  (carried_expect _ _).bind fun _ => carry.reference.bind fun argument =>
    (carried_expect _ _).bind fun _ => carried_pure argument

theorem digitsArguments (zeros : Bool) :
    Carried place place.call (digitsArguments inner zeros) (digitsArguments further zeros) := by
  refine (carried_expect _ _).bind fun _ => carry.conditional.bind fun value => ?_
  refine (carried_expect _ _).bind fun _ => carry.conditional.bind fun width => ?_
  refine (carried_eat _ (by simp)).bind fun closed => ?_
  dsimp only [id]
  split
  · exact carried_pure (Call.digits zeros value width none)
  · refine (carried_eat _ (by simp)).bind fun more => ?_
    dsimp only [id]
    split
    · exact carry.conditional.bind fun places => (carried_expect _ _).bind fun _ =>
        carried_pure (Call.digits zeros value width (some places))
    · intro cursor
      refine CarriedAt.peek (fun lexeme span found => ?_) fun _ span there => ?_
      · exact carried_failExpecting _ _ _ cursor
      · exact carried_failExpecting _ _ _ cursor

theorem candidate :
    Carried place (Option.map (Candidate.mapSpans place.span)) (candidate inner)
      (candidate further) := by
  have finished (candidate : Candidate Expr) :
      Carried place (Option.map (Candidate.mapSpans place.span))
        (do
          let _ ← eat .comma
          pure (some candidate))
        (do
          let _ ← eat .comma
          pure (some (candidate.mapSpans place.span))) :=
    (carried_eat _ (by simp)).bind fun _ => carried_pure (some candidate)
  have text :
      Carried place (Option.map (Candidate.mapSpans place.span))
        (do
          let text ← inner.operand
          let _ ← eat .comma
          pure (some (Candidate.text text)))
        (do
          let text ← further.operand
          let _ ← eat .comma
          pure (some (Candidate.text text))) :=
    carry.operand.bind fun expr => finished (.text expr)
  intro cursor
  refine CarriedAt.peek (fun lexeme span found => ?_) fun _ span there => text cursor
  have advanced := carriedAt_advance place found
  dsimp only
  generalize lexeme.token = token at advanced ⊢
  split
  · exact carried_pure none cursor
  · split
    · rename_i isTilde
      refine (advanced fun _ isEnd => ?_).andThen fun _ => ?_
      · simp [isEnd, Token.isSymbol] at isTilde
      · exact carry.operand.bind fun pattern => finished (.pattern pattern)
    · split
      · exact carried_regularExpression.bind (fun pattern =>
          finished (.regex pattern.1 pattern.2)) cursor
      · exact text cursor

theorem oneOfArguments :
    Carried place place.call (oneOfArguments inner) (oneOfArguments further) := by
  refine (carried_expect _ _).bind fun _ => carry.operand.bind fun subject => ?_
  refine (carried_eat _ (by simp)).bind fun more => ?_
  have finished (candidates : List (Candidate Expr)) :
      Carried place place.call
        (do
          expect .rightParenthesis .patternList
          pure (Call.oneOf subject candidates))
        (do
          expect .rightParenthesis .patternList
          pure (Call.oneOf (place.expr subject)
            (candidates.map (Candidate.mapSpans place.span)))) := by
    refine (carried_expect _ _).bind fun _ => carried_pure_of_eq ?_
    rw [← Candidate.mapAllSpans_eq_map]
    rfl
  dsimp only [id]
  split
  · exact carry.candidate.many.bind finished
  · exact finished []

theorem knot :
    Carried place (Option.map (Prod.map place.expr place.expr)) (knot inner)
      (knot further) := by
  refine (carried_eat _ (by simp)).bind fun opened => ?_
  dsimp only [id]
  split
  · refine carry.operand.bind fun abscissa => (carried_expect _ _).bind fun _ => ?_
    refine carry.operand.bind fun ordinate => (carried_expect _ _).bind fun _ => ?_
    exact (carried_eat _ (by simp)).bind fun _ => carried_pure (some (abscissa, ordinate))
  · exact carried_pure none

theorem interpolateArguments :
    Carried place place.call (interpolateArguments inner) (interpolateArguments further) := by
  refine (carried_expect _ _).bind fun _ => carry.operand.bind fun abscissa => ?_
  refine (carried_expect _ _).bind fun _ => carry.knot.many.bind fun table => ?_
  refine (carried_expect _ _).bind fun _ => carried_pure_of_eq ?_
  rw [← Table.mapSpans_eq_map]
  rfl

/-- A function has the same kinds of arguments everywhere. -/
theorem arguments?
    {name : String}
    {arguments : Parser Call}
    (found : arguments? inner name = some arguments) :
    ∃ there, Grammar.arguments? further name = some there ∧
      Carried place place.call arguments there := by
  unfold Grammar.arguments? at found ⊢
  split at found <;> cases found
  case h_1 =>
    exact ⟨_, rfl, carry.twoArguments.bind fun ⟨left, right⟩ =>
      carried_pure (Call.minimum left right)⟩
  case h_2 =>
    exact ⟨_, rfl, carry.twoArguments.bind fun ⟨left, right⟩ =>
      carried_pure (Call.maximum left right)⟩
  case h_3 =>
    exact ⟨_, rfl, carry.twoArguments.bind fun ⟨low, high⟩ =>
      carried_pure (Call.random low high)⟩
  case h_4 | h_5 | h_6 | h_7 | h_8 =>
    exact ⟨_, rfl, carry.oneArgument.map fun _ => rfl⟩
  case h_9 | h_10 => exact ⟨_, rfl, carry.digitsArguments _⟩
  case h_11 | h_12 | h_13 => exact ⟨_, rfl, carry.referenceArgument.map fun _ => rfl⟩
  case h_14 => exact ⟨_, rfl, carry.oneOfArguments⟩
  case h_15 => exact ⟨_, rfl, carry.interpolateArguments⟩

theorem carriedAt_reservedOperand
    {cursor : Cursor}
    (advanced : CarriedAt place (Prod.map id place.span) advance advance cursor)
    (name : String)
    (span : Span) :
    CarriedAt place place.expr (reservedOperand inner name span)
      (reservedOperand further name (place.span span)) cursor := by
  unfold Grammar.reservedOperand
  split
  · exact advanced.andThen fun _ => carried_pure (Expr.literal span (.bool (name == "true")))
  · split
    · exact carriedAt_unary carry advanced .not span.start
    · split
      · rename_i arguments found
        rcases carry.arguments? found with ⟨there, foundThere, carried⟩
        rw [foundThere]
        refine advanced.andThen fun _ => carried.bind fun called => ?_
        exact (carried_spanFrom _).bind fun callSpan =>
          carried_pure (Expr.call callSpan called)
      · exact carried_failExpecting _ _ _ cursor

theorem carriedAt_parenthesized
    {cursor : Cursor}
    (advanced : CarriedAt place (Prod.map id place.span) advance advance cursor)
    (start : Nat) :
    CarriedAt place place.expr (parenthesized inner start)
      (parenthesized further (start + place.offset)) cursor := by
  refine advanced.andThen fun _ => carry.conditional.bind fun inside => ?_
  refine (carried_expect _ _).bind fun _ => (carried_spanFrom _).bind fun span => ?_
  exact carried_pure_of_eq (Expr.mapSpans_withSpan place.span inside span)

theorem primary : Carried place place.expr (primary inner) (primary further) := by
  intro cursor
  refine CarriedAt.peek (fun lexeme span found => ?_) fun _ span there =>
    carried_failExpecting _ _ _ cursor
  have advanced := carriedAt_advance place found
  dsimp only
  generalize lexeme.token = token at advanced ⊢
  have literal
      (value : Value)
      (proper : place.closed = true → token ≠ .endOfInput) :
      CarriedAt place place.expr (literal span value) (literal (place.span span) value) cursor :=
    (advanced proper).andThen fun _ => carried_pure (Expr.literal span value)
  split
  · exact carriedAt_unary carry (advanced fun _ => nofun) .negate _
  · exact carriedAt_unary carry (advanced fun _ => nofun) .plus _
  · exact carriedAt_unary carry (advanced fun _ => nofun) .not _
  · exact carry.carriedAt_parenthesized (advanced fun _ => nofun) _
  · exact literal _ fun _ => nofun
  · exact literal _ fun _ => nofun
  · exact literal _ fun _ => nofun
  · rename_i name
    split
    · exact carry.carriedAt_reservedOperand (advanced fun _ => nofun) name span
    · refine (carry.reference cursor).andThen fun read => ?_
      refine carried_pure_of_eq ?_
      simp only [Expr.mapSpans, Reference.mapSpans_eq]
  · exact carried_failExpecting _ _ _ cursor

theorem operandOf : Carried place place.expr (Grammar.operand inner) (Grammar.operand further) := by
  intro cursor
  refine CarriedAt.peek (fun lexeme span found => ?_) fun _ span there => ?_
  · exact carry.primary.nested _ _ cursor
  · exact carry.primary.nested _ _ cursor

omit carry in
theorem conditionalOf
    {operand operandThere : Parser Expr}
    (operandCarried : Carried place place.expr operand operandThere)
    (carry : inner.Carry place further) :
    Carried place place.expr (Grammar.conditional operand inner)
      (Grammar.conditional operandThere further) := by
  have outer : Expressions.Carry place
      ⟨operand, inner.conditional⟩ ⟨operandThere, further.conditional⟩ :=
    ⟨operandCarried, carry.conditional⟩
  have disjunction : Carried place place.expr
      (Grammar.disjunction operand) (Grammar.disjunction operandThere) :=
    outer.parser .disjunction
  refine disjunction.bind fun condition => (carried_eat _ (by simp)).bind fun asked => ?_
  dsimp only [id]
  split
  · have branches : Carried place (Prod.map place.expr place.expr)
        (do
          let yes ← inner.conditional
          expect .colon .conditional
          let no ← inner.conditional
          pure (yes, no))
        (do
          let yes ← further.conditional
          expect .colon .conditional
          let no ← further.conditional
          pure (yes, no)) :=
      carry.conditional.bind fun yes => (carried_expect _ _).bind fun _ =>
        carry.conditional.bind fun no => carried_pure (yes, no)
    refine (branches.nested _ _).bind fun ⟨yes, no⟩ => ?_
    rw [Expr.span_mapSpans]
    exact (carried_spanFrom _).bind fun span =>
      carried_pure (Expr.conditional span condition yes no)
  · exact carried_pure condition

end Expressions.Carry

/-- What is read with some levels of nesting is read with more of them, too. -/
theorem expressions_carry
    (place : Relocation)
    {levels more : Nat}
    (enough : levels ≤ more) :
    (expressions levels).Carry place (expressions more) := by
  induction levels generalizing more with
  | zero =>
      have deep (second : Parser Expr) : Carried place place.expr tooDeep second := by
        intro cursor a moved run
        rcases bind_eq_ok run with ⟨⟨token, span⟩, _, _, failed⟩
        nomatch failed
      exact ⟨deep _, deep _⟩
  | succ levels ih =>
      cases more with
      | zero => nomatch enough
      | succ more =>
          have inner := ih (Nat.le_of_succ_le_succ enough)
          exact ⟨inner.operandOf, Expressions.Carry.conditionalOf inner.operandOf inner⟩

end Grammar

end GcodeTemplate
