import GcodeTemplate.Piece.Grammar
import GcodeTemplate.Proofs.Levels

/-!
# Expressions without empty literals

A syntax tree could hold the empty value as a literal, but no source has a way to write
one.  What matters is where the value of an expression is handed on from: the operand of a
plus sign and the branches of a conditional.  Whatever the grammar reads has no empty
literal in these places, at every level of nesting.
-/

namespace GcodeTemplate

/-- A value is there. -/
def Value.IsFull (value : Value) : Prop :=
  value.isEmpty = false

/-- No literal is empty where the value of an expression may be handed on from. -/
def Expr.IsFull : Expr → Prop
  | .literal _ value => value.IsFull
  | .unary _ _ operand => operand.IsFull
  | .conditional _ _ yes no => yes.IsFull ∧ no.IsFull
  | .read _ _ | .binary _ _ _ _ | .fullMatch _ _ _ _ _ | .call _ _ => True

/-- None of the expressions that something is assigned or declared with has such a literal. -/
def Initializer.IsFull : Initializer → Prop
  | .list _ items => ∀ item ∈ items, item.IsFull
  | .reference _ => True
  | .expression expr => expr.IsFull
  | .fill _ count value => count.IsFull ∧ value.IsFull

theorem Expr.isFull_withSpan
    {expr : Expr}
    (full : expr.IsFull)
    (span : Span) :
    (expr.withSpan span).IsFull := by
  cases expr <;> exact full

namespace Grammar

open GcodeTemplate.Parser

/-- The operators and matches of a chain make full expressions, and an operand alone is one. -/
theorem Level.full_links
    (level : Level)
    {operand : Parser Expr}
    (full : Yields Expr.IsFull operand) :
    Yields Expr.IsFull (level.links operand) := by
  refine full.bind fun first firstFull => ?_
  refine Yields.iterate (fun (state : Expr × Nat) => state.1.IsFull)
    (fun ⟨left, spent⟩ leftFull => ?_) firstFull
  intro cursor answer moved stepped
  rcases level.step_eq_ok stepped with ⟨lexeme, span, _, link | link | link⟩
  · rcases link with ⟨operator, _, link⟩
    rcases chainLink_eq_ok link with ⟨_, _, _, _, _, _, rfl⟩
    exact trivial
  · rcases link with ⟨negated, _, link⟩
    rcases matchLink_eq_ok link with ⟨_, _, _, _, _, rfl⟩
    exact trivial
  · cases link.2.2
    exact leftFull

/-- What the parsers at one level of nesting read is full. -/
structure Expressions.Full (grammar : Expressions) : Prop where
  operand : Yields Expr.IsFull grammar.operand
  conditional : Yields Expr.IsFull grammar.conditional

namespace Expressions.Full

variable {inner : Expressions} (full : inner.Full)

include full

theorem parser (level : Level) : Yields Expr.IsFull (level.parser inner) := by
  induction level using Level.tightening with
  | conditional => exact full.conditional
  | operand => exact full.operand
  | chain level isChain tighter =>
      rw [level.parser_eq_links inner isChain]
      exact level.full_links tighter

theorem unary (operator : UnaryOperator) (start : Nat) :
    Yields Expr.IsFull (unary inner operator start) :=
  .after fun _ => full.operand.bind fun _ operandFull => .after fun _ =>
    yields_pure operandFull

theorem parenthesized (start : Nat) : Yields Expr.IsFull (parenthesized inner start) :=
  .after fun _ => full.conditional.bind fun _ insideFull => .after fun _ => .after fun span =>
    yields_pure (Expr.isFull_withSpan insideFull span)

theorem reservedOperand (name : String) (span : Span) :
    Yields Expr.IsFull (reservedOperand inner name span) := by
  unfold Grammar.reservedOperand
  split
  · exact .after fun _ => yields_pure rfl
  · split
    · exact full.unary .not span.start
    · split
      · exact .after fun _ => .after fun _ => .after fun _ => yields_pure trivial
      · exact yields_failExpecting _ _

/-- The literals of the language are booleans, numbers and strings. -/
theorem primary : Yields Expr.IsFull (primary inner) := by
  have literal (span : Span) {value : Value} (some : value.IsFull) :
      Yields Expr.IsFull (literal span value) :=
    .after fun _ => yields_pure some
  refine .after fun ⟨token, span⟩ => ?_
  dsimp only
  split
  · exact full.unary .negate _
  · exact full.unary .plus _
  · exact full.unary .not _
  · exact full.parenthesized _
  · exact literal span rfl
  · exact literal span rfl
  · exact literal span rfl
  · split
    · exact full.reservedOperand _ _
    · exact .after fun _ => yields_pure trivial
  · exact yields_failExpecting _ _

theorem deeper :
    Expressions.Full
      ⟨Grammar.operand inner, Grammar.conditional (Grammar.operand inner) inner⟩ := by
  have operandFull : Yields Expr.IsFull (Grammar.operand inner) :=
    .after fun span => full.primary.nested _
  have outer : Expressions.Full ⟨Grammar.operand inner, inner.conditional⟩ :=
    ⟨operandFull, full.conditional⟩
  refine ⟨operandFull, ?_⟩
  refine (outer.parser .disjunction).bind fun condition conditionFull => .after fun asked => ?_
  split
  · have branches :
        Yields (fun pair => pair.1.IsFull ∧ pair.2.IsFull)
          (nested condition.span do
            let yes ← inner.conditional
            expect .colon .conditional
            let no ← inner.conditional
            pure (yes, no)) :=
      .nested (full.conditional.bind fun _ yes => .after fun _ =>
        full.conditional.bind fun _ no => yields_pure ⟨yes, no⟩) _
    exact branches.bind fun _ both => .after fun _ => yields_pure both
  · exact yields_pure conditionFull

theorem listItems :
    Yields (fun items => ∀ item ∈ items, item.IsFull) (listItems inner) := by
  refine .after fun _ => .after fun closed => ?_
  split
  · exact yields_pure nofun
  · refine Yields.iterate (fun collected => ∀ item ∈ collected, item.IsFull)
      (fun collected each => ?_) nofun
    refine full.conditional.bind fun item itemFull => .after fun more => ?_
    have all : ∀ each ∈ item :: collected, each.IsFull :=
      List.forall_mem_cons.2 ⟨itemFull, each⟩
    split
    · exact yields_pure all
    · exact .after fun _ => yields_pure fun item member => all item (List.mem_reverse.1 member)

theorem initializerList (start : Nat) :
    Yields (fun answer => ∀ list ∈ answer, list.IsFull) (initializerList inner start) := by
  refine full.listItems.bind fun items each => .after fun ⟨token, _⟩ => ?_
  dsimp only
  split
  · refine .after fun span => yields_pure ?_
    rintro _ ⟨⟩
    exact each
  · exact yields_pure nofun

theorem fill (start : Nat) : Yields Initializer.IsFull (fill inner start) :=
  .after fun _ => (full.parser .sum).bind fun _ count => .after fun _ =>
    full.conditional.bind fun _ value => .after fun _ => .after fun _ =>
      yields_pure ⟨count, value⟩

/-- Whatever stands behind the sign of an assignment is full, lists included. -/
theorem initializer : Yields Initializer.IsFull (initializer inner) := by
  refine .after fun ⟨token, span⟩ => ?_
  have ofExpression : Yields Initializer.IsFull (ofExpression <$> inner.conditional) := by
    refine full.conditional.map fun expr exprFull => ?_
    unfold Grammar.ofExpression
    split
    · exact trivial
    · exact exprFull
  have scalar :
      Yields Initializer.IsFull (do
        if ← eatWord "repeat" then
          Grammar.fill inner span.start
        else
          Grammar.ofExpression <$> inner.conditional) := by
    refine .after fun repeated => ?_
    split
    · exact full.fill _
    · exact ofExpression
  have list :
      Yields (fun answer => ∀ list ∈ answer, list.IsFull)
        (Option.join <$> attempt (Grammar.initializerList inner span.start)) := by
    refine (full.initializerList _).attempt.map fun answer listFull => ?_
    cases answer with
    | none => nofun
    | some list => exact listFull list rfl
  dsimp only
  split
  · refine list.restoring.bind fun answer listFull => ?_
    cases answer with
    | none => exact scalar
    | some list => exact yields_pure (listFull list rfl)
  · exact scalar

end Expressions.Full

/-- No expression that is read has an empty literal, however deep it may nest. -/
theorem expressions_full (levels : Nat) : (expressions levels).Full := by
  induction levels with
  | zero =>
      have deep : Yields Expr.IsFull tooDeep := .after fun _ => yields_fail _ _
      exact ⟨deep, deep⟩
  | succ levels inner => exact inner.deeper

end Grammar

end GcodeTemplate
