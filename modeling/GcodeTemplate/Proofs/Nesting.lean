import GcodeTemplate.Proofs.Heights
import GcodeTemplate.Proofs.Progress

/-!
# How deep the trees are that are accepted

The nesting that may be spent bounds the height of every tree that is accepted,
apart from matches: the loop of a chain spends a unit on each operator, but none
on a match.  So heights are measured here without the steps from a match to its
subject.
-/

namespace GcodeTemplate

namespace Grammar

open GcodeTemplate.Parser
open Cursor (Precedes)

/-- Whatever is read is at most so high, apart from matches. -/
abbrev Bounded (bound : Nat) : Parser Expr → Prop :=
  Yields fun expr => expr.height 0 ≤ bound

section

variable {bound : Nat}

/-- An operator makes a chain one node higher, and spends one unit of nesting. -/
theorem Level.bounded_links
    (level : Level)
    {operand : Parser Expr}
    (keeps : Keeps Precedes operand)
    (bounded : Bounded bound operand) :
    Bounded (bound + maximalDepth) (level.links operand) := by
  refine Yields.bind bounded fun first firstBounded => ?_
  intro start expr stop run
  refine iterate_invariant
    (fun (state : Expr × Nat) cursor =>
      state.1.height 0 ≤ bound + state.2 ∧ state.2 ≤ cursor.depth ∧ state.2 ≤ maximalDepth)
    (fun expr _ => expr.height 0 ≤ bound + maximalDepth)
    ?_ ?_ ⟨firstBounded, Nat.zero_le _, Nat.zero_le _⟩ run
  · rintro ⟨left, spent⟩ cursor ⟨next, more⟩ moved ⟨high, deep, enough⟩ stepped
    rcases level.step_eq_ok stepped with ⟨lexeme, span, found, link | link | link⟩
    · rcases link with ⟨operator, _, link⟩
      rcases chainLink_eq_ok link with ⟨token, between, right, advanced, limit, read, same⟩
      cases same
      have forward := (keeps_advance advanced).depth
      have inside : moved.depth = between.depth + 1 := (keeps read).depth
      have rightBounded := bounded read
      simp only [joined, Expr.height] at *
      omega
    · rcases link with ⟨negated, _, link⟩
      rcases matchLink_eq_ok link with ⟨token, between, pattern, advanced, read, same⟩
      cases same
      have forward := (keeps_advance advanced).depth
      have inside := (keeps_regularExpression read).depth
      simp only [Expr.height] at *
      omega
    · nomatch link.2.2
  · rintro ⟨left, spent⟩ cursor result moved ⟨high, deep, enough⟩ stepped
    rcases level.step_eq_ok stepped with ⟨lexeme, span, found, link | link | link⟩
    · rcases link with ⟨operator, _, link⟩
      rcases chainLink_eq_ok link with ⟨_, _, _, _, _, _, same⟩
      nomatch same
    · rcases link with ⟨negated, _, link⟩
      rcases matchLink_eq_ok link with ⟨_, _, _, _, _, same⟩
      nomatch same
    · cases link.2.2
      simp only at *
      omega

/-- The heights of what the parsers at one level of nesting read are bounded. -/
structure Expressions.Bound (bound : Nat) (grammar : Expressions) : Prop where
  keep : grammar.Keep Precedes
  operand : Bounded bound grammar.operand
  conditional : Bounded bound grammar.conditional

namespace Expressions.Bound

variable {inner : Expressions} (bounded : inner.Bound bound)

include bounded

/-- Each level of chains adds as many nodes as there are units of nesting. -/
theorem parser (level : Level) (loose : level ≠ .conditional) :
    Bounded (bound + maximalDepth * (7 - level.rank)) (level.parser inner) := by
  induction level using Level.tightening with
  | conditional => exact absurd rfl loose
  | operand => exact bounded.operand
  | chain level isChain tighter =>
      have proper : level.tighter ≠ .conditional := by
        cases level <;> decide
      have further : 7 - level.rank = 7 - level.tighter.rank + 1 := by
        cases level <;> first | exact Bool.noConfusion isChain | rfl
      rw [level.parser_eq_links inner isChain, further, Nat.mul_succ, ← Nat.add_assoc]
      exact level.bounded_links (bounded.keep.parser _) (tighter proper)

theorem sum : Bounded (bound + maximalDepth * 2) (sum inner.operand) :=
  bounded.parser .sum (by decide)

theorem reference :
    Yields (fun reference => reference.height 0 ≤ bound + maximalDepth * 2)
      (reference inner) := by
  refine .after fun ⟨token, span⟩ => ?_
  dsimp only
  split
  · rename_i name
    split
    · exact yields_failExpecting _ _
    · refine .after fun _ => .after fun indexed => ?_
      have finished (index : Option Expr)
          (high : ∀ expr ∈ index, expr.height 0 ≤ bound + maximalDepth * 2) :
          Yields (fun reference => reference.height 0 ≤ bound + maximalDepth * 2) (do
            let span' ← spanFrom span.start
            pure (⟨name, span, index, span'⟩ : Reference Expr)) := by
        refine .after fun _ => yields_pure ?_
        cases index with
        | none => simp [Reference.height]
        | some index => exact high index rfl
      split
      · exact bounded.sum.bind fun _ high => .after fun _ => finished _ (by simpa using high)
      · exact finished none (by simp)
  · exact yields_failExpecting _ _

theorem unary (operator : UnaryOperator) (start : Nat) :
    Bounded (bound + 1) (unary inner operator start) := by
  refine .after fun _ => bounded.operand.bind fun _ high => .after fun _ => yields_pure ?_
  exact Nat.add_le_add_right high 1

theorem oneArgument : Bounded bound (oneArgument inner) :=
  .after fun _ => bounded.conditional.bind fun _ high => .after fun _ => yields_pure high

theorem twoArguments :
    Yields (fun pair => max (pair.1.height 0) (pair.2.height 0) ≤ bound)
      (twoArguments inner) :=
  .after fun _ => bounded.conditional.bind fun _ first => .after fun _ =>
    bounded.conditional.bind fun _ second => .after fun _ =>
      yields_pure (Nat.max_le.mpr ⟨first, second⟩)

theorem referenceArgument :
    Yields (fun reference => reference.height 0 ≤ bound + maximalDepth * 2)
      (referenceArgument inner) :=
  .after fun _ => bounded.reference.bind fun _ high => .after fun _ => yields_pure high

theorem digitsArguments (zeros : Bool) :
    Yields (fun call => call.height 0 ≤ bound) (digitsArguments inner zeros) := by
  refine .after fun _ => bounded.conditional.bind fun value valueBounded => ?_
  refine .after fun _ => bounded.conditional.bind fun width widthBounded => ?_
  refine .after fun closed => ?_
  split
  · exact yields_pure (Nat.max_le.mpr ⟨valueBounded, widthBounded⟩)
  · refine .after fun more => ?_
    split
    · refine bounded.conditional.bind fun places placesBounded => .after fun _ => ?_
      apply yields_pure
      exact Nat.max_le.mpr ⟨valueBounded, Nat.max_le.mpr ⟨widthBounded, placesBounded⟩⟩
    · exact .after fun _ => yields_failExpecting _ _

theorem candidate :
    Yields (fun answer => ∀ candidate ∈ answer, Candidate.height 0 candidate ≤ bound)
      (candidate inner) := by
  refine .after fun ⟨token, span⟩ => ?_
  dsimp only
  split
  · exact yields_pure (by simp)
  · have finished (candidate : Candidate Expr) (high : candidate.height 0 ≤ bound) :
        Yields (fun answer => ∀ candidate ∈ answer, Candidate.height 0 candidate ≤ bound) (do
          let _ ← eat .comma
          pure (some candidate)) :=
      .after fun _ => yields_pure (by simpa using high)
    split
    · exact .after fun _ => bounded.operand.bind fun _ high => finished (.pattern _) high
    · split
      · exact .after fun _ => finished (.regex _ _) (Nat.zero_le _)
      · exact bounded.operand.bind fun _ high => finished (.text _) high

theorem oneOfArguments :
    Yields (fun call => call.height 0 ≤ bound) (oneOfArguments inner) := by
  refine .after fun _ => bounded.operand.bind fun subject subjectBounded => ?_
  refine .after fun more => ?_
  have finished (candidates : List (Candidate Expr))
      (high : ∀ candidate ∈ candidates, candidate.height 0 ≤ bound) :
      Yields (fun call => call.height 0 ≤ bound) (do
        expect .rightParenthesis .patternList
        pure (Call.oneOf subject candidates)) :=
    .after fun _ => yields_pure
      (Nat.max_le.mpr ⟨subjectBounded, Candidate.maxHeight_le high⟩)
  dsimp only
  split
  · exact bounded.candidate.many.bind finished
  · exact finished [] (by simp)

theorem knot :
    Yields
      (fun answer => ∀ knot ∈ answer, knot.1.height 0 ≤ bound ∧ knot.2.height 0 ≤ bound)
      (knot inner) := by
  refine .after fun opened => ?_
  split
  · refine bounded.operand.bind fun abscissa first => .after fun _ => ?_
    refine bounded.operand.bind fun ordinate second => .after fun _ => .after fun _ => ?_
    exact yields_pure (by simpa using ⟨first, second⟩)
  · exact yields_pure (by simp)

theorem interpolateArguments :
    Yields (fun call => call.height 0 ≤ bound) (interpolateArguments inner) :=
  .after fun _ => bounded.operand.bind fun _ high => .after fun _ =>
    bounded.knot.many.bind fun _ each => .after fun _ =>
      yields_pure (Nat.max_le.mpr ⟨high, Table.maxHeight_le each⟩)

theorem arguments?
    {name : String}
    {arguments : Parser Call}
    (found : arguments? inner name = some arguments) :
    Yields (fun call => call.height 0 ≤ bound + maximalDepth * 2) arguments := by
  have wider {n : Nat} (high : n ≤ bound) : n ≤ bound + maximalDepth * 2 :=
    Nat.le_add_right_of_le high
  unfold Grammar.arguments? at found
  split at found <;> cases found
  case h_1 | h_2 | h_3 =>
    exact bounded.twoArguments.bind fun _ high => yields_pure (wider high)
  case h_4 | h_5 | h_6 | h_7 | h_8 => exact bounded.oneArgument.map fun _ => wider
  case h_9 | h_10 => exact (bounded.digitsArguments _).mono fun _ => wider
  case h_11 | h_12 | h_13 => exact bounded.referenceArgument.map fun _ high => high
  case h_14 => exact bounded.oneOfArguments.mono fun _ => wider
  case h_15 => exact bounded.interpolateArguments.mono fun _ => wider

theorem reservedOperand (name : String) (span : Span) :
    Bounded (bound + maximalDepth * 2 + 1) (reservedOperand inner name span) := by
  unfold Grammar.reservedOperand
  split
  · exact .after fun _ => yields_pure (Nat.le_add_left _ _)
  · split
    · refine (bounded.unary .not span.start).mono fun _ high => ?_
      omega
    · split
      · rename_i arguments found
        refine .after fun _ => (bounded.arguments? found).bind fun _ high => ?_
        exact .after fun _ => yields_pure (Nat.add_le_add_right high 1)
      · exact yields_failExpecting _ _

theorem parenthesized (start : Nat) : Bounded bound (parenthesized inner start) :=
  .after fun _ => bounded.conditional.bind fun _ high => .after fun _ => .after fun _ =>
    yields_pure (by rwa [Expr.height_withSpan])

theorem primary : Bounded (bound + maximalDepth * 2 + 1) (primary inner) := by
  refine .after fun ⟨token, span⟩ => ?_
  have unary (operator : UnaryOperator) :
      Bounded (bound + maximalDepth * 2 + 1) (Grammar.unary inner operator span.start) :=
    (bounded.unary operator _).mono fun _ high => by omega
  have literal (value : Value) :
      Bounded (bound + maximalDepth * 2 + 1) (literal span value) :=
    .after fun _ => yields_pure (Nat.le_add_left _ _)
  dsimp only
  split
  · exact unary .negate
  · exact unary .plus
  · exact unary .not
  · exact (bounded.parenthesized _).mono fun _ high => by omega
  · exact literal _
  · exact literal _
  · exact literal _
  · split
    · exact bounded.reservedOperand _ _
    · exact bounded.reference.bind fun _ high => yields_pure (Nat.add_le_add_right high 1)
  · exact yields_failExpecting _ _

end Expressions.Bound

end

/-- The nodes that one level of nesting can add to a path. -/
def levelHeight : Nat :=
  maximalDepth * 8 + 2

theorem Expressions.Bound.deeper
    {bound : Nat}
    {inner : Expressions}
    (bounded : inner.Bound bound) :
    Expressions.Bound (bound + levelHeight)
      ⟨Grammar.operand inner, Grammar.conditional (Grammar.operand inner) inner⟩ := by
  have operandBounded : Bounded (bound + maximalDepth * 2 + 1) (Grammar.operand inner) :=
    .after fun _ => bounded.primary.nested _
  have operandKeeps := bounded.keep.operandOf
  have outer : Expressions.Bound (bound + maximalDepth * 2 + 1)
      ⟨Grammar.operand inner, inner.conditional⟩ :=
    ⟨⟨operandKeeps, bounded.keep.conditional⟩, operandBounded,
      bounded.conditional.mono fun _ high => by omega⟩
  have disjunction := outer.parser .disjunction (by decide)
  refine ⟨⟨operandKeeps, Expressions.Keep.conditionalOf operandKeeps bounded.keep⟩,
    operandBounded.mono fun _ high => ?_, ?_⟩
  · simp only [levelHeight]
    omega
  · refine disjunction.bind fun condition conditionBounded => .after fun asked => ?_
    simp only [Level.rank] at conditionBounded
    split
    · have branches :
          Yields (fun pair => pair.1.height 0 ≤ bound ∧ pair.2.height 0 ≤ bound)
            (nested condition.span do
              let yes ← inner.conditional
              expect .colon .conditional
              let no ← inner.conditional
              pure (yes, no)) :=
        .nested (bounded.conditional.bind fun _ yes => .after fun _ =>
          bounded.conditional.bind fun _ no => yields_pure ⟨yes, no⟩) _
      refine branches.bind fun ⟨yes, no⟩ ⟨yesBounded, noBounded⟩ => .after fun _ => ?_
      apply yields_pure
      simp only [Expr.height, levelHeight] at *
      omega
    · apply yields_pure
      simp only [levelHeight]
      omega

/-- Each level of nesting adds at most so many nodes. -/
theorem expressions_bound (levels : Nat) :
    (expressions levels).Bound (levels * levelHeight) := by
  induction levels with
  | zero =>
      have deep : Bounded (0 * levelHeight) tooDeep := .after fun _ => yields_fail _ _
      exact ⟨expressions_keep 0, deep, deep⟩
  | succ levels inner =>
      rw [Nat.succ_mul]
      exact inner.deeper

end Grammar

end GcodeTemplate
