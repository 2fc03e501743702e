import GcodeTemplate.Proofs.AlikeReading
import GcodeTemplate.Proofs.ExactReleases
import GcodeTemplate.Proofs.Rounds

/-!
# The budget of nesting is balanced

Whatever the grammar reads, it gives all units of nesting back that it has spent, and never
more than that.  An attempt that is given up leaves the cursor as it was.  So each statement
of a sequence has as much nesting to spend as the first one, and whether it is read depends
only on the text that is left.
-/

namespace GcodeTemplate

/-- As much nesting is spent at one cursor as at another one. -/
def Cursor.SameDepth (cursor moved : Cursor) : Prop :=
  moved.depth = cursor.depth

namespace Parser

variable {α β σ : Type}

theorem Keeps.sameDepth
    {parser : Parser α}
    (keeps : Keeps Cursor.Precedes parser) :
    Keeps Cursor.SameDepth parser :=
  fun _ _ _ run => (keeps run).depth

/-- The state and the cursor that a loop has come to after a number of rounds. -/
inductive Reaches
    (step : σ → Parser (Step σ β))
    (start : σ)
    (cursor : Cursor) :
    Nat → σ → Cursor → Prop
  | start : Reaches step start cursor 0 start cursor
  | round {count : Nat} {state next : σ} {reached moved : Cursor} :
      Reaches step start cursor count state reached →
        step state reached = .ok (.again next, moved) →
          Reaches step start cursor (count + 1) next moved

/-- What each round keeps is kept by any number of rounds. -/
theorem Reaches.keeps
    {relation : Cursor → Cursor → Prop}
    [IsPreorder Cursor relation]
    {step : σ → Parser (Step σ β)}
    (keeps : ∀ state, Keeps relation (step state))
    {start state : σ}
    {cursor reached : Cursor}
    {count : Nat}
    (reaches : Reaches step start cursor count state reached) :
    relation cursor reached := by
  induction reaches with
  | start => exact refl cursor
  | round _ stepped before => exact IsTrans.trans _ _ _ before (keeps _ stepped)

end Parser

namespace Grammar

open GcodeTemplate.Parser
open Cursor (Precedes SameDepth)

/-- What is read at one level of nesting leaves the depth as it was. -/
structure Balanced (grammar : Expressions) (choice : Span → Parser Piece) : Prop where
  level (level : Level) : Keeps SameDepth (level.parser grammar)
  reference : Keeps SameDepth (reference grammar)
  initializer : Keeps SameDepth (initializer grammar)
  statement : Keeps SameDepth (statement grammar)
  code (enclosure : Enclosure) : Keeps SameDepth (code grammar choice enclosure)
  textBlock : Keeps SameDepth (textBlock grammar choice)
  branches : Keeps SameDepth (branches grammar choice)
  choice (span : Span) : Keeps SameDepth (choice span)

/-- Every place that gives units back at one level of nesting has them to give. -/
structure Exact (grammar : Expressions) (choice : Span → Parser Piece) : Prop where
  /-- All chains, those in indices and counts included. -/
  chain (level : Level) :
    level.isChain → level.parser grammar = level.linksExactly (level.tighter.parser grammar)
  operand : operand grammar = operandExactly grammar
  branching (condition : Expr) :
    branching grammar condition = branchingExactly grammar condition
  ifBlock (span : Span) :
    nested span (branches grammar choice) = nestedExactly span (branches grammar choice)

theorem balanced_of_levels (levels : Nat) : Balanced (expressions levels) (choice levels) := by
  have keep := expressions_keep levels
  have keepChoice := keeps_choice levels
  exact {
    level := fun level => (keep.parser level).sameDepth
    reference := keep.reference.sameDepth
    initializer := (keeps_initializer keep).sameDepth
    statement := (keeps_statement keep).sameDepth
    code := fun enclosure => (keeps_code keep keepChoice enclosure).sameDepth
    textBlock := (keeps_textBlock keep keepChoice).sameDepth
    branches := (keeps_branches keep keepChoice).sameDepth
    choice := fun span => (keepChoice span).sameDepth }

theorem exact_of_levels (levels : Nat) : Exact (expressions levels) (choice levels) := by
  have keep := expressions_keep levels
  exact {
    chain := fun level isChain => parser_eq_linksExactly keep isChain
    operand := operand_eq_operandExactly keep
    branching := branching_eq_branchingExactly keep
    ifBlock := nested_eq_nestedExactly (keeps_branches keep (keeps_choice levels)) }

section Attempts

variable {grammar : Expressions} {cursor moved : Cursor}

/-- Behind an attempt at a target that is given up an expression is read where it began. -/
theorem assignment_of_no_target
    (given : target grammar cursor = .ok (none, moved)) :
    moved = cursor ∧
      assignment grammar cursor = (Piece.expression <$> grammar.conditional) cursor := by
  rcases restoring_eq_ok given with ⟨_, rfl, _⟩ | ⟨_, answered, _⟩
  · refine ⟨rfl, ?_⟩
    rw [assignment, bind_of_ok given]
  · nomatch answered

/-- So is one behind an attempt at a list. -/
theorem initializer_of_no_list
    {span : Span}
    (opens : peek cursor = .ok ((.symbol .leftParenthesis, span), cursor))
    (given : restoring (Option.join <$> attempt (initializerList grammar span.start)) cursor =
      .ok (none, moved)) :
    moved = cursor ∧
      initializer grammar cursor = (ofExpression <$> grammar.conditional) cursor := by
  rcases restoring_eq_ok given with ⟨_, rfl, _⟩ | ⟨_, answered, _⟩
  · refine ⟨rfl, ?_⟩
    have noWord : eatWord "repeat" moved = .ok (false, moved) := by
      rw [eatWord, eatIf, bind_of_ok opens]
      rfl
    rw [initializer, bind_of_ok opens]
    simp only [Token.isSymbol_iff, if_true]
    rw [bind_of_ok given]
    dsimp only
    rw [bind_of_ok noWord]
    rfl
  · nomatch answered

end Attempts

/-- An if block with its word, with a number of levels of nesting left. -/
def ifBlock (levels : Nat) : Parser Piece := do
  let (_, span) ← advance
  choice levels span

/-- After any number of rounds there is as much nesting to spend as there was before them. -/
theorem depth_of_reaches
    {levels count : Nat}
    {enclosure : Enclosure}
    {start state : List Piece × Bool}
    {cursor reached : Cursor}
    (reaches : Reaches (codeRound (expressions levels) (choice levels) enclosure) start cursor count
      state reached) :
    reached.depth = cursor.depth :=
  (reaches.keeps (keeps_codeRound (expressions_keep levels) (keeps_choice levels)
    enclosure)).depth

/--
The budget of nesting is balanced, from whatever cursor something is read and with whatever
depth.  All that the grammar reads gives back what it has spent, and wherever units are given
back there are as many of them.  An attempt at the target of an assignment or at a list that
is given up leaves the cursor as it was, and what is read instead is read from there.  So of
two statements, or two if blocks, in front of the same text both are read or neither of them
is, however many rounds of statements each of them stands behind.
-/
theorem nesting_budget_balanced (levels : Nat) :
    Balanced (expressions levels) (choice levels) ∧
    Exact (expressions levels) (choice levels) ∧
    (∀ cursor moved, target (expressions levels) cursor = .ok (none, moved) →
      moved = cursor ∧
        assignment (expressions levels) cursor =
          (Piece.expression <$> (expressions levels).conditional) cursor) ∧
    (∀ span cursor moved, peek cursor = .ok ((.symbol .leftParenthesis, span), cursor) →
      restoring (Option.join <$> attempt (initializerList (expressions levels) span.start))
          cursor = .ok (none, moved) →
        moved = cursor ∧
          initializer (expressions levels) cursor =
            (ofExpression <$> (expressions levels).conditional) cursor) ∧
    ∀ enclosure count other state stateThere (cursor there reached reachedThere : Cursor),
      there.depth = cursor.depth →
        Reaches (codeRound (expressions levels) (choice levels) enclosure) ([], false) cursor
          count state reached →
        Reaches (codeRound (expressions levels) (choice levels) enclosure) ([], false) there
          other stateThere reachedThere →
        reachedThere.rest = reached.rest →
          reached.depth = cursor.depth ∧
            ((∃ result, statement (expressions levels) reached = .ok result) ↔
              ∃ result, statement (expressions levels) reachedThere = .ok result) ∧
            ((∃ result, ifBlock levels reached = .ok result) ↔
              ∃ result, ifBlock levels reachedThere = .ok result) := by
  refine ⟨balanced_of_levels levels, exact_of_levels levels,
    fun cursor moved given => assignment_of_no_target given,
    fun span cursor moved opens given => initializer_of_no_list opens given, ?_⟩
  intro enclosure count other state stateThere cursor there reached reachedThere
    level reaches reachesThere rest
  have depth := depth_of_reaches reaches
  have alike : reached.Alike reachedThere :=
    ⟨rest, (depth_of_reaches reachesThere).trans (level.trans depth.symm)⟩
  have agree := expressions_agreeing levels
  have agreeIf : Agree Anything (ifBlock levels) (ifBlock levels) :=
    agree_advance.bind fun _ _ _ => agree_choice levels _ _
  exact ⟨depth, (agree_statement agree).exists_iff alike, agreeIf.exists_iff alike⟩

/--
The comparison is tried as an assignment first, and the sum behind it as a list.  The
assignment is the second statement, and it is read there as it is where it is the first one.
-/
theorem second_statement_read_with_whole_budget :
    let first := Cursor.start "a==1;b=(1)+2\x7d"
    let alone := Cursor.start "b=(1)+2\x7d"
    let sum := Cursor.start "(1)+2\x7d"
    (target (expressions maximalNesting) first = .ok (none, first) ∧
      assignment (expressions maximalNesting) first =
        (Piece.expression <$> (expressions maximalNesting).conditional) first) ∧
    initializer (expressions maximalNesting) sum =
      (ofExpression <$> (expressions maximalNesting).conditional) sum ∧
    ∃ state second,
      codeRound (expressions maximalNesting) (choice maximalNesting) .braces ([], false) first =
        .ok (.again state, second) ∧
      second.rest = alone.rest ∧ second.depth = 0 ∧
      ∃ result, statement (expressions maximalNesting) second = .ok result := by
  intro first alone sum
  rcases nesting_budget_balanced maximalNesting with ⟨_, _, targets, lists, statements⟩
  refine ⟨?_, ?_, ?_⟩
  · have tried :
        (target (expressions maximalNesting) first).toOption.any (·.1.isNone) = true := by
      decide +kernel
    rcases exists_of_any tried with ⟨⟨_ | _, moved⟩, given, isNone⟩
    · rcases targets first moved given with ⟨rfl, instead⟩
      exact ⟨given, instead⟩
    · nomatch isNone
  · have opens : peek sum = .ok ((.symbol .leftParenthesis, ⟨0, 1⟩), sum) := rfl
    have tried :
        (restoring (Option.join <$> attempt (initializerList (expressions maximalNesting) 0))
          sum).toOption.any (·.1.isNone) = true := by
      decide +kernel
    rcases exists_of_any tried with ⟨⟨_ | _, moved⟩, given, isNone⟩
    · exact (lists ⟨0, 1⟩ sum moved opens given).2
    · nomatch isNone
  · have round :
        (codeRound (expressions maximalNesting) (choice maximalNesting) .braces ([], false)
          first).toOption.any (fun answer =>
            match answer.1 with
            | .again _ => answer.2.rest == alone.rest
            | .done _ => false) = true := by
      decide +kernel
    have accepted :
        (statement (expressions maximalNesting) alone).toOption.any (fun _ => true) = true := by
      decide +kernel
    rcases exists_of_any round with ⟨⟨state | _, second⟩, stepped, behind⟩
    · rcases exists_of_any accepted with ⟨result, read, _⟩
      have rest : second.rest = alone.rest := beq_iff_eq.mp behind
      rcases statements .braces 1 0 state ([], false) first alone second alone rfl
        (.round .start stepped) .start rest.symm with ⟨depth, isRead, _⟩
      exact ⟨state, second, stepped, rest, depth, isRead.2 ⟨result, read⟩⟩
    · nomatch behind

end Grammar

end GcodeTemplate
