import GcodeTemplate.Proofs.AlikeCursors
import GcodeTemplate.Proofs.Trials

/-!
# Reading at cursors that are alike

The grammar, production by production, at two cursors that are alike.  Tokens, and whether
something is there, decide how a production goes on.  Spans and trees decide nothing: the
only trees that are looked at again are the operands of a chain, whose spans are noted when
units of nesting are spent.
-/

namespace GcodeTemplate

namespace Grammar

open GcodeTemplate.Parser Text

/-! ## Expressions -/

theorem agree_regularExpression : Agree Anything regularExpression regularExpression := by
  intro cursor there alike
  simp only [regularExpression, alike.rest]
  split
  · split
    · exact .results trivial ⟨rfl, alike.depth⟩
    · exact .faults _ _
  · exact .faults _ _

/-- Two states of the loop of a chain in which as many units have been spent. -/
def SameSpent (state other : Expr × Nat) : Prop :=
  other.2 = state.2

section Levels

variable {operand : Parser Expr} (agree : Agree Anything operand operand)

include agree

theorem Level.agree_step
    (level : Level)
    {state other : Expr × Nat}
    (same : SameSpent state other) :
    Agree (SameStep SameSpent Anything) (level.step operand state) (level.step operand other) := by
  rcases state with ⟨left, spent⟩
  rcases other with ⟨leftThere, _⟩
  obtain rfl := same
  refine agree_peek.bind ?_
  rintro ⟨token, span⟩ ⟨_, further⟩ ⟨⟩
  dsimp only
  split
  · refine agree_advance.bind fun _ _ _ => (agree_charge _ _ _).bind fun _ _ _ => ?_
    exact agree.bind fun _ _ _ => agree_pure (.again rfl)
  · refine agree_advance.bind fun _ _ _ => agree_regularExpression.bind fun _ _ _ => ?_
    exact agree_pure (.again rfl)
  · exact (agree_release _).bind fun _ _ _ => agree_pure (.done trivial)

theorem Level.agree_links (level : Level) :
    Agree Anything (level.links operand) (level.links operand) :=
  agree.bind fun _ _ _ => agree_iterate SameSpent (fun _ _ => level.agree_step agree) rfl

end Levels

/-- The parsers at one level of nesting cannot tell cursors apart that are alike. -/
structure Expressions.Agreeing (grammar : Expressions) : Prop where
  operand : Agree Anything grammar.operand grammar.operand
  conditional : Agree Anything grammar.conditional grammar.conditional

namespace Expressions.Agreeing

variable {inner : Expressions} (agree : inner.Agreeing)

include agree

theorem parser (level : Level) :
    Agree Anything (level.parser inner) (level.parser inner) := by
  induction level using Level.tightening with
  | conditional => exact agree.conditional
  | operand => exact agree.operand
  | chain level isChain tighter =>
      rw [level.parser_eq_links inner isChain]
      exact level.agree_links tighter

theorem sum : Agree Anything (sum inner.operand) (sum inner.operand) :=
  agree.parser .sum

theorem reference : Agree Anything (reference inner) (reference inner) := by
  refine agree_peek.bind ?_
  rintro ⟨token, span⟩ ⟨_, further⟩ ⟨⟩
  dsimp only
  split
  · rename_i name
    split
    · exact agree_failExpecting _ _ _ _
    · refine agree_advance.bind fun _ _ _ => (agree_eat _).bind ?_
      rintro indexed _ rfl
      have finished (index indexThere : Option Expr) :
          Agree Anything
            (do
              let span' ← spanFrom span.start
              pure (⟨name, span, index, span'⟩ : Reference Expr))
            (do
              let span' ← spanFrom further.start
              pure ⟨name, further, indexThere, span'⟩) :=
        (agree_spanFrom _ _).bind fun _ _ _ => agree_pure trivial
      split
      · exact agree.sum.bind fun _ _ _ => (agree_expect _ _).bind fun _ _ _ => finished _ _
      · exact finished none none
  · exact agree_failExpecting _ _ _ _

theorem unary (operator : UnaryOperator) (start other : Nat) :
    Agree Anything (unary inner operator start) (unary inner operator other) :=
  agree_advance.bind fun _ _ _ => agree.operand.bind fun _ _ _ =>
    (agree_spanFrom _ _).bind fun _ _ _ => agree_pure trivial

theorem oneArgument : Agree Anything (oneArgument inner) (oneArgument inner) :=
  (agree_expect _ _).bind fun _ _ _ => agree.conditional.bind fun _ _ _ =>
    (agree_expect _ _).bind fun _ _ _ => agree_pure trivial

theorem twoArguments : Agree Anything (twoArguments inner) (twoArguments inner) :=
  (agree_expect _ _).bind fun _ _ _ => agree.conditional.bind fun _ _ _ =>
    (agree_expect _ _).bind fun _ _ _ => agree.conditional.bind fun _ _ _ =>
      (agree_expect _ _).bind fun _ _ _ => agree_pure trivial

theorem referenceArgument :
    Agree Anything (referenceArgument inner) (referenceArgument inner) :=
  (agree_expect _ _).bind fun _ _ _ => agree.reference.bind fun _ _ _ =>
    (agree_expect _ _).bind fun _ _ _ => agree_pure trivial

theorem digitsArguments (zeros : Bool) :
    Agree Anything (digitsArguments inner zeros) (digitsArguments inner zeros) := by
  refine (agree_expect _ _).bind fun _ _ _ => agree.conditional.bind fun _ _ _ => ?_
  refine (agree_expect _ _).bind fun _ _ _ => agree.conditional.bind fun _ _ _ => ?_
  refine (agree_eat _).bind ?_
  rintro closed _ rfl
  split
  · exact agree_pure trivial
  · refine (agree_eat _).bind ?_
    rintro more _ rfl
    split
    · exact agree.conditional.bind fun _ _ _ => (agree_expect _ _).bind fun _ _ _ =>
        agree_pure trivial
    · exact agree_peek.bind fun _ _ _ => agree_failExpecting _ _ _ _

theorem candidate : Agree SameAnswer (candidate inner) (candidate inner) := by
  refine agree_peek.bind ?_
  rintro ⟨token, span⟩ ⟨_, further⟩ ⟨⟩
  dsimp only
  split
  · exact agree_pure .none
  · have finished (candidate candidateThere : Candidate Expr) :
        Agree SameAnswer
          (do
            let _ ← eat .comma
            pure (some candidate))
          (do
            let _ ← eat .comma
            pure (some candidateThere)) :=
      (agree_eat _).bind fun _ _ _ => agree_pure (.some trivial)
    split
    · exact agree_advance.bind fun _ _ _ => agree.operand.bind fun _ _ _ => finished _ _
    · split
      · exact agree_regularExpression.bind fun _ _ _ => finished _ _
      · exact agree.operand.bind fun _ _ _ => finished _ _

theorem oneOfArguments : Agree Anything (oneOfArguments inner) (oneOfArguments inner) := by
  refine (agree_expect _ _).bind fun _ _ _ => agree.operand.bind fun subject subjectThere _ => ?_
  refine (agree_eat _).bind ?_
  rintro more _ rfl
  have finished (candidates candidatesThere : List (Candidate Expr)) :
      Agree Anything
        (do
          expect .rightParenthesis .patternList
          pure (Call.oneOf subject candidates))
        (do
          expect .rightParenthesis .patternList
          pure (Call.oneOf subjectThere candidatesThere)) :=
    (agree_expect _ _).bind fun _ _ _ => agree_pure trivial
  dsimp only
  split
  · exact agree.candidate.many.bind fun _ _ _ => finished _ _
  · exact finished [] []

theorem knot : Agree SameAnswer (knot inner) (knot inner) := by
  refine (agree_eat _).bind ?_
  rintro opened _ rfl
  split
  · refine agree.operand.bind fun _ _ _ => (agree_expect _ _).bind fun _ _ _ => ?_
    refine agree.operand.bind fun _ _ _ => (agree_expect _ _).bind fun _ _ _ => ?_
    exact (agree_eat _).bind fun _ _ _ => agree_pure (.some trivial)
  · exact agree_pure .none

theorem interpolateArguments :
    Agree Anything (interpolateArguments inner) (interpolateArguments inner) :=
  (agree_expect _ _).bind fun _ _ _ => agree.operand.bind fun _ _ _ =>
    (agree_expect _ _).bind fun _ _ _ => agree.knot.many.bind fun _ _ _ =>
      (agree_expect _ _).bind fun _ _ _ => agree_pure trivial

theorem arguments?
    {name : String}
    {arguments : Parser Call}
    (found : arguments? inner name = some arguments) :
    Agree Anything arguments arguments := by
  unfold Grammar.arguments? at found
  split at found <;> cases found
  case h_1 | h_2 | h_3 => exact agree.twoArguments.bind fun _ _ _ => agree_pure trivial
  case h_4 | h_5 | h_6 | h_7 | h_8 => exact agree.oneArgument.map fun _ _ _ => trivial
  case h_9 | h_10 => exact agree.digitsArguments _
  case h_11 | h_12 | h_13 => exact agree.referenceArgument.map fun _ _ _ => trivial
  case h_14 => exact agree.oneOfArguments
  case h_15 => exact agree.interpolateArguments

theorem reservedOperand (name : String) (span further : Span) :
    Agree Anything (reservedOperand inner name span) (reservedOperand inner name further) := by
  unfold Grammar.reservedOperand
  split
  · exact agree_advance.bind fun _ _ _ => agree_pure trivial
  · split
    · exact agree.unary .not _ _
    · split
      · rename_i arguments found
        exact agree_advance.bind fun _ _ _ => (agree.arguments? found).bind fun _ _ _ =>
          (agree_spanFrom _ _).bind fun _ _ _ => agree_pure trivial
      · exact agree_failExpecting _ _ _ _

theorem parenthesized (start other : Nat) :
    Agree Anything (parenthesized inner start) (parenthesized inner other) :=
  agree_advance.bind fun _ _ _ => agree.conditional.bind fun _ _ _ =>
    (agree_expect _ _).bind fun _ _ _ => (agree_spanFrom _ _).bind fun _ _ _ =>
      agree_pure trivial

theorem primary : Agree Anything (primary inner) (primary inner) := by
  refine agree_peek.bind ?_
  rintro ⟨token, span⟩ ⟨_, further⟩ ⟨⟩
  have literal (value : Value) :
      Agree Anything (literal span value) (literal further value) :=
    agree_advance.bind fun _ _ _ => agree_pure trivial
  dsimp only
  split
  · exact agree.unary .negate _ _
  · exact agree.unary .plus _ _
  · exact agree.unary .not _ _
  · exact agree.parenthesized _ _
  · exact literal _
  · exact literal _
  · exact literal _
  · split
    · exact agree.reservedOperand _ _ _
    · exact agree.reference.bind fun _ _ _ => agree_pure trivial
  · exact agree_failExpecting _ _ _ _

theorem operandOf : Agree Anything (Grammar.operand inner) (Grammar.operand inner) :=
  agree_peek.bind fun _ _ _ => agree.primary.nested _ _

theorem branching (condition other : Expr) :
    Agree Anything (branching inner condition) (branching inner other) := by
  refine (agree_eat _).bind ?_
  rintro asked _ rfl
  split
  · have branches :
        Agree Anything
          (do
            let yes ← inner.conditional
            expect .colon .conditional
            let no ← inner.conditional
            pure (yes, no))
          (do
            let yes ← inner.conditional
            expect .colon .conditional
            let no ← inner.conditional
            pure (yes, no)) :=
      agree.conditional.bind fun _ _ _ => (agree_expect _ _).bind fun _ _ _ =>
        agree.conditional.bind fun _ _ _ => agree_pure trivial
    exact (branches.nested _ _).bind fun _ _ _ => (agree_spanFrom _ _).bind fun _ _ _ =>
      agree_pure trivial
  · exact agree_pure trivial

theorem deeper :
    Expressions.Agreeing
      ⟨Grammar.operand inner, Grammar.conditional (Grammar.operand inner) inner⟩ := by
  have outer : Expressions.Agreeing ⟨Grammar.operand inner, inner.conditional⟩ :=
    ⟨agree.operandOf, agree.conditional⟩
  exact ⟨agree.operandOf, (outer.parser .disjunction).bind fun condition other _ =>
    agree.branching condition other⟩

end Expressions.Agreeing

/-- No expression depends on what is in front of it. -/
theorem expressions_agreeing (levels : Nat) : (expressions levels).Agreeing := by
  induction levels with
  | zero =>
      have deep : Agree Anything tooDeep tooDeep :=
        agree_peek.bind fun _ _ _ => agree_fail _ _ _ _
      exact ⟨deep, deep⟩
  | succ levels inner => exact inner.deeper

/-! ## Statements and templates -/

section Statements

theorem agree_statementEnd (enclosure : Enclosure) :
    Agree Anything (statementEnd enclosure) (statementEnd enclosure) := by
  refine (agree_eat _).bind ?_
  rintro divided _ rfl
  split
  · have semicolon :
        Agree SameAnswer
          (do if ← eat .semicolon then pure (some ()) else pure none)
          (do if ← eat .semicolon then pure (some ()) else pure none) := by
      refine (agree_eat _).bind ?_
      rintro again _ rfl
      split
      · exact agree_pure (.some trivial)
      · exact agree_pure .none
    exact semicolon.many.bind fun _ _ _ => agree_pure trivial
  · refine agree_peek.bind ?_
    rintro ⟨token, span⟩ ⟨_, further⟩ ⟨⟩
    dsimp only
    split
    · exact agree_pure trivial
    · exact agree_failExpecting _ _ _ _

theorem agree_opening : Agree Anything opening opening :=
  fun _ _ alike => .results trivial ⟨congrArg (·.drop 1) alike.rest, alike.depth⟩

theorem agree_plainText : Agree Anything plainText plainText :=
  fun _ _ alike => .results trivial ⟨congrArg (·.dropWhile isText) alike.rest, alike.depth⟩

theorem agree_plainName (expectation : Expectation) :
    Agree Anything (plainName expectation) (plainName expectation) := by
  refine agree_advance.bind ?_
  rintro ⟨token, span⟩ ⟨_, further⟩ ⟨⟩
  dsimp only
  split
  · split
    · exact agree_failExpecting _ _ _ _
    · exact agree_pure trivial
  · exact agree_failExpecting _ _ _ _

theorem agree_bracket (start other : Nat) : Agree Anything (bracket start) (bracket other) := by
  refine (agree_plainName _).bind fun ⟨name, nameSpan⟩ ⟨nameThere, further⟩ _ =>
    (agree_eat _).bind ?_
  rintro indexed _ rfl
  have finished (index indexThere : Option (String × Span)) :
      Agree Anything
        (do
          expect .rightBracket .bracket
          let span ← spanFrom start
          pure (⟨name, nameSpan, index, span⟩ : Bracket))
        (do
          expect .rightBracket .bracket
          let span ← spanFrom other
          pure ⟨nameThere, further, indexThere, span⟩) :=
    (agree_expect _ _).bind fun _ _ _ => (agree_spanFrom _ _).bind fun _ _ _ =>
      agree_pure trivial
  dsimp only
  split
  · exact (agree_plainName _).bind fun _ _ _ => (agree_expect _ _).bind fun _ _ _ =>
      finished _ _
  · exact finished none none

variable {grammar : Expressions} (agree : grammar.Agreeing)

include agree

theorem agree_listItems : Agree Anything (listItems grammar) (listItems grammar) := by
  refine (agree_expect _ _).bind fun _ _ _ => (agree_eat _).bind ?_
  rintro closed _ rfl
  split
  · exact agree_pure trivial
  · refine agree_iterate Anything (fun collected other _ => ?_) trivial
    refine agree.conditional.bind fun _ _ _ => (agree_eat _).bind ?_
    rintro more _ rfl
    split
    · exact agree_pure (.again trivial)
    · exact (agree_expect _ _).bind fun _ _ _ => agree_pure (.done trivial)

theorem agree_initializerList (start other : Nat) :
    Agree SameAnswer (initializerList grammar start) (initializerList grammar other) := by
  refine (agree_listItems agree).bind fun _ _ _ => agree_peek.bind ?_
  rintro ⟨token, span⟩ ⟨_, further⟩ ⟨⟩
  dsimp only
  split
  · exact (agree_spanFrom _ _).bind fun _ _ _ => agree_pure (.some trivial)
  · exact agree_pure .none

theorem agree_fill (start other : Nat) :
    Agree Anything (fill grammar start) (fill grammar other) :=
  (agree_expect _ _).bind fun _ _ _ => agree.sum.bind fun _ _ _ =>
    (agree_expect _ _).bind fun _ _ _ => agree.conditional.bind fun _ _ _ =>
      (agree_expect _ _).bind fun _ _ _ => (agree_spanFrom _ _).bind fun _ _ _ =>
        agree_pure trivial

theorem agree_initializer : Agree Anything (initializer grammar) (initializer grammar) := by
  refine agree_peek.bind ?_
  rintro ⟨token, span⟩ ⟨_, further⟩ ⟨⟩
  have scalar :
      Agree Anything
        (do
          if ← eatWord "repeat" then
            fill grammar span.start
          else
            ofExpression <$> grammar.conditional)
        (do
          if ← eatWord "repeat" then
            fill grammar further.start
          else
            ofExpression <$> grammar.conditional) := by
    refine (agree_eatWord _).bind ?_
    rintro repeated _ rfl
    split
    · exact agree_fill agree _ _
    · exact agree.conditional.map fun _ _ _ => trivial
  have list :
      Agree SameAnswer
        (Option.join <$> attempt (initializerList grammar span.start))
        (Option.join <$> attempt (initializerList grammar further.start)) := by
    refine (agree_initializerList agree _ _).attempt.map fun answer other related => ?_
    cases related with
    | none => exact .none
    | some inside => exact inside
  dsimp only
  split
  · refine list.restoring.bind fun answer other related => ?_
    cases related with
    | none => exact scalar
    | some => exact agree_pure trivial
  · exact scalar

theorem agree_declaration (isGlobal : Bool) :
    Agree Anything (declaration grammar isGlobal) (declaration grammar isGlobal) := by
  refine agree_advance.bind ?_
  rintro ⟨token, span⟩ ⟨_, further⟩ ⟨⟩
  dsimp only
  split
  · split
    · exact agree_failExpecting _ _ _ _
    · exact (agree_expect _ _).bind fun _ _ _ => (agree_initializer agree).bind fun _ _ _ =>
        agree_pure trivial
  · exact agree_failExpecting _ _ _ _

/-- A trial of a target is given up at both cursors or at neither. -/
theorem agree_target : Agree SameAnswer (target grammar) (target grammar) := by
  refine Agree.restoring (agree.reference.attempt.bind fun answer other related => ?_)
  cases related with
  | none => exact agree_pure .none
  | some =>
      refine (agree_eat _).bind ?_
      rintro assigned _ rfl
      split
      · exact agree_pure (.some trivial)
      · exact agree_pure .none

theorem agree_assignment : Agree Anything (assignment grammar) (assignment grammar) := by
  refine (agree_target agree).bind fun answer other related => ?_
  cases related with
  | none => exact agree.conditional.map fun _ _ _ => trivial
  | some => exact (agree_initializer agree).map fun _ _ _ => trivial

/-- Whether a statement is read does not depend on what is in front of it. -/
theorem agree_statement : Agree Anything (statement grammar) (statement grammar) := by
  have expression :
      Agree Anything (Piece.expression <$> grammar.conditional)
        (Piece.expression <$> grammar.conditional) :=
    agree.conditional.map fun _ _ _ => trivial
  refine agree_peek.bind ?_
  rintro ⟨token, span⟩ ⟨_, further⟩ ⟨⟩
  dsimp only
  split
  · split
    · exact agree_advance.bind fun _ _ _ => agree_declaration agree _
    · split
      · exact expression
      · exact agree_assignment agree
  · exact expression

variable
  {choice : Span → Parser Piece}
  (agreeChoice : ∀ span further, Agree Anything (choice span) (choice further))

include agreeChoice

/-- Neither is what has been read, nor that anything has been, looked at again but in braces. -/
theorem agree_code (enclosure : Enclosure) :
    Agree Anything (code grammar choice enclosure) (code grammar choice enclosure) := by
  refine agree_iterate (fun state other => other.2 = state.2) ?_ rfl
  rintro ⟨collected, any⟩ ⟨collectedThere, _⟩ ⟨⟩
  refine agree_peek.bind ?_
  rintro ⟨token, span⟩ ⟨_, further⟩ ⟨⟩
  dsimp only
  split
  · exact agree_advance.bind fun _ _ _ => agree_pure (.again rfl)
  · split
    · split
      · exact agree_failExpecting _ _ _ _
      · exact agree_pure (.done trivial)
    · split
      · exact agree_advance.bind fun _ _ _ => (agreeChoice _ _).bind fun _ _ _ =>
          agree_pure (.again rfl)
      · exact (agree_statement agree).bind fun _ _ _ => (agree_statementEnd _).bind fun _ _ _ =>
          agree_pure (.again rfl)

theorem agree_braces : Agree SameAnswer (braces grammar choice) (braces grammar choice) := by
  refine Agree.restoring (agree_opening.bind fun _ _ _ => agree_peek.bind ?_)
  rintro ⟨token, span⟩ ⟨_, further⟩ ⟨⟩
  dsimp only
  split
  · exact agree_pure .none
  · exact (agree_code agree agreeChoice _).bind fun _ _ _ => (agree_expect _ _).bind fun _ _ _ =>
      agree_pure (.some trivial)

theorem agree_textRound :
    Agree SameAnswer (textRound grammar choice) (textRound grammar choice) := by
  refine agree_cursor.bind fun start startThere alike => ?_
  rw [alike.rest]
  split
  · exact agree_pure .none
  · exact agree_braces agree agreeChoice
  · exact agree_opening.bind fun _ _ _ => (agree_bracket _ _).bind fun _ _ _ =>
      agree_pure (.some trivial)
  · exact agree_plainText.map fun _ _ _ => .some trivial

theorem agree_textBlock :
    Agree Anything (textBlock grammar choice) (textBlock grammar choice) :=
  (agree_textRound agree agreeChoice).many.map fun _ _ _ => trivial

theorem agree_branchBody (enclosure : Enclosure) :
    Agree Anything (branchBody grammar choice enclosure) (branchBody grammar choice enclosure) := by
  refine (agree_eat _).bind ?_
  rintro closed _ rfl
  split
  · exact (agree_textBlock agree agreeChoice).bind fun _ _ _ => (agree_expect _ _).bind
      fun _ _ _ => agree_pure trivial
  · split
    · exact (agree_eatWord _).bind fun _ _ _ => agree_code agree agreeChoice _
    · exact agree_code agree agreeChoice _

theorem agree_branch : Agree Anything (branch grammar choice) (branch grammar choice) :=
  agree.conditional.bind fun _ _ _ => (agree_branchBody agree agreeChoice _).bind fun _ _ _ =>
    agree_pure trivial

theorem agree_furtherBranch :
    Agree SameAnswer (furtherBranch grammar choice) (furtherBranch grammar choice) := by
  refine (agree_eatWord _).bind ?_
  rintro another _ rfl
  split
  · exact (agree_branch agree agreeChoice).map fun _ _ _ => .some trivial
  · exact agree_pure .none

omit agree agreeChoice in
theorem agree_choiceEnd
    (branches branchesThere : List (Branch Piece))
    (otherwise otherwiseThere : Option (List Piece)) :
    Agree Anything (choiceEnd branches otherwise) (choiceEnd branchesThere otherwiseThere) := by
  refine (agree_eatWord _).bind ?_
  rintro ended _ rfl
  split
  · exact agree_pure trivial
  · exact agree_peek.bind fun _ _ _ => agree_failExpecting _ _ _ _

theorem agree_lastBranch (branches branchesThere : List (Branch Piece)) :
    Agree Anything (lastBranch grammar choice branches)
      (lastBranch grammar choice branchesThere) := by
  refine (agree_eatWord _).bind ?_
  rintro otherwise _ rfl
  split
  · have body :
        Agree Anything (some <$> branchBody grammar choice .lastBranch)
          (some <$> branchBody grammar choice .lastBranch) :=
      (agree_branchBody agree agreeChoice _).map fun _ _ _ => trivial
    exact body.bind fun _ _ _ => agree_choiceEnd _ _ _ _
  · exact agree_choiceEnd _ _ none none

theorem agree_branches : Agree Anything (branches grammar choice) (branches grammar choice) := by
  rw [branches_eq]
  exact (agree_branch agree agreeChoice).bind fun _ _ _ =>
    (agree_furtherBranch agree agreeChoice).many.bind fun _ _ _ =>
      agree_lastBranch agree agreeChoice _ _

end Statements

/-- Neither does an if block depend on what is in front of it. -/
theorem agree_choice (levels : Nat) (span further : Span) :
    Agree Anything (choice levels span) (choice levels further) := by
  induction levels generalizing span further with
  | zero => exact agree_fail _ _ _ _
  | succ levels inner =>
      exact (agree_branches (expressions_agreeing levels) inner).nested span further

end Grammar

end GcodeTemplate
