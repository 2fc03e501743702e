import GcodeTemplate.Piece.Grammar
import GcodeTemplate.Proofs.Levels
import GcodeTemplate.Proofs.Lexing

/-!
# Reading goes forward and gives back what it spends

Whatever is read, what is left behind the cursor is an end of what was there, and
the units of nesting that were spent in between are given back.  An operator of a
chain spends a unit that is given back only at the end of the chain, so for the
loop of a chain both are said together with the units that the chain has spent.
-/

namespace GcodeTemplate

/-- A cursor from which another one is reached without spending nesting for good. -/
structure Cursor.Precedes (cursor moved : Cursor) : Prop where
  rest : moved.rest <:+ cursor.rest
  depth : moved.depth = cursor.depth

namespace Parser

open Text

variable {α : Type}

instance : IsPreorder Cursor Cursor.Precedes where
  refl cursor := ⟨List.suffix_refl cursor.rest, rfl⟩
  trans _ _ _ first second :=
    ⟨second.rest.trans first.rest, second.depth.trans first.depth⟩

theorem lexemeAt_rest_isSuffix
    {cursor : Cursor}
    {lexeme : Lexeme}
    {span : Span}
    (found : lexemeAt cursor = .ok (lexeme, span)) :
    lexeme.rest <:+ cursor.rest :=
  (Lexeme.rest_isSuffix (lexemeAt_eq_ok found).1).trans (List.dropWhile_suffix _)

section Precedes

open Cursor (Precedes)

theorem keeps_advance : Keeps Precedes advance := by
  rintro cursor ⟨token, span⟩ moved run
  rcases advance_eq_ok run with ⟨lexeme, found, _, rfl⟩
  exact ⟨lexemeAt_rest_isSuffix found, rfl⟩

theorem keeps_eatIf (test : Token → Bool) : Keeps Precedes (eatIf test) := by
  refine keeps_peek.bind fun ⟨token, span⟩ => ?_
  dsimp only
  split
  · exact keeps_advance.bind fun _ => keeps_pure true
  · exact keeps_pure false

theorem keeps_eat (symbol : Symbol) : Keeps Precedes (eat symbol) :=
  keeps_eatIf _

theorem keeps_eatWord (name : String) : Keeps Precedes (eatWord name) :=
  keeps_eatIf _

theorem keeps_expect (symbol : Symbol) (expectation : Expectation) :
    Keeps Precedes (expect symbol expectation) := by
  refine keeps_peek.bind fun ⟨token, span⟩ => ?_
  dsimp only
  split
  · exact keeps_advance.bind fun _ => keeps_pure ()
  · exact keeps_failExpecting expectation span

/-- What is spent on a level of nesting is given back. -/
theorem Keeps.nested
    {parser : Parser α}
    (keeps : Keeps Precedes parser)
    (span : Span) :
    Keeps Precedes (nested span parser) := by
  intro cursor a moved run
  rcases nested_eq_ok run with ⟨_, stop, read, rfl⟩
  have inside := keeps read
  exact ⟨inside.rest, by simp [inside.depth]⟩

end Precedes

/-- Reading a token other than the end of the input goes forward. -/
theorem advance_length_lt
    {cursor moved : Cursor}
    {lexeme : Lexeme}
    {span : Span}
    {read : Token × Span}
    (found : lexemeAt cursor = .ok (lexeme, span))
    (advanced : advance cursor = .ok (read, moved))
    (more : lexeme.token ≠ .endOfInput) :
    moved.rest.length < cursor.rest.length := by
  cases (advance_of_lexeme found).symm.trans advanced
  have lexed := (lexemeAt_eq_ok found).1
  have blanks := (List.dropWhile_suffix isAsciiBlank (l := cursor.rest)).length_le
  have forward : lexeme.rest.length < (cursor.rest.dropWhile isAsciiBlank).length := by
    apply Lexeme.rest_length_lt lexed
    intro empty
    rw [empty] at lexed
    cases lexed
    exact more rfl
  exact Nat.lt_of_lt_of_le forward blanks

end Parser

namespace Grammar

open GcodeTemplate.Parser Text
open Cursor (Precedes)

/--
A round of the loop of a chain goes forward, and the cursor is as deep as the
units that the chain has spent tell.
-/
def Accounts (step : Expr × Nat → Parser (Step (Expr × Nat) Expr)) : Prop :=
  ∀ ⦃left spent cursor answer moved⦄,
    step (left, spent) cursor = .ok (answer, moved) →
      match answer with
      | .again (_, more) =>
          moved.rest <:+ cursor.rest ∧ moved.rest.length < cursor.rest.length ∧
            moved.depth + spent = cursor.depth + more
      | .done _ => moved.rest <:+ cursor.rest ∧ moved.depth = cursor.depth - spent

theorem Accounts.reads
    {step : Expr × Nat → Parser (Step (Expr × Nat) Expr)}
    (accounts : Accounts step) :
    Reads step := by
  rintro ⟨left, spent⟩ cursor ⟨next, more⟩ moved run
  exact (accounts run).2.1

/-- At the end of a chain all its units have been given back. -/
theorem Accounts.keeps
    {step : Expr × Nat → Parser (Step (Expr × Nat) Expr)}
    (accounts : Accounts step)
    (first : Expr) :
    Keeps Precedes (iterate step (first, 0)) := by
  intro start b stop run
  refine iterate_invariant
    (fun (state : Expr × Nat) cursor =>
      cursor.rest <:+ start.rest ∧ cursor.depth = start.depth + state.2)
    (fun _ moved => Precedes start moved)
    ?_ ?_ ⟨List.suffix_refl _, rfl⟩ run
  · rintro ⟨left, spent⟩ cursor ⟨next, more⟩ moved ⟨suffix, depth⟩ stepped
    rcases accounts stepped with ⟨shorter, _, spentMore⟩
    exact ⟨shorter.trans suffix, by omega⟩
  · rintro ⟨left, spent⟩ cursor result moved ⟨suffix, depth⟩ stepped
    rcases accounts stepped with ⟨shorter, released⟩
    exact ⟨shorter.trans suffix, by omega⟩

theorem keeps_regularExpression : Keeps Precedes regularExpression := by
  intro cursor pattern moved run
  rcases regularExpression_eq_ok run with ⟨behind, written, rest, start, found, _, rfl⟩
  have slash : '/' :: behind <:+ cursor.rest :=
    start ▸ List.dropWhile_suffix _
  have inside : rest <:+ '/' :: behind := by
    rw [← Pattern.upToSlash_text found]
    exact ⟨'/' :: written ++ ['/'], by simp⟩
  exact ⟨inside.trans slash, rfl⟩

/-- Of an operand that keeps its depth a chain is made that accounts for its units. -/
theorem Level.accounts_step
    (level : Level)
    {operand : Parser Expr}
    (keeps : Keeps Precedes operand) :
    Accounts (level.step operand) := by
  intro left spent cursor answer moved run
  rcases level.step_eq_ok run with ⟨lexeme, span, found, link | link | link⟩
  · rcases link with ⟨operator, isOperator, run⟩
    rcases chainLink_eq_ok run with ⟨⟨token, _⟩, next, right, advanced, _, read, rfl⟩
    have shorter : next.rest.length < cursor.rest.length := by
      apply advance_length_lt found advanced
      intro isEnd
      simp [isEnd] at isOperator
    have forward := keeps_advance advanced
    have inside := keeps read
    refine ⟨inside.rest.trans forward.rest, Nat.lt_of_le_of_lt inside.rest.length_le shorter, ?_⟩
    have deeper : moved.depth = next.depth + 1 := inside.depth
    have same := forward.depth
    omega
  · rcases link with ⟨negated, isMatch, run⟩
    rcases matchLink_eq_ok run with ⟨⟨token, _⟩, next, pattern, advanced, read, rfl⟩
    have shorter : next.rest.length < cursor.rest.length := by
      apply advance_length_lt found advanced
      intro isEnd
      simp [isEnd] at isMatch
    have forward := keeps_advance advanced
    have inside := keeps_regularExpression read
    refine ⟨inside.rest.trans forward.rest, Nat.lt_of_le_of_lt inside.rest.length_le shorter, ?_⟩
    have deeper := inside.depth
    have same := forward.depth
    omega
  · rcases link with ⟨_, _, run⟩
    cases run
    exact ⟨List.suffix_refl _, rfl⟩

theorem Level.keeps_links
    (level : Level)
    {operand : Parser Expr}
    (keeps : Keeps Precedes operand) :
    Keeps Precedes (level.links operand) :=
  keeps.bind fun first => (level.accounts_step keeps).keeps first

/-- The parsers of expressions at one level of nesting keep a relation. -/
structure Expressions.Keep (relation : Cursor → Cursor → Prop) (grammar : Expressions) : Prop where
  operand : Keeps relation grammar.operand
  conditional : Keeps relation grammar.conditional

namespace Expressions.Keep

variable {inner : Expressions} (keep : inner.Keep Precedes)

include keep

theorem parser (level : Level) : Keeps Precedes (level.parser inner) := by
  induction level using Level.tightening with
  | conditional => exact keep.conditional
  | operand => exact keep.operand
  | chain level isChain tighter =>
      rw [level.parser_eq_links inner isChain]
      exact level.keeps_links tighter

theorem sum : Keeps Precedes (sum inner.operand) :=
  keep.parser .sum

theorem reference : Keeps Precedes (reference inner) := by
  refine Keeps.bind keeps_peek fun ⟨token, span⟩ => ?_
  dsimp only
  split
  · rename_i name
    split
    · exact keeps_failExpecting _ _
    · refine keeps_advance.bind fun _ => (keeps_eat _).bind fun indexed => ?_
      have finished (index : Option Expr) :
          Keeps Precedes (do
            let span' ← spanFrom span.start
            pure (⟨name, span, index, span'⟩ : Reference Expr)) :=
        Keeps.bind (keeps_spanFrom _) fun _ => keeps_pure _
      split
      · exact keep.sum.bind fun _ => (keeps_expect _ _).bind fun _ => finished _
      · exact finished none
  · exact keeps_failExpecting _ _

theorem unary (operator : UnaryOperator) (start : Nat) :
    Keeps Precedes (unary inner operator start) :=
  keeps_advance.bind fun _ => keep.operand.bind fun _ =>
    Keeps.bind (keeps_spanFrom _) fun _ => keeps_pure _

theorem oneArgument : Keeps Precedes (oneArgument inner) :=
  (keeps_expect _ _).bind fun _ => keep.conditional.bind fun _ =>
    (keeps_expect _ _).bind fun _ => keeps_pure _

theorem twoArguments : Keeps Precedes (twoArguments inner) :=
  (keeps_expect _ _).bind fun _ => keep.conditional.bind fun _ =>
    (keeps_expect _ _).bind fun _ => keep.conditional.bind fun _ =>
      (keeps_expect _ _).bind fun _ => keeps_pure _

theorem referenceArgument : Keeps Precedes (referenceArgument inner) :=
  (keeps_expect _ _).bind fun _ => keep.reference.bind fun _ =>
    (keeps_expect _ _).bind fun _ => keeps_pure _

theorem digitsArguments (zeros : Bool) : Keeps Precedes (digitsArguments inner zeros) := by
  refine (keeps_expect _ _).bind fun _ => keep.conditional.bind fun value => ?_
  refine (keeps_expect _ _).bind fun _ => keep.conditional.bind fun width => ?_
  refine (keeps_eat _).bind fun closed => ?_
  split
  · exact keeps_pure _
  · refine (keeps_eat _).bind fun more => ?_
    split
    · exact keep.conditional.bind fun _ => (keeps_expect _ _).bind fun _ => keeps_pure _
    · exact Keeps.bind keeps_peek fun _ => keeps_failExpecting _ _

theorem candidate : Keeps Precedes (candidate inner) := by
  refine Keeps.bind keeps_peek fun ⟨token, span⟩ => ?_
  dsimp only
  split
  · exact keeps_pure _
  · have finished (candidate : Candidate Expr) :
        Keeps Precedes (do
          let _ ← eat .comma
          pure (some candidate)) :=
      (keeps_eat _).bind fun _ => keeps_pure _
    split
    · exact keeps_advance.bind fun _ => keep.operand.bind fun _ => finished _
    · split
      · exact keeps_regularExpression.bind fun _ => finished _
      · exact keep.operand.bind fun _ => finished _

theorem oneOfArguments : Keeps Precedes (oneOfArguments inner) := by
  refine (keeps_expect _ _).bind fun _ => keep.operand.bind fun subject => ?_
  refine (keeps_eat _).bind fun more => ?_
  have finished (candidates : List (Candidate Expr)) :
      Keeps Precedes (do
        expect .rightParenthesis .patternList
        pure (Call.oneOf subject candidates)) :=
    (keeps_expect _ _).bind fun _ => keeps_pure _
  dsimp only
  split
  · exact keep.candidate.many.bind finished
  · exact finished []

theorem knot : Keeps Precedes (knot inner) := by
  refine (keeps_eat _).bind fun opened => ?_
  split
  · refine keep.operand.bind fun abscissa => (keeps_expect _ _).bind fun _ => ?_
    refine keep.operand.bind fun ordinate => (keeps_expect _ _).bind fun _ => ?_
    exact (keeps_eat _).bind fun _ => keeps_pure _
  · exact keeps_pure _

theorem interpolateArguments : Keeps Precedes (interpolateArguments inner) :=
  (keeps_expect _ _).bind fun _ => keep.operand.bind fun _ =>
    (keeps_expect _ _).bind fun _ => keep.knot.many.bind fun _ =>
      (keeps_expect _ _).bind fun _ => keeps_pure _

theorem arguments?
    {name : String}
    {arguments : Parser Call}
    (found : arguments? inner name = some arguments) :
    Keeps Precedes arguments := by
  unfold Grammar.arguments? at found
  split at found <;> cases found
  case h_1 | h_2 | h_3 => exact keep.twoArguments.bind fun _ => keeps_pure _
  case h_4 | h_5 | h_6 | h_7 | h_8 => exact keep.oneArgument.map _
  case h_9 | h_10 => exact keep.digitsArguments _
  case h_11 | h_12 | h_13 => exact keep.referenceArgument.map _
  case h_14 => exact keep.oneOfArguments
  case h_15 => exact keep.interpolateArguments

theorem reservedOperand (name : String) (span : Span) :
    Keeps Precedes (reservedOperand inner name span) := by
  unfold Grammar.reservedOperand
  split
  · exact keeps_advance.bind fun _ => keeps_pure _
  · split
    · exact keep.unary .not span.start
    · split
      · rename_i arguments found
        exact keeps_advance.bind fun _ => (keep.arguments? found).bind fun _ =>
          Keeps.bind (keeps_spanFrom _) fun _ => keeps_pure _
      · exact keeps_failExpecting _ _

theorem parenthesized (start : Nat) : Keeps Precedes (parenthesized inner start) :=
  keeps_advance.bind fun _ => keep.conditional.bind fun _ =>
    (keeps_expect _ _).bind fun _ => Keeps.bind (keeps_spanFrom _) fun _ => keeps_pure _

theorem primary : Keeps Precedes (primary inner) := by
  refine Keeps.bind keeps_peek fun ⟨token, span⟩ => ?_
  dsimp only
  split
  · exact keep.unary .negate _
  · exact keep.unary .plus _
  · exact keep.unary .not _
  · exact keep.parenthesized _
  · exact keeps_advance.bind fun _ => keeps_pure _
  · exact keeps_advance.bind fun _ => keeps_pure _
  · exact keeps_advance.bind fun _ => keeps_pure _
  · split
    · exact keep.reservedOperand _ _
    · exact keep.reference.bind fun _ => keeps_pure _
  · exact keeps_failExpecting _ _

theorem operandOf : Keeps Precedes (Grammar.operand inner) :=
  Keeps.bind keeps_peek fun _ => keep.primary.nested _

theorem branching (condition : Expr) : Keeps Precedes (branching inner condition) := by
  refine (keeps_eat _).bind fun asked => ?_
  split
  · refine Keeps.bind (Keeps.nested ?_ _) fun _ =>
      Keeps.bind (keeps_spanFrom _) fun _ => keeps_pure _
    exact keep.conditional.bind fun _ => (keeps_expect _ _).bind fun _ =>
      keep.conditional.bind fun _ => keeps_pure _
  · exact keeps_pure _

omit keep in
theorem conditionalOf
    {operand : Parser Expr}
    (operandKeeps : Keeps Precedes operand)
    (keep : inner.Keep Precedes) :
    Keeps Precedes (Grammar.conditional operand inner) := by
  have outer : Expressions.Keep Precedes ⟨operand, inner.conditional⟩ :=
    ⟨operandKeeps, keep.conditional⟩
  have disjunction : Keeps Precedes (Grammar.disjunction operand) :=
    outer.parser .disjunction
  exact disjunction.bind keep.branching

end Expressions.Keep

/-- Expressions give back the nesting that they spend, whatever is left of it. -/
theorem expressions_keep (levels : Nat) : (expressions levels).Keep Precedes := by
  induction levels with
  | zero =>
      have deep : Keeps Precedes tooDeep := Keeps.bind keeps_peek fun _ => keeps_fail _ _
      exact ⟨deep, deep⟩
  | succ levels inner =>
      exact ⟨inner.operandOf, Expressions.Keep.conditionalOf inner.operandOf inner⟩

section IfBlocks

variable (grammar : Expressions) (choice : Span → Parser Piece)

/-- Another branch of an if block, if its word comes next. -/
def furtherBranch : Parser (Option (Branch Piece)) := do
  if ← eatWord "elsif" then
    some <$> branch grammar choice
  else
    pure none

/-- The end of an if block behind all its branches. -/
def choiceEnd (branches : List (Branch Piece)) (otherwise : Option (List Piece)) :
    Parser Piece := do
  if ← eatWord "endif" then
    pure (.choose branches otherwise)
  else
    let (_, span) ← peek
    failExpecting .choice span

/-- What stands behind the branches with conditions. -/
def lastBranch (branches : List (Branch Piece)) : Parser Piece := do
  if ← eatWord "else" then
    some <$> branchBody grammar choice .lastBranch >>= choiceEnd branches
  else
    choiceEnd branches none

theorem branches_eq :
    branches grammar choice = (do
      let first ← branch grammar choice
      let others ← many (furtherBranch grammar choice)
      lastBranch grammar choice (first :: others)) :=
  rfl

end IfBlocks

section Statements

variable {grammar : Expressions} (keep : grammar.Keep Precedes)

theorem keeps_statementEnd (enclosure : Enclosure) :
    Keeps Precedes (statementEnd enclosure) := by
  refine (keeps_eat _).bind fun divided => ?_
  split
  · refine Keeps.bind (Keeps.many ?_) fun _ => keeps_pure _
    refine (keeps_eat _).bind fun again => ?_
    split
    · exact keeps_pure _
    · exact keeps_pure _
  · refine Keeps.bind keeps_peek fun ⟨token, span⟩ => ?_
    dsimp only
    split
    · exact keeps_pure _
    · exact keeps_failExpecting _ _

theorem keeps_plainName (expectation : Expectation) :
    Keeps Precedes (plainName expectation) := by
  refine keeps_advance.bind fun ⟨token, span⟩ => ?_
  dsimp only
  split
  · split
    · exact keeps_failExpecting _ _
    · exact keeps_pure _
  · exact keeps_failExpecting _ _

theorem keeps_bracket (start : Nat) : Keeps Precedes (bracket start) := by
  refine (keeps_plainName _).bind fun ⟨name, nameSpan⟩ => (keeps_eat _).bind fun indexed => ?_
  have finished (index : Option (String × Span)) :
      Keeps Precedes (do
        expect .rightBracket .bracket
        let span ← spanFrom start
        pure (⟨name, nameSpan, index, span⟩ : Bracket)) :=
    (keeps_expect _ _).bind fun _ => Keeps.bind (keeps_spanFrom _) fun _ => keeps_pure _
  dsimp only
  split
  · exact (keeps_plainName _).bind fun index => (keeps_expect _ _).bind fun _ => finished _
  · exact finished none

theorem keeps_opening : Keeps Precedes opening := by
  rintro cursor _ _ ⟨⟩
  exact ⟨List.drop_suffix _ _, rfl⟩

theorem keeps_plainText : Keeps Precedes plainText := by
  rintro cursor _ _ ⟨⟩
  exact ⟨List.dropWhile_suffix _, rfl⟩

include keep

theorem keeps_listItems : Keeps Precedes (listItems grammar) := by
  refine (keeps_expect _ _).bind fun _ => (keeps_eat _).bind fun closed => ?_
  split
  · exact keeps_pure _
  · refine Keeps.iterate (fun collected => ?_) _
    refine keep.conditional.bind fun item => (keeps_eat _).bind fun more => ?_
    split
    · exact keeps_pure _
    · exact (keeps_expect _ _).bind fun _ => keeps_pure _

theorem keeps_initializerList (start : Nat) :
    Keeps Precedes (initializerList grammar start) := by
  refine (keeps_listItems keep).bind fun items => Keeps.bind keeps_peek fun ⟨token, _⟩ => ?_
  dsimp only
  split
  · exact Keeps.bind (keeps_spanFrom _) fun _ => keeps_pure _
  · exact keeps_pure _

theorem keeps_fill (start : Nat) : Keeps Precedes (fill grammar start) :=
  (keeps_expect _ _).bind fun _ => keep.sum.bind fun _ =>
    (keeps_expect _ _).bind fun _ => keep.conditional.bind fun _ =>
      (keeps_expect _ _).bind fun _ => Keeps.bind (keeps_spanFrom _) fun _ => keeps_pure _

theorem keeps_initializer : Keeps Precedes (initializer grammar) := by
  refine Keeps.bind keeps_peek fun ⟨token, span⟩ => ?_
  have scalar :
      Keeps Precedes (do
        if ← eatWord "repeat" then
          fill grammar span.start
        else
          ofExpression <$> grammar.conditional) := by
    refine (keeps_eatWord _).bind fun repeated => ?_
    split
    · exact keeps_fill keep _
    · exact keep.conditional.map _
  dsimp only
  split
  · refine ((keeps_initializerList keep _).attempt.map _).restoring.bind fun list => ?_
    cases list with
    | none => exact scalar
    | some list => exact keeps_pure _
  · exact scalar

theorem keeps_declaration (isGlobal : Bool) :
    Keeps Precedes (declaration grammar isGlobal) := by
  refine keeps_advance.bind fun ⟨token, span⟩ => ?_
  dsimp only
  split
  · split
    · exact keeps_failExpecting _ _
    · exact (keeps_expect _ _).bind fun _ => (keeps_initializer keep).bind fun _ => keeps_pure _
  · exact keeps_failExpecting _ _

theorem keeps_target : Keeps Precedes (target grammar) := by
  refine Keeps.restoring (keep.reference.attempt.bind fun reference => ?_)
  split
  · exact keeps_pure _
  · refine (keeps_eat _).bind fun assigned => ?_
    split
    · exact keeps_pure _
    · exact keeps_pure _

theorem keeps_assignment : Keeps Precedes (assignment grammar) := by
  refine (keeps_target keep).bind fun target => ?_
  split
  · exact (keeps_initializer keep).map _
  · exact keep.conditional.map _

theorem keeps_statement : Keeps Precedes (statement grammar) := by
  refine Keeps.bind keeps_peek fun ⟨token, span⟩ => ?_
  dsimp only
  split
  · split
    · exact keeps_advance.bind fun _ => keeps_declaration keep _
    · split
      · exact keep.conditional.map _
      · exact keeps_assignment keep
  · exact keep.conditional.map _

variable {choice : Span → Parser Piece} (keepChoice : ∀ span, Keeps Precedes (choice span))

include keepChoice

theorem keeps_codeRound (enclosure : Enclosure) (state : List Piece × Bool) :
    Keeps Precedes (codeRound grammar choice enclosure state) := by
  rcases state with ⟨collected, any⟩
  refine Keeps.bind keeps_peek fun ⟨token, span⟩ => ?_
  dsimp only
  split
  · exact keeps_advance.bind fun _ => keeps_pure _
  · split
    · split
      · exact keeps_failExpecting _ _
      · exact keeps_pure _
    · split
      · exact keeps_advance.bind fun _ => (keepChoice _).bind fun _ => keeps_pure _
      · exact (keeps_statement keep).bind fun _ => (keeps_statementEnd _).bind fun _ =>
          keeps_pure _

theorem keeps_code (enclosure : Enclosure) :
    Keeps Precedes (code grammar choice enclosure) :=
  Keeps.iterate (keeps_codeRound keep keepChoice enclosure) _

theorem keeps_braces : Keeps Precedes (braces grammar choice) := by
  refine Keeps.restoring (keeps_opening.bind fun _ => Keeps.bind keeps_peek fun ⟨token, _⟩ => ?_)
  dsimp only
  split
  · exact keeps_pure _
  · exact (keeps_code keep keepChoice _).bind fun _ => (keeps_expect _ _).bind fun _ =>
      keeps_pure _

theorem keeps_textRound : Keeps Precedes (textRound grammar choice) := by
  refine Keeps.bind keeps_cursor fun start => ?_
  split
  · exact keeps_pure _
  · exact keeps_braces keep keepChoice
  · exact keeps_opening.bind fun _ => (keeps_bracket _).bind fun _ => keeps_pure _
  · exact keeps_plainText.map _

theorem keeps_textBlock : Keeps Precedes (textBlock grammar choice) :=
  (keeps_textRound keep keepChoice).many.map _

theorem keeps_branchBody (enclosure : Enclosure) :
    Keeps Precedes (branchBody grammar choice enclosure) := by
  refine (keeps_eat _).bind fun closed => ?_
  split
  · exact (keeps_textBlock keep keepChoice).bind fun _ => (keeps_expect _ _).bind fun _ =>
      keeps_pure _
  · split
    · exact (keeps_eatWord _).bind fun _ => keeps_code keep keepChoice _
    · exact keeps_code keep keepChoice _

theorem keeps_branch : Keeps Precedes (branch grammar choice) :=
  keep.conditional.bind fun _ => (keeps_branchBody keep keepChoice _).bind fun _ => keeps_pure _

theorem keeps_furtherBranch : Keeps Precedes (furtherBranch grammar choice) := by
  refine (keeps_eatWord _).bind fun another => ?_
  split
  · exact (keeps_branch keep keepChoice).map _
  · exact keeps_pure _

omit keep keepChoice in
theorem keeps_choiceEnd (branches : List (Branch Piece)) (otherwise : Option (List Piece)) :
    Keeps Precedes (choiceEnd branches otherwise) := by
  refine (keeps_eatWord _).bind fun ended => ?_
  split
  · exact keeps_pure _
  · exact Keeps.bind keeps_peek fun _ => keeps_failExpecting _ _

theorem keeps_lastBranch (branches : List (Branch Piece)) :
    Keeps Precedes (lastBranch grammar choice branches) := by
  refine (keeps_eatWord _).bind fun otherwise => ?_
  split
  · exact ((keeps_branchBody keep keepChoice _).map some).bind (keeps_choiceEnd branches)
  · exact keeps_choiceEnd branches none

theorem keeps_branches : Keeps Precedes (branches grammar choice) := by
  rw [branches_eq]
  apply (keeps_branch keep keepChoice).bind
  intro first
  apply (keeps_furtherBranch keep keepChoice).many.bind
  intro others
  exact keeps_lastBranch keep keepChoice (first :: others)

end Statements

/-- So do if blocks. -/
theorem keeps_choice (levels : Nat) (span : Span) : Keeps Precedes (choice levels span) := by
  induction levels generalizing span with
  | zero => exact keeps_fail _ _
  | succ levels inner =>
      exact (keeps_branches (expressions_keep levels) inner).nested span

end Grammar

section Sources

open Grammar GcodeTemplate.Parser

variable {source : String} {pieces : List Piece} {stop : Cursor}

/-- A source is a template if a text block is all there is. -/
theorem Piece.parse_of_template
    (read : template maximalNesting (.start source) = .ok (pieces, stop))
    (ends : stop.rest = []) :
    Piece.parse source = .ok pieces := by
  rw [Piece.parse, bind_of_ok read]
  simp [cursor, bind, ends, Except.map]

theorem Piece.parse_eq_ok (parsed : Piece.parse source = .ok pieces) :
    ∃ stop, template maximalNesting (.start source) = .ok (pieces, stop) ∧ stop.rest = [] := by
  cases outcome : template maximalNesting (.start source) with
  | error fault =>
      rw [Piece.parse, bind_of_error outcome] at parsed
      nomatch parsed
  | ok answer =>
      rcases answer with ⟨read, stop⟩
      rw [Piece.parse, bind_of_ok outcome] at parsed
      cases ends : stop.rest with
      | nil =>
          simp only [cursor, bind, ends, Except.map] at parsed
          cases parsed
          exact ⟨stop, rfl, ends⟩
      | cons c rest =>
          simp only [cursor, bind, ends, Except.map] at parsed
          nomatch parsed

end Sources

end GcodeTemplate
