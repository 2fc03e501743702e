import GcodeTemplate.Proofs.Nesting

/-!
# The limit of nesting

The tree of every source that is accepted has a height below one limit if the
steps from a match to its subject are not counted.  If they are, there is no limit:
a string with any number of matches behind it is accepted, and each match is one
node higher than the one in front of it.
-/

namespace GcodeTemplate

theorem Reference.height_of_reference?
    {expr : Expr}
    {reference : Reference Expr}
    (isReference : expr.reference? = some reference)
    (weight : Nat) :
    reference.height weight ≤ expr.height weight := by
  cases expr with
  | read span found =>
      cases isReference
      exact Nat.le_succ _
  | _ => nomatch isReference

namespace Grammar

open GcodeTemplate.Parser

/-- The height of a piece, given the height of the expressions one level deeper. -/
def pieceHeight (bound : Nat) : Nat :=
  bound + maximalDepth * 2 + 1

section Statements

variable {bound : Nat} {grammar : Expressions} (bounded : grammar.Bound bound)

include bounded

theorem yields_listItems :
    Yields (fun items => ∀ item ∈ items, item.height 0 ≤ bound) (listItems grammar) := by
  refine .after fun _ => .after fun closed => ?_
  split
  · exact yields_pure (by simp)
  · refine Yields.iterate (fun collected => ∀ item ∈ collected, item.height 0 ≤ bound)
      (fun collected each => ?_) (by simp)
    refine bounded.conditional.bind fun item high => .after fun more => ?_
    split
    · exact yields_pure (by simpa using ⟨high, each⟩)
    · exact .after fun _ => yields_pure (by simpa [or_imp, forall_and] using ⟨each, high⟩)

theorem yields_initializerList (start : Nat) :
    Yields (fun answer => ∀ list ∈ answer, list.height 0 ≤ bound + maximalDepth * 2)
      (initializerList grammar start) := by
  refine (yields_listItems bounded).bind fun items each => .after fun ⟨token, _⟩ => ?_
  dsimp only
  split
  · refine .after fun span => yields_pure ?_
    simpa [Initializer.height] using Nat.le_add_right_of_le (Expr.maxHeight_le each)
  · exact yields_pure (by simp)

theorem yields_fill (start : Nat) :
    Yields (fun initializer => initializer.height 0 ≤ bound + maximalDepth * 2)
      (fill grammar start) :=
  .after fun _ => bounded.sum.bind fun _ count => .after fun _ =>
    bounded.conditional.bind fun _ value => .after fun _ => .after fun _ =>
      yields_pure (Nat.max_le.mpr ⟨count, Nat.le_add_right_of_le value⟩)

theorem yields_initializer :
    Yields (fun initializer => initializer.height 0 ≤ bound + maximalDepth * 2)
      (initializer grammar) := by
  have ofExpression :
      Yields (fun initializer => initializer.height 0 ≤ bound + maximalDepth * 2)
        (ofExpression <$> grammar.conditional) := by
    refine bounded.conditional.map fun expr high => Nat.le_add_right_of_le ?_
    unfold Grammar.ofExpression
    split
    · rename_i reference found
      exact Nat.le_trans (Reference.height_of_reference? found 0) high
    · exact high
  refine .after fun ⟨token, span⟩ => ?_
  have scalar :
      Yields (fun initializer => initializer.height 0 ≤ bound + maximalDepth * 2) (do
        if ← eatWord "repeat" then
          fill grammar span.start
        else
          Grammar.ofExpression <$> grammar.conditional) := by
    refine .after fun repeated => ?_
    split
    · exact yields_fill bounded _
    · exact ofExpression
  have list :
      Yields (fun answer => ∀ list ∈ answer, list.height 0 ≤ bound + maximalDepth * 2)
        (Option.join <$> attempt (initializerList grammar span.start)) := by
    refine (yields_initializerList bounded _).attempt.map fun answer high => ?_
    cases answer with
    | none => simp
    | some list => exact high list rfl
  dsimp only
  split
  · refine list.restoring.bind fun answer high => ?_
    cases answer with
    | none => exact scalar
    | some list => exact yields_pure (high list rfl)
  · exact scalar

theorem yields_declaration (isGlobal : Bool) :
    Yields (fun piece => piece.height 0 ≤ pieceHeight bound)
      (declaration grammar isGlobal) := by
  refine .after fun ⟨token, span⟩ => ?_
  dsimp only
  split
  · split
    · exact yields_failExpecting _ _
    · exact .after fun _ => (yields_initializer bounded).bind fun _ high =>
        yields_pure (Nat.add_le_add_right high 1)
  · exact yields_failExpecting _ _

theorem yields_target :
    Yields (fun answer => ∀ target ∈ answer, target.height 0 ≤ bound + maximalDepth * 2)
      (target grammar) := by
  refine Yields.restoring (bounded.reference.attempt.bind fun found high => ?_)
  split
  · exact yields_pure (by simp)
  · refine .after fun assigned => ?_
    split
    · exact yields_pure high
    · exact yields_pure (by simp)

theorem yields_expression :
    Yields (fun piece => piece.height 0 ≤ pieceHeight bound)
      (Piece.expression <$> grammar.conditional) :=
  bounded.conditional.map fun _ high =>
    Nat.add_le_add_right (Nat.le_add_right_of_le high) 1

theorem yields_assignment :
    Yields (fun piece => piece.height 0 ≤ pieceHeight bound) (assignment grammar) := by
  refine (yields_target bounded).bind fun answer targetBounded => ?_
  split
  · rename_i target
    refine (yields_initializer bounded).map fun initializer high => ?_
    exact Nat.add_le_add_right (Nat.max_le.mpr ⟨targetBounded target rfl, high⟩) 1
  · exact yields_expression bounded

theorem yields_statement :
    Yields (fun piece => piece.height 0 ≤ pieceHeight bound) (statement grammar) := by
  refine .after fun ⟨token, span⟩ => ?_
  dsimp only
  split
  · split
    · exact .after fun _ => yields_declaration bounded _
    · split
      · exact yields_expression bounded
      · exact yields_assignment bounded
  · exact yields_expression bounded

variable
  {choice : Span → Parser Piece}
  (choiceBounded : ∀ span,
    Yields (fun piece => piece.height 0 ≤ pieceHeight bound) (choice span))

include choiceBounded

theorem yields_code (enclosure : Enclosure) :
    Yields (fun pieces => ∀ piece ∈ pieces, piece.height 0 ≤ pieceHeight bound)
      (code grammar choice enclosure) := by
  refine Yields.iterate
    (fun state => ∀ piece ∈ state.1, piece.height 0 ≤ pieceHeight bound)
    (fun ⟨collected, any⟩ each => ?_) (by simp)
  refine .after fun ⟨token, span⟩ => ?_
  dsimp only
  split
  · exact .after fun _ => yields_pure each
  · split
    · split
      · exact yields_failExpecting _ _
      · exact yields_pure (by simpa using each)
    · split
      · exact .after fun _ => (choiceBounded _).bind fun _ high =>
          yields_pure (by simpa using ⟨high, each⟩)
      · exact (yields_statement bounded).bind fun _ high => .after fun _ =>
          yields_pure (by simpa using ⟨high, each⟩)

theorem yields_braces :
    Yields (fun answer => ∀ pieces ∈ answer, ∀ piece ∈ pieces,
      piece.height 0 ≤ pieceHeight bound) (braces grammar choice) := by
  refine Yields.restoring (.after fun _ => .after fun ⟨token, _⟩ => ?_)
  dsimp only
  split
  · exact yields_pure (by simp)
  · exact (yields_code bounded choiceBounded _).bind fun _ each => .after fun _ =>
      yields_pure (by simpa using each)

theorem yields_textRound :
    Yields (fun answer => ∀ pieces ∈ answer, ∀ piece ∈ pieces,
      piece.height 0 ≤ pieceHeight bound) (textRound grammar choice) := by
  have low : 1 ≤ pieceHeight bound :=
    Nat.le_add_left _ _
  refine .after fun start => ?_
  split
  · exact yields_pure (by simp)
  · exact yields_braces bounded choiceBounded
  · exact .after fun _ => .after fun _ => yields_pure (by simpa [Piece.height] using low)
  · intro cursor answer moved run
    rcases map_eq_ok run with ⟨piece, read, rfl⟩
    cases read
    simpa [Piece.height] using low

theorem yields_textBlock :
    Yields (fun pieces => ∀ piece ∈ pieces, piece.height 0 ≤ pieceHeight bound)
      (textBlock grammar choice) := by
  refine (yields_textRound bounded choiceBounded).many.map fun collected each => ?_
  intro piece member
  rcases List.mem_flatten.mp member with ⟨pieces, among, inside⟩
  exact each pieces among piece inside

theorem yields_branchBody (enclosure : Enclosure) :
    Yields (fun pieces => ∀ piece ∈ pieces, piece.height 0 ≤ pieceHeight bound)
      (branchBody grammar choice enclosure) := by
  refine .after fun closed => ?_
  split
  · exact (yields_textBlock bounded choiceBounded).bind fun _ each => .after fun _ =>
      yields_pure each
  · split
    · exact .after fun _ => yields_code bounded choiceBounded _
    · exact yields_code bounded choiceBounded _

theorem yields_branch :
    Yields
      (fun branch => branch.condition.height 0 ≤ pieceHeight bound ∧
        Piece.maxHeight 0 branch.body ≤ pieceHeight bound)
      (branch grammar choice) := by
  refine bounded.conditional.bind fun condition high => ?_
  refine (yields_branchBody bounded choiceBounded _).bind fun body each => yields_pure ?_
  refine ⟨Nat.le_trans high ?_, Piece.maxHeight_le each⟩
  simp only [pieceHeight]
  omega

theorem yields_furtherBranch :
    Yields
      (fun answer => ∀ branch ∈ answer,
        branch.condition.height 0 ≤ pieceHeight bound ∧
          Piece.maxHeight 0 branch.body ≤ pieceHeight bound)
      (furtherBranch grammar choice) := by
  refine .after fun another => ?_
  split
  · refine (yields_branch bounded choiceBounded).map fun branch high => ?_
    simpa using high
  · exact yields_pure (by simp)

omit bounded choiceBounded in
theorem yields_choiceEnd
    {branches : List (Branch Piece)}
    (branchesBounded : Branch.maxHeight 0 branches ≤ pieceHeight bound)
    (otherwise : Option (List Piece))
    (each : ∀ pieces ∈ otherwise, Piece.maxHeight 0 pieces ≤ pieceHeight bound) :
    Yields (fun piece => piece.height 0 ≤ pieceHeight bound + 1)
      (choiceEnd branches otherwise) := by
  refine .after fun ended => ?_
  split
  · apply yields_pure
    cases otherwise with
    | none => exact Nat.add_le_add_right branchesBounded 1
    | some pieces =>
        exact Nat.add_le_add_right (Nat.max_le.mpr ⟨branchesBounded, each pieces rfl⟩) 1
  · exact .after fun _ => yields_failExpecting _ _

theorem yields_lastBranch
    {branches : List (Branch Piece)}
    (branchesBounded : Branch.maxHeight 0 branches ≤ pieceHeight bound) :
    Yields (fun piece => piece.height 0 ≤ pieceHeight bound + 1)
      (lastBranch grammar choice branches) := by
  refine .after fun otherwise => ?_
  split
  · refine Yields.bind ?_ (yields_choiceEnd branchesBounded)
    refine (yields_branchBody bounded choiceBounded _).map fun pieces high => ?_
    simpa using Piece.maxHeight_le high
  · exact yields_choiceEnd branchesBounded none (by simp)

theorem yields_branches :
    Yields (fun piece => piece.height 0 ≤ pieceHeight bound + 1)
      (branches grammar choice) := by
  rw [branches_eq]
  refine (yields_branch bounded choiceBounded).bind fun first firstBounded => ?_
  refine (yields_furtherBranch bounded choiceBounded).many.bind fun others othersBounded => ?_
  apply yields_lastBranch bounded choiceBounded
  apply Branch.maxHeight_le
  simpa using ⟨firstBounded, othersBounded⟩

end Statements

/-- An if block is as high as another piece one level of nesting further out. -/
theorem yields_choice (levels : Nat) (span : Span) :
    Yields (fun piece => piece.height 0 ≤ pieceHeight (levels * levelHeight))
      (choice levels span) := by
  induction levels generalizing span with
  | zero => exact yields_fail _ _
  | succ levels inner =>
      refine ((yields_branches (expressions_bound levels) inner).nested span).mono ?_
      intro piece high
      simp only [pieceHeight, levelHeight, Nat.succ_mul] at *
      omega

/-- The height of the trees of all sources, without the steps to the subjects of matches. -/
def heightLimit : Nat :=
  pieceHeight (maximalNesting * levelHeight)

end Grammar

open Grammar GcodeTemplate.Parser

section Matches

/-- A number of matches with the empty regular expression. -/
def matchSigns : Nat → List Char
  | 0 => []
  | count + 1 => '=' :: '~' :: '/' :: '/' :: matchSigns count

/-- The empty string with a number of matches behind it. -/
def matchSource (count : Nat) : String :=
  .ofList ('"' :: '"' :: matchSigns count)

/-- Each match makes the chain in front of it one step higher, and no unit is spent. -/
theorem step_matchSigns
    (operand : Parser Expr)
    (left : Expr)
    (count position stop depth : Nat) :
    ∃ chain further,
      Level.equality.step operand (left, 0) ⟨matchSigns (count + 1), position, stop, depth⟩ =
          .ok (.again (chain, 0), ⟨matchSigns count, further, further, depth⟩) ∧
        chain.height 1 = left.height 1 + 1 := by
  have found :
      lexemeAt ⟨matchSigns (count + 1), position, stop, depth⟩ =
        .ok (⟨.symbol .equalTilde, ['=', '~'], '/' :: '/' :: matchSigns count⟩,
          ⟨position, position + 2⟩) :=
    rfl
  have pattern :
      regularExpression (behind ⟨matchSigns (count + 1), position, stop, depth⟩
        ⟨.symbol .equalTilde, ['=', '~'], '/' :: '/' :: matchSigns count⟩
        ⟨position, position + 2⟩) =
        .ok ((.ofList [], ⟨position + 2, position + 4⟩),
          ⟨matchSigns count, position + 4, position + 4, depth⟩) :=
    rfl
  refine ⟨.fullMatch (left.span.cover ⟨position + 2, position + 4⟩) false left (.ofList [])
    ⟨position + 2, position + 4⟩, position + 4, ?_, rfl⟩
  rw [Level.step_of_match found rfl rfl, matchLink,
    bind_of_ok (advance_of_lexeme found), bind_of_ok pattern]
  rfl

theorem iterate_matchSigns
    {operand : Parser Expr}
    (keeps : Keeps Cursor.Precedes operand)
    (left : Expr)
    (count position stop depth : Nat) :
    ∃ chain further final,
      iterate (Level.equality.step operand) (left, 0)
          ⟨matchSigns count, position, stop, depth⟩ =
          .ok (chain, ⟨[], further, final, depth⟩) ∧
        chain.height 1 = left.height 1 + count := by
  induction count generalizing left position stop with
  | zero => exact ⟨left, position, stop, iterate_of_done rfl, rfl⟩
  | succ count ih =>
      rcases step_matchSigns operand left count position stop depth with
        ⟨chain, further, stepped, high⟩
      rcases ih chain further further with ⟨whole, last, final, run, higher⟩
      refine ⟨whole, last, final, ?_, by omega⟩
      rw [iterate_of_again (Level.equality.accounts_step keeps).reads stepped, run]

/-- A string with matches behind it is accepted, however many they are. -/
theorem parse_matchSource (count : Nat) :
    ∃ expr, Expr.parse (matchSource count) = .ok expr ∧ expr.height 1 = count + 1 := by
  let grammar := expressions maximalNesting
  have keep : grammar.Keep Cursor.Precedes := expressions_keep maximalNesting
  have start :
      Cursor.start (matchSource count) = ⟨'"' :: '"' :: matchSigns count, 0, 0, 0⟩ := by
    rw [Cursor.start, matchSource, String.toList_ofList]
  have subject :
      grammar.operand ⟨'"' :: '"' :: matchSigns count, 0, 0, 0⟩ =
        .ok (.literal ⟨0, 2⟩ (.string (.ofList [])), ⟨matchSigns count, 2, 2, 0⟩) :=
    rfl
  have relation :
      Level.relation.parser grammar ⟨'"' :: '"' :: matchSigns count, 0, 0, 0⟩ =
        .ok (.literal ⟨0, 2⟩ (.string (.ofList [])), ⟨matchSigns count, 2, 2, 0⟩) := by
    cases count with
    | zero => exact Level.relation.parser_of_operand subject rfl (by decide) (by decide)
    | succ count =>
        have stops : Level.relation.Stops (.symbol .equalTilde) := by decide
        exact Level.relation.parser_of_operand subject rfl stops (by decide)
  rcases iterate_matchSigns (keep.parser .relation)
    (.literal ⟨0, 2⟩ (.string (.ofList []))) count 2 2 0 with
    ⟨expr, further, final, run, high⟩
  have equality :
      Level.equality.parser grammar ⟨'"' :: '"' :: matchSigns count, 0, 0, 0⟩ =
        .ok (expr, ⟨[], further, final, 0⟩) := by
    rw [Level.equality.parser_eq_links grammar rfl, Level.links, Level.tighter,
      bind_of_ok relation, run]
  have found :
      lexemeAt ⟨[], further, final, 0⟩ =
        .ok (⟨.endOfInput, [], []⟩, ⟨further, further⟩) :=
    rfl
  have conjunction := Level.conjunction.parser_of_tighter rfl equality found rfl
  have disjunction := Level.disjunction.parser_of_tighter rfl conjunction found rfl
  refine ⟨expr, ?_, by rw [high, Expr.height, Nat.add_comm]⟩
  exact Expr.parse_of_conditional (start ▸ conditional_of_end disjunction found rfl) found rfl

end Matches

/-- No source is accepted whose tree exceeds one limit elsewhere than through matches. -/
theorem accepted_trees_bounded_apart_from_matches (source : String) :
    (∀ expr, Expr.parse source = .ok expr → expr.height 0 ≤ heightLimit) ∧
      ∀ pieces, Piece.parse source = .ok pieces → Piece.maxHeight 0 pieces ≤ heightLimit := by
  constructor
  · intro expr parsed
    rcases Expr.parse_eq_ok parsed with ⟨stop, lexeme, span, read, _⟩
    have high := (expressions_bound maximalNesting).conditional read
    simp only [heightLimit, pieceHeight]
    omega
  · intro pieces parsed
    rcases Piece.parse_eq_ok parsed with ⟨stop, read, _⟩
    exact Piece.maxHeight_le
      (yields_textBlock (expressions_bound maximalNesting) (yields_choice maximalNesting) read)

/-- There is no limit for trees in which the subjects of matches count. -/
theorem accepted_matches_nest_without_limit :
    ¬ ∃ limit, ∀ source,
      (∀ expr, Expr.parse source = .ok expr → expr.height 1 ≤ limit) ∧
        ∀ pieces, Piece.parse source = .ok pieces → Piece.maxHeight 1 pieces ≤ limit := by
  rintro ⟨limit, bounded⟩
  rcases parse_matchSource limit with ⟨expr, parsed, high⟩
  have low := (bounded (matchSource limit)).1 expr parsed
  omega

/-- Six hundred matches make a tree that is higher than the units of nesting allow for. -/
theorem six_hundred_matches_within_limit :
    ∃ expr, Expr.parse (matchSource 600) = .ok expr ∧ maximalDepth < expr.height 1 ∧
      expr.height 0 ≤ heightLimit := by
  rcases parse_matchSource 600 with ⟨expr, parsed, high⟩
  refine ⟨expr, parsed, ?_, (accepted_trees_bounded_apart_from_matches _).1 expr parsed⟩
  rw [high]
  decide

end GcodeTemplate
