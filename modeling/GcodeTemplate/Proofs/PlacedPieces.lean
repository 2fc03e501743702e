import GcodeTemplate.Proofs.PlacedExpressions
import GcodeTemplate.Proofs.Progress

/-!
# Where the pieces of a template stand in their source

Code, brackets and text of a template stand in the source.  The parser turns back in
three places: at a list that proves to be an expression, at a variable that nothing is
assigned to, and at braces that open another branch.  Each time it stands again where
it has stood before.
-/

namespace GcodeTemplate

open Text

namespace Grammar

open GcodeTemplate.Parser

variable {source : List Char} {start stop : Nat} {next : Option Span}

/-! ## Initializers -/

section Statements

variable {grammar : Expressions} (place : grammar.Place source)

include place

/-- The items of a list stand behind its parenthesis, which is known to come next. -/
theorem places_listItems
    {span : Span}
    (isIn : span.IsIn source)
    (began : start ≤ span.start) :
    Places source start stop (some span)
      (fun later items =>
        span.start ≤ later ∧ ∀ item ∈ items, item.Placed source ⟨span.start, later⟩)
      (listItems grammar) := by
  refine (places_expect _ _).bind fun _ opened _ known => ?_
  have ordered : span.start ≤ opened := known span rfl ▸ isIn.ordered
  refine Places.passing began ordered ?_
  refine (places_eat _).bind fun closed afterEat passed _ => ?_
  split
  · exact places_pure ⟨Nat.le_trans ordered passed, nofun⟩
  · refine places_iterate
      (fun later collected =>
        span.start ≤ later ∧ ∀ item ∈ collected, item.Placed source ⟨span.start, later⟩)
      (fun collected later _ ⟨here, kept⟩ => ?_) ⟨Nat.le_trans ordered passed, nofun⟩
    refine (place.conditional _ _ _).bind fun item afterItem passedItem placed => ?_
    have all (last : Nat) (further : afterItem ≤ last) :
        ∀ other ∈ item :: collected, other.Placed source ⟨span.start, last⟩ := by
      rw [List.forall_mem_cons]
      exact ⟨placed.until further, fun other member =>
        (kept other member).until (Nat.le_trans passedItem further)⟩
    refine (places_eat _).bind fun more afterComma passedComma _ => ?_
    split
    · exact places_pure ⟨by omega, all _ passedComma⟩
    · refine (places_expect _ _).bind fun _ last further _ => places_pure ⟨by omega, ?_⟩
      intro other member
      exact all _ (Nat.le_trans passedComma further) other (List.mem_reverse.1 member)

theorem places_initializerList
    {span : Span}
    (isIn : span.IsIn source)
    (began : start ≤ span.start) :
    Places source start stop (some span)
      (fun _ answer => ∀ initializer ∈ answer, initializer.Placed source)
      (initializerList grammar span.start) := by
  refine (places_listItems place isIn began).bind fun items afterItems _ ⟨ordered, each⟩ => ?_
  refine places_peek fun token _ _ _ _ => ?_
  dsimp only
  split
  · refine places_spanFrom ordered isIn.starts fun last further wholeIn => places_pure ?_
    rintro _ ⟨⟩
    exact ⟨wholeIn, fun item member => (each item member).until further⟩
  · exact places_pure nofun

theorem places_fill
    {begun : Nat}
    (boundary : IsBoundary source begun)
    (began : start ≤ begun)
    (passed : begun ≤ stop) :
    Places source start stop next (fun _ initializer => initializer.Placed source)
      (fill grammar begun) := by
  refine Places.passing began passed ?_
  refine (places_expect _ _).bind fun _ _ opened _ => ?_
  refine (place.sum _ _ _).bind fun count _ passedCount countPlaced => ?_
  refine (places_expect _ _).bind fun _ _ comma _ => ?_
  refine (place.conditional _ _ _).bind fun value _ passedValue valuePlaced => ?_
  refine (places_expect _ _).bind fun _ _ closed _ => ?_
  refine places_spanFrom (by omega) boundary fun last further wholeIn => places_pure ?_
  exact ⟨wholeIn, countPlaced.until (by omega), valuePlaced.until (by omega)⟩

omit place in
theorem placed_ofExpression
    {outer : Span}
    {expr : Expr}
    (placed : expr.Placed source outer) :
    (ofExpression expr).Placed source := by
  cases expr with
  | read span reference =>
      unfold Expr.Placed at placed
      exact placed.2.whole
  | _ => exact placed.whole

/-- A list that proves to be an expression is read again as one. -/
theorem places_initializer :
    Places source start stop next (fun _ initializer => initializer.Placed source)
      (initializer grammar) := by
  refine places_peek fun token span isAt began _ => ?_
  have isIn := isAt.isIn
  have other :
      Places source start stop (some span) (fun _ initializer => initializer.Placed source) (do
        if ← eatWord "repeat" then
          fill grammar span.start
        else
          ofExpression <$> grammar.conditional) := by
    refine (places_eatWord _).bind fun repeated afterWord _ known => ?_
    split
    next eaten =>
      have ordered : span.start ≤ afterWord := known eaten span rfl ▸ isIn.ordered
      exact places_fill place isIn.starts began ordered
    next =>
      exact (place.conditional _ _ _).map fun _ _ _ placed => placed_ofExpression placed
  dsimp only
  split
  · refine Places.trying ?_ other fun list _ _ placed => places_pure placed
    refine (places_initializerList place isIn began).attempt.map fun answer _ _ placed => ?_
    intro initializer member
    cases answer with
    | none => nomatch member
    | some list => exact placed list rfl initializer member
  · exact other

/-! ## Statements -/

theorem places_declaration (isGlobal : Bool) :
    Places source start stop next (fun _ piece => piece.Placed source)
      (declaration grammar isGlobal) := by
  refine places_advance.bind fun ⟨token, nameSpan⟩ _ _ ⟨isAt, _, _, _⟩ => ?_
  dsimp only
  split
  next name =>
    split
    next => exact places_failExpecting isAt.isIn
    next free =>
      refine (places_expect _ _).bind fun _ _ _ _ => ?_
      refine (places_initializer place).bind fun initializer _ _ placed => places_pure ?_
      exact ⟨isAt.names free, placed⟩
  next => exact places_failExpecting isAt.isIn

/-- A variable is a target only if something is assigned to it. -/
theorem places_target :
    Places source start stop next
      (fun later answer => ∀ target ∈ answer, target.Placed source ⟨start, later⟩)
      (target grammar) := by
  intro cursor stands
  refine Lands.restoring stands
    (place.reference.attempt.bind (fun answer _ _ placed => ?_) cursor stands)
  cases answer with
  | none => exact places_pure nofun
  | some reference =>
      refine (places_eat _).bind fun assigned _ further _ => ?_
      split
      · refine places_pure ?_
        rintro _ ⟨⟩
        exact (placed reference rfl).until further
      · exact places_pure nofun

theorem places_expressionPiece :
    Places source start stop next (fun _ piece => piece.Placed source)
      (Piece.expression <$> grammar.conditional) :=
  (place.conditional _ _ _).map fun _ _ _ placed => placed.whole

theorem places_assignment :
    Places source start stop next (fun _ piece => piece.Placed source)
      (assignment grammar) := by
  refine (places_target place).bind fun answer _ _ placed => ?_
  cases answer with
  | none => exact places_expressionPiece place
  | some target =>
      refine (places_initializer place).map fun initializer _ _ initializerPlaced => ?_
      exact ⟨(placed target rfl).whole, initializerPlaced⟩

theorem places_statement :
    Places source start stop next (fun _ piece => piece.Placed source)
      (statement grammar) := by
  refine places_peek fun token span _ _ _ => Places.anyNext ?_
  dsimp only
  split
  · split
    · exact places_advance.bind fun _ _ _ _ => places_declaration place _
    · split
      · exact places_expressionPiece place
      · exact places_assignment place
  · exact places_expressionPiece place

omit place

theorem places_statementEnd (enclosure : Enclosure) :
    Places source start stop next (fun _ _ => True) (statementEnd enclosure) := by
  refine (places_eat _).bind fun divided _ _ _ => ?_
  split
  · have semicolon (later : Nat) :
        Places source start later none (fun _ answer => ∀ a ∈ answer, True)
          (do if ← eat .semicolon then pure (some ()) else pure none) := by
      refine (places_eat _).bind fun again _ _ _ => ?_
      split
      · exact places_pure fun _ _ => trivial
      · exact places_pure nofun
    exact (places_many (fun _ _ _ _ _ => trivial) fun later _ => semicolon later).bind
      fun _ _ _ _ => places_pure trivial
  · refine places_peek fun token span isAt _ _ => ?_
    dsimp only
    split
    · exact places_pure trivial
    · exact places_failExpecting isAt.isIn

/-! ## Brackets -/

theorem places_plainName (expectation : Expectation) :
    Places source start stop next
      (fun later (name, span) =>
        span.Names source name ∧ start ≤ span.start ∧ span.stop = later)
      (plainName expectation) := by
  refine places_advance.bind fun ⟨token, span⟩ _ _ ⟨isAt, began, stopped, _⟩ => ?_
  dsimp only
  split
  next name =>
    split
    next => exact places_failExpecting isAt.isIn
    next free => exact places_pure ⟨isAt.names free, began, stopped⟩
  next => exact places_failExpecting isAt.isIn

/-- A bracket stands from its opening, which has been passed, to behind its closing. -/
theorem places_bracket
    (boundary : IsBoundary source start)
    (passed : start ≤ stop) :
    Places source start stop next (fun _ bracket => bracket.Placed source)
      (bracket start) := by
  refine (places_plainName _).bind
    fun ⟨name, nameSpan⟩ afterName passedName ⟨names, began, stopped⟩ => ?_
  have finished (index : Option (String × Span)) (last : Nat) (further : afterName ≤ last)
      (indexNames : ∀ found ∈ index,
        found.2.LiesIn source ⟨start, last⟩ ∧ found.2.Names source found.1) :
      Places source start last none (fun _ bracket => bracket.Placed source) (do
        expect .rightBracket .bracket
        let span ← spanFrom start
        pure (⟨name, nameSpan, index, span⟩ : Bracket)) := by
    refine (places_expect _ _).bind fun _ _ closed _ => ?_
    refine places_spanFrom (by omega) boundary fun final ended isIn => places_pure ?_
    have within : last ≤ final := Nat.le_trans closed ended
    refine ⟨isIn, ⟨names.holds.isIn, began, ?_⟩, names, fun found member => ?_⟩
    · rw [stopped]
      exact Nat.le_trans further within
    · exact ⟨(indexNames found member).1.mono (Nat.le_refl _) within,
        (indexNames found member).2⟩
  refine (places_eat _).bind fun indexed _ passedOpening _ => ?_
  dsimp only
  split
  · refine (places_plainName _).bind
      fun index afterIndex passedIndex ⟨indexNames, indexBegan, indexStopped⟩ => ?_
    refine (places_expect _ _).bind fun _ last closed _ => ?_
    refine finished (some index) last (by omega) ?_
    rintro _ ⟨⟩
    have within : index.2.stop ≤ last := Nat.le_trans (Nat.le_of_eq indexStopped) closed
    exact ⟨⟨indexNames.holds.isIn, indexBegan, within⟩, indexNames⟩
  · exact finished none _ passedOpening nofun

end Statements

/-! ## Text and code -/

/-- Behind the first character the cursor stands in the source, too. -/
theorem opening_stands
    {cursor : Cursor}
    {c : Char}
    {rest : List Char}
    (stands : cursor.Stands source start stop next)
    (first : cursor.rest = c :: rest)
    (narrow : c.utf8Size = 1) :
    ∃ moved, opening cursor = .ok ((), moved) ∧
      moved.Stands source start (cursor.position + 1) none ∧ stop ≤ cursor.position + 1 := by
  rcases stands.isOn.splits with ⟨before, given, width⟩
  have splits : source = (before ++ [c]) ++ rest := by
    rw [given, first, List.append_assoc, List.singleton_append]
  have wide : byteWidth (before ++ [c]) = cursor.position + 1 := by
    simp [width, narrow]
  have behind := stands.isOn.behind
  rw [stands.stop] at behind
  refine ⟨_, rfl, ⟨⟨⟨before ++ [c], ?_, wide⟩, ⟨before ++ [c], rest, splits, wide⟩,
    Nat.le_refl _⟩, Nat.le_succ_of_le stands.start, rfl, by simp⟩, Nat.le_succ_of_le behind⟩
  rw [splits, first, List.drop_one, List.tail_cons]

theorem places_plainText :
    Places source start stop next (fun _ piece => piece.Placed source) plainText := by
  intro cursor stands
  rcases stands.isOn.splits with ⟨before, given, width⟩
  have behind := stands.isOn.behind
  rw [stands.stop] at behind
  have began := stands.start
  unfold plainText
  extract_lets isText text position
  have splits : source = (before ++ text) ++ cursor.rest.dropWhile isText := by
    rw [List.append_assoc, List.takeWhile_append_dropWhile, given]
  have wide : byteWidth (before ++ text) = position := by
    rw [byteWidth_append, width]
  have further : cursor.position ≤ position := Nat.le_add_right _ _
  exact ⟨⟨⟨⟨_, splits, wide⟩, ⟨_, _, splits, wide⟩, Nat.le_refl _⟩,
    Nat.le_trans began further, rfl, by simp⟩, Nat.le_trans behind further, trivial⟩

/-- Whatever is read as an if block stands in the source. -/
def PlacesChoice (source : List Char) (choice : Span → Parser Piece) : Prop :=
  ∀ span, span.IsIn source → ∀ start stop next,
    Places source start stop next (fun _ piece => piece.Placed source) (choice span)

section Blocks

variable
  {grammar : Expressions}
  (place : grammar.Place source)
  {choice : Span → Parser Piece}
  (placeChoice : PlacesChoice source choice)

include place placeChoice

/-- A round of code adds a piece that stands in the source, or ends the code. -/
theorem places_codeRound
    (enclosure : Enclosure)
    (state : List Piece × Bool)
    (placed : Piece.AllPlaced source state.1) :
    Places source start stop next
      (fun _ => Step.Good (fun state => Piece.AllPlaced source state.1)
        (Piece.AllPlaced source))
      (codeRound grammar choice enclosure state) := by
  rcases state with ⟨collected, any⟩
  refine places_peek fun token span isAt _ _ => Places.anyNext ?_
  dsimp only
  split
  · exact places_advance.bind fun _ _ _ _ => places_pure placed
  · split
    · split
      · exact places_failExpecting isAt.isIn
      · refine places_pure ?_
        simpa only [Step.Good, Piece.allPlaced_iff, List.mem_reverse] using placed
    · split
      · refine places_advance.bind fun _ _ _ _ => ?_
        exact (placeChoice span isAt.isIn _ _ _).bind fun piece _ _ piecePlaced =>
          places_pure ⟨piecePlaced, placed⟩
      · refine (places_statement place).bind fun piece _ _ piecePlaced => ?_
        exact (places_statementEnd enclosure).bind fun _ _ _ _ =>
          places_pure ⟨piecePlaced, placed⟩

theorem places_code (enclosure : Enclosure) :
    Places source start stop next (fun _ pieces => Piece.AllPlaced source pieces)
      (code grammar choice enclosure) :=
  places_iterate (fun _ (state : List Piece × Bool) => Piece.AllPlaced source state.1)
    (fun state _ _ placed => places_codeRound place placeChoice enclosure state placed) trivial

/-- Braces that open another branch are left alone. -/
theorem lands_braces
    {cursor : Cursor}
    {rest : List Char}
    (stands : cursor.Stands source start stop next)
    (first : cursor.rest = '{' :: rest) :
    Lands source start stop (fun _ answer => ∀ pieces ∈ answer, Piece.AllPlaced source pieces)
      (braces grammar choice cursor) := by
  rcases opening_stands stands first rfl with ⟨moved, opened, here, passed⟩
  refine Lands.restoring stands ?_
  rw [bind_of_ok opened]
  refine Lands.farther passed (places_peek (fun token span _ _ _ => ?_) moved here)
  refine Places.anyNext ?_
  dsimp only
  split
  · exact places_pure nofun
  · refine (places_code place placeChoice .braces).bind fun pieces _ _ placed => ?_
    refine (places_expect _ _).bind fun _ _ _ _ => places_pure ?_
    rintro _ ⟨⟩
    exact placed

theorem places_textRound :
    Places source start stop next
      (fun _ answer => ∀ pieces ∈ answer, Piece.AllPlaced source pieces)
      (textRound grammar choice) := by
  intro cursor stands
  unfold textRound
  rw [bind_of_ok (show Parser.cursor cursor = .ok (cursor, cursor) from rfl)]
  generalize first : cursor.rest = text
  split
  next => exact places_pure nofun cursor stands
  next rest => exact lands_braces place placeChoice stands first
  next rest =>
    rcases opening_stands stands first rfl with ⟨moved, opened, here, passed⟩
    rw [bind_of_ok opened]
    refine Lands.farther passed ?_
    have began := stands.start
    refine Places.passing began (Nat.le_succ _) ?_ moved here
    refine (places_bracket stands.isOn.isBoundary (Nat.le_succ _)).bind
      fun bracket _ _ placed => places_pure ?_
    rintro _ ⟨⟩
    exact ⟨placed, trivial⟩
  next =>
    refine (places_plainText.map fun piece _ _ placed => ?_) cursor stands
    rintro _ ⟨⟩
    exact ⟨placed, trivial⟩

theorem places_textBlock :
    Places source start stop next (fun _ pieces => Piece.AllPlaced source pieces)
      (textBlock grammar choice) := by
  refine (places_many (fun _ _ _ _ placed => placed)
    fun _ _ => places_textRound place placeChoice).map fun blocks _ _ each => ?_
  simp only [Piece.allPlaced_iff] at each ⊢
  intro piece member
  rcases List.mem_flatten.1 member with ⟨block, isBlock, isPiece⟩
  exact each block isBlock piece isPiece

/-! ## If blocks -/

theorem places_branchBody (enclosure : Enclosure) :
    Places source start stop next (fun _ pieces => Piece.AllPlaced source pieces)
      (branchBody grammar choice enclosure) := by
  refine (places_eat _).bind fun closed _ _ _ => ?_
  split
  · refine (places_textBlock place placeChoice).bind fun pieces _ _ placed => ?_
    exact (places_expect _ _).bind fun _ _ _ _ => places_pure placed
  · split
    · exact (places_eatWord _).bind fun _ _ _ _ => places_code place placeChoice _
    · exact places_code place placeChoice _

theorem places_branch :
    Places source start stop next
      (fun _ branch => branch.condition.Placed source (Span.whole source) ∧
        Piece.AllPlaced source branch.body)
      (branch grammar choice) := by
  refine (place.conditional _ _ _).bind fun condition _ _ placed => ?_
  exact (places_branchBody place placeChoice _).bind fun body _ _ bodyPlaced =>
    places_pure ⟨placed.whole, bodyPlaced⟩

theorem places_furtherBranch :
    Places source start stop next
      (fun _ answer => ∀ branch ∈ answer,
        branch.condition.Placed source (Span.whole source) ∧
          Piece.AllPlaced source branch.body)
      (furtherBranch grammar choice) := by
  refine (places_eatWord _).bind fun another _ _ _ => ?_
  split
  · refine (places_branch place placeChoice).map fun branch _ _ placed => ?_
    rintro _ ⟨⟩
    exact placed
  · exact places_pure nofun

omit place placeChoice in
theorem places_choiceEnd
    {branches : List (Branch Piece)}
    {otherwise : Option (List Piece)}
    (placed : (Piece.choose branches otherwise).Placed source) :
    Places source start stop next (fun _ piece => piece.Placed source)
      (choiceEnd branches otherwise) := by
  refine (places_eatWord _).bind fun ended _ _ _ => ?_
  split
  · exact places_pure placed
  · exact places_peek fun _ _ isAt _ _ => places_failExpecting isAt.isIn

theorem places_lastBranch
    {branches : List (Branch Piece)}
    (placed : Branch.AllPlaced source branches) :
    Places source start stop next (fun _ piece => piece.Placed source)
      (lastBranch grammar choice branches) := by
  refine (places_eatWord _).bind fun otherwise later _ _ => ?_
  split
  · have body :
        Places source start later none
          (fun _ answer => ∀ pieces ∈ answer, Piece.AllPlaced source pieces)
          (some <$> branchBody grammar choice .lastBranch) := by
      refine (places_branchBody place placeChoice _).map fun pieces _ _ bodyPlaced => ?_
      rintro _ ⟨⟩
      exact bodyPlaced
    refine body.bind fun answer _ _ bodyPlaced => places_choiceEnd ?_
    cases answer with
    | none => exact placed
    | some pieces => exact ⟨placed, bodyPlaced pieces rfl⟩
  · exact places_choiceEnd placed

theorem places_branches :
    Places source start stop next (fun _ piece => piece.Placed source)
      (branches grammar choice) := by
  rw [branches_eq]
  refine (places_branch place placeChoice).bind fun first _ _ placed => ?_
  refine (places_many (fun _ _ _ _ placed => placed)
    fun _ _ => places_furtherBranch place placeChoice).bind fun others _ _ each => ?_
  exact places_lastBranch place placeChoice
    (Branch.allPlaced_of_forall (List.forall_mem_cons.2 ⟨placed, each⟩))

end Blocks

/-- If blocks stand in the source where they have been read, at every level of nesting. -/
theorem places_choice (levels : Nat) : PlacesChoice source (choice levels) := by
  induction levels with
  | zero => exact fun _ isIn _ _ _ => places_fail rfl isIn
  | succ levels inner =>
      exact fun _ isIn _ _ _ =>
        Places.nested isIn (places_branches (expressions_place levels) inner)

end Grammar

open Grammar GcodeTemplate.Parser

/-- What is read as a template stands in its source; what is not is blamed there. -/
theorem Piece.parse_places (source : String) :
    Settled (Fault.BlamesGrammar source.toList) (Piece.AllPlaced source.toList)
      (Piece.parse source) := by
  apply Places.outcome
  refine (places_textBlock (expressions_place _) (places_choice _)).bind
    fun pieces _ _ placed => ?_
  intro cursor stands
  rw [bind_of_ok (show Parser.cursor cursor = .ok (cursor, cursor) from rfl)]
  split
  · exact places_pure placed cursor stands
  · exact places_failExpecting (Span.isIn_point stands.isOn.isBoundary) cursor stands

end GcodeTemplate
