import GcodeTemplate.Proofs.Leading
import GcodeTemplate.Proofs.Trials

/-!
# Reading a template at another place

The grammar of templates, production by production, carried to another place.
Where the parser tries something and goes back, what it reads instead has looked at
least as far, so what follows the text is not seen by a trial either.
-/

namespace GcodeTemplate

namespace Relocation

/-- An initializer at the other place. -/
abbrev initializer (place : Relocation) : Initializer → Initializer :=
  Initializer.mapSpans place.span

/-- A bracket at the other place. -/
abbrev bracket (place : Relocation) : Bracket → Bracket :=
  Bracket.mapSpans place.span

/-- A piece at the other place. -/
abbrev piece (place : Relocation) : Piece → Piece :=
  Piece.mapSpans place.span

/-- A branch at the other place. -/
abbrev branch (place : Relocation) : Branch Piece → Branch Piece :=
  Branch.mapSpans place.span

end Relocation

namespace Grammar

open GcodeTemplate.Parser Text

variable {place : Relocation} (isOpen : place.closed = false)

include isOpen

/-- All tokens that are looked at are the same. -/
theorem carriedAt_peek
    {β : Type}
    {g : β → β}
    {next continuation : Token × Span → Parser β}
    {cursor : Cursor}
    (same : ∀ lexeme span, lexemeAt cursor = .ok (lexeme, span) →
      CarriedAt place g (next (lexeme.token, span))
        (continuation (lexeme.token, place.span span)) cursor) :
    CarriedAt place g (peek >>= next) (peek >>= continuation) cursor :=
  CarriedAt.peek same fun isClosed => by simp [isOpen] at isClosed

theorem carried_statementEnd (enclosure : Enclosure) :
    Carried place id (statementEnd enclosure) (statementEnd enclosure) := by
  refine (carried_eat _ (by simp)).bind fun divided => ?_
  dsimp only [id]
  split
  · have semicolon :
        Carried place (Option.map id)
          (do if ← eat .semicolon then pure (some ()) else pure none)
          (do if ← eat .semicolon then pure (some ()) else pure none) := by
      refine (carried_eat _ (by simp)).bind fun again => ?_
      dsimp only [id]
      split
      · exact carried_pure (some ())
      · exact carried_pure none
    exact semicolon.many.bind fun _ => carried_pure ()
  · intro cursor
    refine carriedAt_peek isOpen fun lexeme span found => ?_
    dsimp only
    split
    · exact carried_pure () cursor
    · exact carried_failExpecting _ _ _ cursor

theorem carried_plainName (expectation : Expectation) :
    Carried place (Prod.map id place.span) (plainName expectation) (plainName expectation) := by
  refine (carried_advance isOpen).bind fun ⟨token, span⟩ => ?_
  simp only [Prod.map_apply, id_eq]
  split
  · rename_i name
    split
    · exact carried_failExpecting _ _ _
    · exact carried_pure (name, span)
  · exact carried_failExpecting _ _ _

section Initializers

variable {grammar further : Expressions} (carry : grammar.Carry place further)

include carry

omit isOpen in
theorem carried_listItems :
    Carried place (List.map place.expr) (listItems grammar) (listItems further) := by
  refine (carried_expect _ _).bind fun _ => (carried_eat _ (by simp)).bind fun closed => ?_
  dsimp only [id]
  split
  · exact carried_pure []
  · refine Carried.iterate (f := List.map place.expr) (fun collected => ?_) []
    refine carry.conditional.bind fun item => (carried_eat _ (by simp)).bind fun more => ?_
    dsimp only [id]
    split
    · exact carried_pure (Step.again (item :: collected))
    · refine (carried_expect _ _).bind fun _ => carried_pure_of_eq ?_
      simp only [Step.map, List.map_reverse, List.map_cons]

theorem carried_initializerList (start : Nat) :
    Carried place (Option.map place.initializer) (initializerList grammar start)
      (initializerList further (start + place.offset)) := by
  refine (carried_listItems carry).bind fun items cursor => ?_
  refine carriedAt_peek isOpen fun lexeme span found => ?_
  dsimp only
  split
  · exact ((carried_spanFrom start).bind fun whole =>
      carried_pure (some (Initializer.list whole items))) cursor
  · exact carried_pure none cursor

omit isOpen in
theorem carried_fill (start : Nat) :
    Carried place place.initializer (fill grammar start)
      (fill further (start + place.offset)) :=
  (carried_expect _ _).bind fun _ => carry.sum.bind fun count =>
    (carried_expect _ _).bind fun _ => carry.conditional.bind fun value =>
      (carried_expect _ _).bind fun _ => (carried_spanFrom start).bind fun whole =>
        carried_pure (Initializer.fill whole count value)

omit isOpen carry in
theorem ofExpression_relocated (expr : Expr) :
    ofExpression (place.expr expr) = place.initializer (ofExpression expr) := by
  cases expr <;> rfl

/-- An initializer that is no list. -/
def scalarInitializer (grammar : Expressions) (start : Nat) : Parser Initializer := do
  if ← eatWord "repeat" then
    fill grammar start
  else
    ofExpression <$> grammar.conditional

omit isOpen in
theorem carried_scalarInitializer (start : Nat) :
    Carried place place.initializer (scalarInitializer grammar start)
      (scalarInitializer further (start + place.offset)) := by
  refine (carried_eatWord _).bind fun repeated => ?_
  dsimp only [id]
  split
  · exact carried_fill carry start
  · exact carry.conditional.map ofExpression_relocated

end Initializers

section Statements

variable {levels : Nat}

theorem carried_initializer :
    Carried place place.initializer (initializer (expressions levels))
      (initializer (expressions levels)) := by
  have carry := expressions_carry place (Nat.le_refl levels)
  intro cursor
  refine carriedAt_peek isOpen fun lexeme span found => ?_
  have scalar := carried_scalarInitializer carry span.start
  dsimp only
  cases isList : lexeme.token.isSymbol .leftParenthesis with
  | false => exact scalar cursor
  | true =>
      have opening := Token.isSymbol_iff.mp isList
      refine CarriedAt.tries (tries_initializerList _ _) (tries_initializerList _ _)
        (carried_initializerList isOpen carry _ cursor) (fun list => carried_pure list)
        (scalar cursor) fun given stop run => ?_
      have notRepeated : eatWord "repeat" cursor = .ok (false, cursor) :=
        eatIf_of_not found (by rw [opening]; rfl)
      rcases bind_eq_ok run with ⟨_, _, looked, run⟩
      cases notRepeated.symm.trans looked
      rcases map_eq_ok run with ⟨expr, read, _⟩
      rcases leading_list read found opening span.start with ⟨answer, between, list, suffix⟩
      exact ⟨answer, between, list, fun _ => suffix⟩

theorem carried_declaration (isGlobal : Bool) :
    Carried place place.piece (declaration (expressions levels) isGlobal)
      (declaration (expressions levels) isGlobal) := by
  refine (carried_advance isOpen).bind fun ⟨token, span⟩ => ?_
  simp only [Prod.map_apply, id_eq]
  split
  · rename_i name
    split
    · exact carried_failExpecting _ _ _
    · exact (carried_expect _ _).bind fun _ => (carried_initializer isOpen).bind fun given =>
        carried_pure (Piece.declare ⟨isGlobal, name, span, given⟩)
  · exact carried_failExpecting _ _ _

omit isOpen in
theorem carried_expression :
    Carried place place.piece (Piece.expression <$> (expressions levels).conditional)
      (Piece.expression <$> (expressions levels).conditional) :=
  (expressions_carry place (Nat.le_refl levels)).conditional.map fun _ => rfl

/-- A statement that starts with a variable is an assignment, or an expression. -/
theorem carriedAt_assignment
    {cursor : Cursor}
    {lexeme : Lexeme}
    {span : Span}
    {name : String}
    (found : lexemeAt cursor = .ok (lexeme, span))
    (isWord : lexeme.token = .word name)
    (free : Token.isReserved name = false) :
    CarriedAt place place.piece (assignment (expressions levels))
      (assignment (expressions levels)) cursor := by
  have carry := expressions_carry place (Nat.le_refl levels)
  have carriedAssigned :
      Carried place (Option.map place.reference) (assigned (expressions levels))
        (assigned (expressions levels)) := by
    refine carry.reference.bind fun named => (carried_eat _ (by simp)).bind fun isAssigned => ?_
    dsimp only [id]
    split
    · exact carried_pure (some named)
    · exact carried_pure none
  refine CarriedAt.tries (tries_target _) (tries_target _) (carriedAssigned cursor)
    (fun named => (carried_initializer isOpen).map fun given => rfl)
    (carried_expression cursor) fun piece stop run => ?_
  rcases map_eq_ok run with ⟨expr, read, _⟩
  rcases leading_reference read found isWord free with
    ⟨named, between, next, there, leads, follows, suffix, _⟩
  cases isAssigned : next.token.isSymbol .assign with
  | true =>
      refine ⟨some named, behind between next there, ?_, nofun⟩
      rw [assigned, bind_of_ok leads, bind_of_ok (eat_of_symbol follows isAssigned)]
      rfl
  | false =>
      refine ⟨none, between, ?_, fun _ => suffix⟩
      rw [assigned, bind_of_ok leads, bind_of_ok (eat_of_not follows isAssigned)]
      rfl

theorem carried_statement :
    Carried place place.piece (statement (expressions levels))
      (statement (expressions levels)) := by
  intro cursor
  refine carriedAt_peek isOpen fun lexeme span found => ?_
  dsimp only
  split
  · rename_i name isWord
    split
    · exact ((carried_advance isOpen).bind fun _ => carried_declaration isOpen _) cursor
    · split
      · exact carried_expression cursor
      · rename_i free
        exact carriedAt_assignment isOpen found isWord (by simpa using free)
  · exact carried_expression cursor

end Statements

section Brackets

omit isOpen in
theorem opening_carriedOver
    {cursor : Cursor}
    {c : Char}
    {rest : List Char}
    (starts : cursor.rest = c :: rest) :
    CarriedOver place id opening opening cursor := by
  rintro _ _ ⟨⟩
  refine ⟨List.drop_suffix _ _, fun further carries => ⟨_, rfl, ?_⟩⟩
  refine ⟨?_, ?_, ?_, carries.depth⟩
  · simp only [carries.rest, starts, List.cons_append, List.drop_succ_cons, List.drop_zero]
  · simp only [carries.position]
    omega
  · simp only [carries.position]
    omega

/-- What a bracket is made of, up to the bracket that closes it. -/
def bracketParts : Parser ((String × Span) × Option (String × Span)) := do
  let name ← plainName .bracket
  if ← eat .leftBracket then
    let index ← plainName .identifier
    expect .rightBracket .closingBracket
    pure (name, some index)
  else
    pure (name, none)

omit isOpen in
theorem bracket_eq (start : Nat) :
    bracket start = (do
      let parts ← bracketParts
      expect .rightBracket .bracket
      let span ← spanFrom start
      pure ⟨parts.1.1, parts.1.2, parts.2, span⟩) := by
  simp only [bracketParts, bind_assoc]
  refine congrArg (plainName .bracket >>= ·) (funext fun ⟨name, nameSpan⟩ => ?_)
  refine congrArg (eat .leftBracket >>= ·) (funext fun indexed => ?_)
  cases indexed <;> simp only [Bool.false_eq_true, if_false, if_true, bind_assoc, pure_bind]

theorem carried_bracketParts :
    Carried place (Prod.map (Prod.map id place.span) (Option.map (Prod.map id place.span)))
      bracketParts bracketParts := by
  refine (carried_plainName isOpen _).bind fun name => (carried_eat _ (by simp)).bind
    fun indexed => ?_
  dsimp only [id]
  split
  · exact (carried_plainName isOpen _).bind fun index => (carried_expect _ _).bind fun _ =>
      carried_pure (name, some index)
  · exact carried_pure (name, none)

/-- A bracket ends with its last character, whatever follows. -/
theorem bracket_carriedOver (start : Nat) (cursor : Cursor) :
    CarriedOver place place.bracket (bracket start) (bracket (start + place.offset)) cursor := by
  rw [bracket_eq, bracket_eq]
  refine (carried_bracketParts isOpen cursor).closed_by (.inr rfl) fun parts moved => ?_
  refine (carriedOver_spanFrom start moved).bind fun whole stop _ => ?_
  exact carriedOver_pure_of_eq rfl stop

omit isOpen in
/-- Text that does not reach a seam is the same in front of it. -/
theorem text_append
    {text more : List Char}
    (stops : more = [] ∨ text.dropWhile isText ≠ []) :
    (text ++ more).takeWhile isText = text.takeWhile isText ∧
      (text ++ more).dropWhile isText = text.dropWhile isText ++ more := by
  rcases stops with rfl | stops
  · simp
  · rw [List.takeWhile_append, List.dropWhile_append]
    have shorter : (text.takeWhile isText).length ≠ text.length := by
      intro same
      have parts := congrArg List.length (List.takeWhile_append_dropWhile (p := isText) (l := text))
      rw [List.length_append, same] at parts
      exact stops (List.length_eq_zero_iff.mp (by omega))
    simp [shorter, stops]

omit isOpen in
/-- So the cursor behind it is the same, too. -/
theorem behindText_carries
    {cursor further : Cursor}
    (stops : place.more = [] ∨ cursor.rest.dropWhile isText ≠ [])
    (carries : place.Carries cursor further) :
    further.rest.takeWhile isText = cursor.rest.takeWhile isText ∧
      place.Carries (behindText cursor) (behindText further) := by
  rcases text_append stops with ⟨taken, dropped⟩
  rw [← carries.rest] at taken dropped
  refine ⟨taken, dropped, ?_, ?_, carries.depth⟩
  · simp only [behindText, taken, carries.position]
    omega
  · simp only [behindText, taken, carries.position]
    omega

/-- Text in front of a seam ends in front of it. -/
theorem carried_plainText : Carried place place.piece plainText plainText := by
  intro cursor piece moved run
  rw [plainText_eq] at run
  cases run
  refine ⟨List.dropWhile_suffix _, fun seam further carries => ?_⟩
  have stops : place.more = [] ∨ cursor.rest.dropWhile isText ≠ [] := by
    by_cases none : cursor.rest.dropWhile isText = []
    · rcases (none ▸ seam : place.Seam []).nil_eq with empty | ⟨isClosed, _⟩
      · exact .inl empty
      · simp [isOpen] at isClosed
    · exact .inr none
  rcases behindText_carries stops carries with ⟨taken, carriesText⟩
  refine ⟨behindText further, ?_, carriesText⟩
  rw [plainText_eq, taken]
  rfl

end Brackets

section Code

variable
  {levels : Nat}
  {choice further : Span → Parser Piece}
  (choiceCarried : ∀ span, Carried place place.piece (choice span) (further (place.span span)))

include choiceCarried

theorem carried_code (enclosure : Enclosure) :
    Carried place (List.map place.piece) (code (expressions levels) choice enclosure)
      (code (expressions levels) further enclosure) := by
  refine Carried.iterate (f := Prod.map (List.map place.piece) id)
    (fun ⟨collected, any⟩ cursor => ?_) ([], false)
  refine carriedAt_peek isOpen fun lexeme span found => ?_
  simp only [id_eq]
  split
  · exact (carried_advance isOpen).bind
      (fun _ => carried_pure (Step.again (collected, true))) cursor
  · split
    · split
      · exact carried_failExpecting _ _ _ cursor
      · refine carried_pure_of_eq ?_ cursor
        simp only [Step.map, List.map_reverse]
    · split
      · exact ((carried_advance isOpen).bind fun _ => (choiceCarried span).bind fun piece =>
          carried_pure (Step.again (piece :: collected, true))) cursor
      · exact ((carried_statement isOpen).bind fun piece =>
          (carried_statementEnd isOpen enclosure).bind fun _ =>
            carried_pure (Step.again (piece :: collected, true))) cursor

/-- Pieces in braces end with the brace that closes, whatever follows. -/
theorem closedCode_carriedOver (cursor : Cursor) :
    CarriedOver place (Option.map (List.map place.piece))
      (closedCode (expressions levels) choice) (closedCode (expressions levels) further)
      cursor :=
  (carried_code isOpen choiceCarried .braces cursor).closed_by (.inl rfl) fun _ moved =>
    carriedOver_pure_of_eq rfl moved

/-- In front of code that is closed there is a seam. -/
theorem seam_of_closedCode
    {cursor moved : Cursor}
    {answer : Option (List Piece)}
    (run : closedCode (expressions levels) choice cursor = .ok (answer, moved)) :
    place.Seam cursor.rest := by
  rcases bind_eq_ok run with ⟨pieces, between, read, run⟩
  rcases bind_eq_ok run with ⟨_, closed, expected, _⟩
  rcases expect_eq_ok expected with ⟨lexeme, span, found, isSymbol, _⟩
  have seam : place.Seam between.rest :=
    seam_of_closing found (Token.isSymbol_iff.mp isSymbol) (.inl rfl)
  exact seam.mono (carried_code isOpen choiceCarried .braces cursor read).1

/-- So do the braces with them. -/
theorem braces_carries
    {cursor moved : Cursor}
    {rest : List Char}
    {pieces : List Piece}
    (starts : cursor.rest = '{' :: rest)
    (run : braces (expressions levels) choice cursor = .ok (some pieces, moved)) :
    moved.rest <:+ cursor.rest ∧ ∀ ⦃there⦄, place.Carries cursor there →
      ∃ stop, braces (expressions levels) further there =
          .ok (some (pieces.map place.piece), stop) ∧
        place.Carries moved stop := by
  rcases braces_eq_ok run with ⟨lexeme, span, found, closed | closed⟩
  · nomatch closed.2.1
  · rcases closed with ⟨noBranch, closed⟩
    rcases closedCode_carriedOver isOpen choiceCarried _ closed with ⟨suffix, answers⟩
    refine ⟨suffix.trans (List.drop_suffix _ _), fun there carries => ?_⟩
    rcases (opening_carriedOver starts rfl).2 carries with ⟨opened, openedThere, carriesOpened⟩
    cases openedThere
    rcases answers carriesOpened with ⟨stop, closedThere, carriesStop⟩
    have seam := seam_of_closedCode isOpen choiceCarried closed
    rcases lexemeAt_carried found seam carriesOpened with foundThere | ⟨isClosed, _⟩
    · exact ⟨stop, braces_of_code foundThere noBranch closedThere, carriesStop⟩
    · simp [isOpen] at isClosed

theorem carriedAt_braces
    {cursor : Cursor}
    {rest : List Char}
    (starts : cursor.rest = '{' :: rest) :
    CarriedAt place (Option.map (List.map place.piece))
      (braces (expressions levels) choice) (braces (expressions levels) further) cursor := by
  intro answer moved run
  cases answer with
  | some pieces =>
      rcases braces_carries isOpen choiceCarried starts run with ⟨suffix, answers⟩
      exact ⟨suffix, fun _ => answers⟩
  | none =>
      rcases braces_eq_ok run with ⟨lexeme, span, found, branch | code⟩
      · rcases branch with ⟨isBranch, _, rfl⟩
        refine ⟨List.suffix_refl _, fun seam there carries => ⟨there, ?_, carries⟩⟩
        rcases (opening_carriedOver starts rfl).2 carries with
          ⟨opened, openedThere, carriesOpened⟩
        cases openedThere
        have ahead : place.Seam (behindOpening moved).rest := by
          show place.Seam (moved.rest.drop 1)
          rw [starts] at seam ⊢
          exact seam.tail (by decide) (by decide)
        rcases lexemeAt_carried found ahead carriesOpened with foundThere | ⟨isClosed, _⟩
        · exact braces_of_branch foundThere isBranch
        · simp [isOpen] at isClosed
      · rcases closedCode_eq_ok code.2 with ⟨_, nothing⟩
        nomatch nothing

omit choiceCarried in
theorem bracketRound_carriedOver
    {cursor : Cursor}
    {rest : List Char}
    (starts : cursor.rest = '[' :: rest)
    (start : Nat) :
    CarriedOver place (Option.map (List.map place.piece)) (bracketRound start)
      (bracketRound (start + place.offset)) cursor :=
  (opening_carriedOver starts).bind fun _ opened _ =>
    (bracket_carriedOver isOpen start opened).bind fun _ moved _ =>
      carriedOver_pure_of_eq rfl moved

/-- The code or the bracket that comes next is read whatever follows it. -/
theorem textRound_carries
    {cursor moved : Cursor}
    {c : Char}
    {rest : List Char}
    {pieces : List Piece}
    (starts : cursor.rest = c :: rest)
    (noText : isText c = false)
    (run : textRound (expressions levels) choice cursor = .ok (some pieces, moved)) :
    moved.rest <:+ cursor.rest ∧ ∀ ⦃there⦄, place.Carries cursor there →
      ∃ stop, textRound (expressions levels) further there =
          .ok (some (pieces.map place.piece), stop) ∧
        place.Carries moved stop := by
  rcases isText_eq_false noText with rfl | rfl
  · rw [textRound_of_brace starts] at run
    rcases braces_carries isOpen choiceCarried starts run with ⟨suffix, answers⟩
    refine ⟨suffix, fun there carries => ?_⟩
    rw [textRound_of_brace (carries.starts starts)]
    exact answers carries
  · rw [textRound_of_bracket starts] at run
    rcases bracketRound_carriedOver isOpen starts _ run with ⟨suffix, answers⟩
    refine ⟨suffix, fun there carries => ?_⟩
    rw [textRound_of_bracket (carries.starts starts), carries.position]
    exact answers carries

omit choiceCarried in
/-- Text that ends at a seam is read at the other place too. -/
theorem carriedAt_textRound_of_text
    {cursor : Cursor}
    {c : Char}
    {rest : List Char}
    (starts : cursor.rest = c :: rest)
    (text : isText c = true) :
    CarriedAt place (Option.map (List.map place.piece)) (textRound (expressions levels) choice)
      (textRound (expressions levels) further) cursor := by
  have copied :
      Carried place (Option.map (List.map place.piece))
        ((some [·]) <$> plainText) ((some [·]) <$> plainText) :=
    (carried_plainText isOpen).map fun _ => rfl
  intro answer moved run
  rw [textRound_of_text starts text, ← map_of_ok (some [·]) (plainText_eq cursor)] at run
  rcases copied cursor run with ⟨suffix, answers⟩
  refine ⟨suffix, fun seam there carries => ?_⟩
  rw [textRound_of_text (carries.starts starts) text,
    ← map_of_ok (some [·]) (plainText_eq there)]
  exact answers seam carries

theorem carried_textRound :
    Carried place (Option.map (List.map place.piece)) (textRound (expressions levels) choice)
      (textRound (expressions levels) further) := by
  intro cursor
  cases starts : cursor.rest with
  | nil =>
      intro answer moved run
      rw [textRound_of_nil starts] at run
      cases run
      refine ⟨List.suffix_refl _, fun seam there carries => ⟨there, ?_, carries⟩⟩
      rw [starts] at seam
      rcases seam.nil_eq with none | ⟨isClosed, _⟩
      · apply textRound_of_nil
        rw [carries.rest, starts, none]
        rfl
      · simp [isOpen] at isClosed
  | cons c rest =>
      cases text : isText c with
      | true => exact carriedAt_textRound_of_text isOpen starts text
      | false =>
          intro answer moved run
          rcases isText_eq_false text with rfl | rfl
          · rw [textRound_of_brace starts] at run
            rcases carriedAt_braces isOpen choiceCarried starts run with ⟨suffix, answers⟩
            refine ⟨suffix, fun seam there carries => ?_⟩
            rw [textRound_of_brace (carries.starts starts)]
            exact answers seam carries
          · rw [textRound_of_bracket starts] at run
            rcases bracketRound_carriedOver isOpen starts _ run with ⟨suffix, answers⟩
            refine ⟨suffix, fun seam there carries => ?_⟩
            rw [textRound_of_bracket (carries.starts starts), carries.position]
            exact answers carries

theorem carried_textBlock :
    Carried place (List.map place.piece) (textBlock (expressions levels) choice)
      (textBlock (expressions levels) further) := by
  refine (carried_textRound isOpen choiceCarried).many.map fun rounds => ?_
  rw [List.map_flatten]

theorem carried_branchBody (enclosure : Enclosure) :
    Carried place (List.map place.piece)
      (branchBody (expressions levels) choice enclosure)
      (branchBody (expressions levels) further enclosure) := by
  refine (carried_eat _ (by simp [isOpen])).bind fun closed => ?_
  dsimp only [id]
  split
  · exact (carried_textBlock isOpen choiceCarried).bind fun pieces =>
      (carried_expect _ _).bind fun _ => carried_pure pieces
  · split
    · exact (carried_eatWord _).bind fun _ => carried_code isOpen choiceCarried _
    · exact carried_code isOpen choiceCarried _

theorem carried_branch :
    Carried place place.branch (branch (expressions levels) choice)
      (branch (expressions levels) further) := by
  have carry := expressions_carry place (Nat.le_refl levels)
  refine carry.conditional.bind fun condition => ?_
  refine (carried_branchBody isOpen choiceCarried _).bind fun body => carried_pure_of_eq ?_
  rw [Relocation.branch, Branch.mapSpans, Piece.mapAllSpans_eq_map]

theorem carried_furtherBranch :
    Carried place (Option.map place.branch) (furtherBranch (expressions levels) choice)
      (furtherBranch (expressions levels) further) := by
  refine (carried_eatWord _).bind fun another => ?_
  dsimp only [id]
  split
  · exact (carried_branch isOpen choiceCarried).map fun _ => rfl
  · exact carried_pure none

omit choiceCarried in
theorem carried_choiceEnd (branches : List (Branch Piece)) (otherwise : Option (List Piece)) :
    Carried place place.piece (choiceEnd branches otherwise)
      (choiceEnd (branches.map place.branch) (otherwise.map (List.map place.piece))) := by
  refine (carried_eatWord _).bind fun ended => ?_
  dsimp only [id]
  split
  · apply carried_pure_of_eq
    cases otherwise with
    | none =>
        rw [Relocation.piece, Piece.mapSpans, Branch.mapAllSpans_eq_map]
        rfl
    | some pieces =>
        rw [Relocation.piece, Piece.mapSpans, Branch.mapAllSpans_eq_map, Piece.mapAllSpans_eq_map]
        rfl
  · intro cursor
    exact carriedAt_peek isOpen fun lexeme span found => carried_failExpecting _ _ _ cursor

theorem carried_lastBranch (branches : List (Branch Piece)) :
    Carried place place.piece (lastBranch (expressions levels) choice branches)
      (lastBranch (expressions levels) further (branches.map place.branch)) := by
  refine (carried_eatWord _).bind fun otherwise => ?_
  dsimp only [id]
  split
  · apply Carried.bind ?_ (carried_choiceEnd isOpen branches)
    exact (carried_branchBody isOpen choiceCarried _).map fun _ => rfl
  · exact carried_choiceEnd isOpen branches none

theorem carried_branches :
    Carried place place.piece (branches (expressions levels) choice)
      (branches (expressions levels) further) := by
  rw [branches_eq, branches_eq]
  apply (carried_branch isOpen choiceCarried).bind
  intro first
  apply (carried_furtherBranch isOpen choiceCarried).many.bind
  intro others
  exact carried_lastBranch isOpen choiceCarried (first :: others)

end Code

/-- An if block is read wherever it stands. -/
theorem carried_choice (levels : Nat) (span : Span) :
    Carried place place.piece (choice levels span) (choice levels (place.span span)) := by
  induction levels generalizing span with
  | zero => exact carried_fail _ _ _
  | succ levels inner => exact (carried_branches isOpen inner).nested _ _

end Grammar

end GcodeTemplate
