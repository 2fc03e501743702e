import GcodeTemplate.Proofs.Carrying

/-!
# Where the grammar of templates goes back

Braces are opened to look whether they go on with another branch, a list is read to
look whether an expression was meant, and a variable is read to look whether it is
assigned to.  What such a trial answers is told here by what was read in it.
-/

namespace GcodeTemplate

namespace Grammar

open GcodeTemplate.Parser Text

section Braces

variable
  {grammar : Expressions}
  {choice : Span → Parser Piece}
  {cursor moved : Cursor}
  {lexeme : Lexeme}
  {span : Span}

/-- The cursor behind a character that is one byte wide. -/
def behindOpening (cursor : Cursor) : Cursor :=
  { cursor with
    rest := cursor.rest.drop 1
    position := cursor.position + 1
    previousStop := cursor.position + 1 }

/-- Code up to the brace that closes it. -/
def closedCode
    (grammar : Expressions)
    (choice : Span → Parser Piece) :
    Parser (Option (List Piece)) := do
  let pieces ← code grammar choice .braces
  expect .rightBrace .codeBlock
  pure (some pieces)

theorem closedCode_eq_ok
    {answer : Option (List Piece)}
    (run : closedCode grammar choice cursor = .ok (answer, moved)) :
    ∃ pieces, answer = some pieces := by
  rcases bind_eq_ok run with ⟨pieces, between, _, run⟩
  rcases bind_eq_ok run with ⟨_, closed, _, run⟩
  cases run
  exact ⟨pieces, rfl⟩

theorem braces_of_branch
    (found : lexemeAt (behindOpening cursor) = .ok (lexeme, span))
    (isBranch : lexeme.token.endsBranch = true) :
    braces grammar choice cursor = .ok (none, cursor) := by
  have tried : opening cursor = .ok ((), behindOpening cursor) := rfl
  rw [braces, restoring, bind_of_ok tried, bind_of_ok (peek_of_lexeme found)]
  simp only [isBranch, if_true]
  rfl

theorem braces_of_code
    {pieces : List Piece}
    (found : lexemeAt (behindOpening cursor) = .ok (lexeme, span))
    (noBranch : lexeme.token.endsBranch = false)
    (read : closedCode grammar choice (behindOpening cursor) = .ok (some pieces, moved)) :
    braces grammar choice cursor = .ok (some pieces, moved) := by
  have tried : opening cursor = .ok ((), behindOpening cursor) := rfl
  rw [braces, restoring, bind_of_ok tried, bind_of_ok (peek_of_lexeme found)]
  simp only [noBranch, Bool.false_eq_true, if_false]
  rw [closedCode] at read
  rw [read]

theorem braces_eq_ok
    {answer : Option (List Piece)}
    (run : braces grammar choice cursor = .ok (answer, moved)) :
    ∃ lexeme span, lexemeAt (behindOpening cursor) = .ok (lexeme, span) ∧
      (lexeme.token.endsBranch = true ∧ answer = none ∧ moved = cursor ∨
        lexeme.token.endsBranch = false ∧
          closedCode grammar choice (behindOpening cursor) = .ok (answer, moved)) := by
  have body {result : Option (List Piece)} {stop : Cursor}
      (run : (do
        opening
        let next ← peek
        if next.1.endsBranch then
          pure none
        else
          closedCode grammar choice) cursor = .ok (result, stop)) :
      ∃ lexeme span, lexemeAt (behindOpening cursor) = .ok (lexeme, span) ∧
        (lexeme.token.endsBranch = true ∧ result = none ∨
          lexeme.token.endsBranch = false ∧
            closedCode grammar choice (behindOpening cursor) = .ok (result, stop)) := by
    rcases bind_eq_ok run with ⟨_, opened, tried, run⟩
    cases tried
    rcases bind_eq_ok run with ⟨⟨token, span⟩, looked, peeked, run⟩
    rcases peek_eq_ok peeked with ⟨rfl, lexeme, found, rfl⟩
    refine ⟨lexeme, span, found, ?_⟩
    cases isBranch : lexeme.token.endsBranch with
    | true =>
        simp only [isBranch, if_true] at run
        cases run
        exact .inl ⟨rfl, rfl⟩
    | false =>
        simp only [isBranch, Bool.false_eq_true, if_false] at run
        exact .inr ⟨rfl, run⟩
  rcases restoring_eq_ok run with ⟨rfl, rfl, stop, tried⟩ | ⟨pieces, rfl, tried⟩
  · rcases body tried with ⟨lexeme, span, found, ⟨isBranch, _⟩ | ⟨noBranch, closed⟩⟩
    · exact ⟨lexeme, span, found, .inl ⟨isBranch, rfl, rfl⟩⟩
    · rcases closedCode_eq_ok closed with ⟨_, nothing⟩
      cases nothing
  · rcases body tried with ⟨lexeme, span, found, ⟨_, nothing⟩ | ⟨noBranch, closed⟩⟩
    · cases nothing
    · exact ⟨lexeme, span, found, .inr ⟨noBranch, closed⟩⟩

end Braces

section TextRounds

variable
  {grammar : Expressions}
  {choice : Span → Parser Piece}
  {cursor : Cursor}
  {rest : List Char}

/-- Whether a character is copied outside of braces and brackets. -/
def isText (c : Char) : Bool :=
  c != '{' && c != '['

theorem isText_eq_false {c : Char} (noText : isText c = false) : c = '{' ∨ c = '[' := by
  by_cases brace : c = '{'
  · exact .inl brace
  · exact .inr (by simpa [isText, brace] using noText)

/-- The cursor behind the text that comes next. -/
def behindText (cursor : Cursor) : Cursor :=
  { cursor with
    rest := cursor.rest.dropWhile isText
    position := cursor.position + byteWidth (cursor.rest.takeWhile isText)
    previousStop := cursor.position + byteWidth (cursor.rest.takeWhile isText) }

theorem plainText_eq (cursor : Cursor) :
    plainText cursor = .ok (.text (.ofList (cursor.rest.takeWhile isText)), behindText cursor) :=
  rfl

theorem textRound_of_nil (ends : cursor.rest = []) :
    textRound grammar choice cursor = .ok (none, cursor) := by
  rw [textRound, bind_of_ok (show Parser.cursor cursor = .ok (cursor, cursor) from rfl)]
  simp only [ends]
  rfl

theorem textRound_of_brace (starts : cursor.rest = '{' :: rest) :
    textRound grammar choice cursor = braces grammar choice cursor := by
  rw [textRound, bind_of_ok (show Parser.cursor cursor = .ok (cursor, cursor) from rfl)]
  simp only [starts]

/-- A bracket from its opening on. -/
def bracketRound (start : Nat) : Parser (Option (List Piece)) := do
  opening
  let bracket ← bracket start
  pure (some [.bracket bracket])

theorem textRound_of_bracket (starts : cursor.rest = '[' :: rest) :
    textRound grammar choice cursor = bracketRound cursor.position cursor := by
  rw [textRound, bind_of_ok (show Parser.cursor cursor = .ok (cursor, cursor) from rfl)]
  simp only [starts]
  rfl

theorem textRound_of_text
    {c : Char}
    (starts : cursor.rest = c :: rest)
    (text : isText c = true) :
    textRound grammar choice cursor =
      .ok (some [.text (.ofList (cursor.rest.takeWhile isText))], behindText cursor) := by
  have noBrace : c ≠ '{' := by
    rintro rfl
    nomatch text
  have noBracket : c ≠ '[' := by
    rintro rfl
    nomatch text
  rw [textRound, bind_of_ok (show Parser.cursor cursor = .ok (cursor, cursor) from rfl)]
  simp [starts, noBrace, noBracket, map_of_ok _ (plainText_eq cursor)]

end TextRounds

section Trials

/-- A list is tried, and given up if no end of the initializer follows it. -/
theorem tries_initializerList (grammar : Expressions) (start : Nat) :
    Tries (initializerList grammar start)
      (restoring (Option.join <$> attempt (initializerList grammar start))) where
  found {cursor moved list} read := by
    have tried :
        attempt (initializerList grammar start) cursor = .ok (some (some list), moved) := by
      rw [attempt, read]
    rw [restoring, map_of_ok Option.join tried]
    rfl
  nothing {cursor moved} read := by
    have tried : attempt (initializerList grammar start) cursor = .ok (some none, moved) := by
      rw [attempt, read]
    rw [restoring, map_of_ok Option.join tried]
    rfl
  failed {cursor moved fault answer} read run := by
    have tried : attempt (initializerList grammar start) cursor = .ok (none, cursor) := by
      rw [attempt, read]
    rw [restoring, map_of_ok Option.join tried] at run
    cases run
    exact ⟨rfl, rfl⟩

/-- The target of an assignment, without going back. -/
def assigned (grammar : Expressions) : Parser (Option (Reference Expr)) := do
  let reference ← reference grammar
  if ← eat .assign then
    pure (some reference)
  else
    pure none

theorem assigned_eq_ok
    {grammar : Expressions}
    {cursor moved : Cursor}
    {answer : Option (Reference Expr)}
    (run : assigned grammar cursor = .ok (answer, moved)) :
    ∃ named between isAssigned, reference grammar cursor = .ok (named, between) ∧
      eat .assign between = .ok (isAssigned, moved) ∧
      answer = if isAssigned then some named else none := by
  rcases bind_eq_ok run with ⟨named, between, read, run⟩
  rcases bind_eq_ok run with ⟨isAssigned, stop, looked, run⟩
  cases isAssigned with
  | false =>
      cases run
      exact ⟨named, between, false, read, looked, rfl⟩
  | true =>
      cases run
      exact ⟨named, between, true, read, looked, rfl⟩

/-- A variable is tried as the target of an assignment. -/
theorem target_of_reference
    {grammar : Expressions}
    {cursor between moved : Cursor}
    {named : Reference Expr}
    {isAssigned : Bool}
    (read : reference grammar cursor = .ok (named, between))
    (looked : eat .assign between = .ok (isAssigned, moved)) :
    target grammar cursor =
      if isAssigned then .ok (some named, moved) else .ok (none, cursor) := by
  have tried : attempt (reference grammar) cursor = .ok (some named, between) := by
    rw [attempt, read]
  rw [target, restoring, bind_of_ok tried]
  dsimp only
  rw [bind_of_ok looked]
  cases isAssigned <;> rfl

theorem tries_target (grammar : Expressions) : Tries (assigned grammar) (target grammar) where
  found {cursor moved named} run := by
    rcases assigned_eq_ok run with ⟨found, between, isAssigned, read, looked, same⟩
    rw [target_of_reference read looked]
    cases isAssigned <;> cases same
    rfl
  nothing {cursor moved} run := by
    rcases assigned_eq_ok run with ⟨found, between, isAssigned, read, looked, same⟩
    rw [target_of_reference read looked]
    cases isAssigned <;> cases same
    rfl
  failed {cursor moved fault answer} failed run := by
    cases read : reference grammar cursor with
    | error cause =>
        have tried : attempt (reference grammar) cursor = .ok (none, cursor) := by
          rw [attempt, read]
        rw [target, restoring, bind_of_ok tried] at run
        cases run
        exact ⟨rfl, rfl⟩
    | ok result =>
        rcases result with ⟨named, between⟩
        have tried : attempt (reference grammar) cursor = .ok (some named, between) := by
          rw [attempt, read]
        cases looked : eat .assign between with
        | error cause =>
            rw [target, restoring, bind_of_ok tried] at run
            dsimp only at run
            rw [bind_of_error looked] at run
            cases run
        | ok result =>
            rcases result with ⟨isAssigned, stop⟩
            rw [assigned, bind_of_ok read, bind_of_ok looked] at failed
            cases isAssigned <;> cases failed

end Trials

end Grammar

end GcodeTemplate
