import GcodeTemplate.Proofs.CarriedPieces

/-!
# The rounds of a text block

A text block is read round by round: text, code in braces, or a bracket.  Each round
reads something and ends right behind a token or a text.
-/

namespace GcodeTemplate

namespace Parser

variable {α : Type} {parser : Parser (Option α)} {cursor moved stop : Cursor} {items : List α}

/-- The answers of a parser one after the other, up to where it answers nothing. -/
inductive Collects (parser : Parser (Option α)) : Cursor → List α → Cursor → Prop
  | nil {cursor stop : Cursor} :
      parser cursor = .ok (none, stop) → Collects parser cursor [] stop
  | cons {cursor moved stop : Cursor} {a : α} {items : List α} :
      parser cursor = .ok (some a, moved) → Collects parser moved items stop →
        Collects parser cursor (a :: items) stop

theorem collects_of_many (run : many parser cursor = .ok (items, stop)) :
    Collects parser cursor items stop := by
  refine iterate_invariant
    (fun collected reached => ∀ rest last, Collects parser reached rest last →
      Collects parser cursor (collected.reverse ++ rest) last)
    (Collects parser cursor) ?_ ?_ (fun rest last collects => collects) run
  · intro collected reached next moved before round rest last collects
    rcases bind_eq_ok round with ⟨answer, between, read, asked⟩
    cases answer with
    | none => nomatch asked
    | some a =>
        cases asked
        simpa using before (a :: rest) last (.cons read collects)
  · intro collected reached all moved before round
    rcases bind_eq_ok round with ⟨answer, between, read, finished⟩
    cases answer with
    | none =>
        cases finished
        simpa using before [] moved (.nil read)
    | some a => nomatch finished

/-- A round of a repetition. -/
def manyStep (parser : Parser (Option α)) (collected : List α) :
    Parser (Step (List α) (List α)) := do
  match ← parser with
  | none => pure (.done collected.reverse)
  | some a => pure (.again (a :: collected))

/-- A parser that has read something whenever it answers is repeated up to its end. -/
theorem many_of_collects
    (reads : ∀ ⦃cursor a moved⦄, parser cursor = .ok (some a, moved) →
      moved.rest.length < cursor.rest.length)
    (collects : Collects parser cursor items stop) :
    many parser cursor = .ok (items, stop) := by
  have stepReads : Reads (manyStep parser) := by
    intro collected reached next moved round
    rcases bind_eq_ok round with ⟨answer, between, read, asked⟩
    cases answer with
    | none => cases asked
    | some a =>
        cases asked
        exact reads read
  have all (collected : List α) :
      iterate (manyStep parser) collected cursor = .ok (collected.reverse ++ items, stop) := by
    induction collects generalizing collected with
    | nil nothing =>
        rw [List.append_nil]
        exact iterate_of_done (bind_of_ok nothing)
    | cons read _ ih =>
        refine (iterate_of_again stepReads (bind_of_ok read)).trans ((ih _).trans ?_)
        simp
  exact all []

end Parser

namespace Grammar

open GcodeTemplate.Parser GcodeTemplate.Text
open Cursor (Precedes)

section Rounds

variable
  {grammar : Expressions}
  {choice : Span → Parser Piece}
  {cursor moved : Cursor}
  {answer : Option (List Piece)}
  {pieces : List Piece}

/-- What a round can be: nothing, text, code in braces, or a bracket. -/
theorem textRound_eq_ok (run : textRound grammar choice cursor = .ok (answer, moved)) :
    answer = none ∧ moved = cursor ∨
      ∃ c rest, cursor.rest = c :: rest ∧ answer.isSome ∧
        (isText c = true ∧ moved = behindText cursor ∨
          closedCode grammar choice (behindOpening cursor) = .ok (answer, moved) ∨
          ∃ found, bracket cursor.position (behindOpening cursor) = .ok (found, moved)) := by
  cases starts : cursor.rest with
  | nil =>
      rw [textRound_of_nil starts] at run
      cases run
      exact .inl ⟨rfl, rfl⟩
  | cons c rest =>
      cases text : isText c with
      | true =>
          rw [textRound_of_text starts text] at run
          cases run
          exact .inr ⟨c, rest, rfl, rfl, .inl ⟨text, rfl⟩⟩
      | false =>
          rcases isText_eq_false text with rfl | rfl
          · rw [textRound_of_brace starts] at run
            rcases braces_eq_ok run with ⟨_, _, _, branch | code⟩
            · exact .inl branch.2
            · rcases closedCode_eq_ok code.2 with ⟨pieces, rfl⟩
              exact .inr ⟨_, rest, rfl, rfl, .inr (.inl code.2)⟩
          · rw [textRound_of_bracket starts] at run
            rcases bind_eq_ok run with ⟨_, opened, tried, run⟩
            rcases bind_eq_ok run with ⟨found, between, read, finished⟩
            cases tried
            cases finished
            exact .inr ⟨_, rest, rfl, rfl, .inr (.inr ⟨found, read⟩)⟩

/-- Code in braces and brackets end with a token, so the cursor stands right behind one. -/
theorem previousStop_of_textRound
    (run : textRound grammar choice cursor = .ok (some pieces, moved)) :
    moved.previousStop = moved.position := by
  rcases textRound_eq_ok run with
    ⟨nothing, _⟩ | ⟨c, rest, _, _, ⟨_, rfl⟩ | code | ⟨found, read⟩⟩
  · nomatch nothing
  · rfl
  · rcases bind_eq_ok code with ⟨_, _, _, code⟩
    rcases bind_eq_ok code with ⟨_, closed, expected, finished⟩
    rcases expect_eq_ok expected with ⟨_, _, _, _, rfl⟩
    cases finished
    rfl
  · rw [bracket_eq] at read
    rcases bind_eq_ok read with ⟨_, _, _, read⟩
    rcases bind_eq_ok read with ⟨_, closed, expected, read⟩
    rcases expect_eq_ok expected with ⟨_, _, _, _, rfl⟩
    cases read
    rfl

theorem textRound_reads
    (keep : grammar.Keep Precedes)
    (keepChoice : ∀ span, Keeps Precedes (choice span))
    (run : textRound grammar choice cursor = .ok (some pieces, moved)) :
    moved.rest.length < cursor.rest.length := by
  rcases textRound_eq_ok run with
    ⟨nothing, _⟩ | ⟨c, rest, starts, _, ⟨text, rfl⟩ | code | ⟨found, read⟩⟩
  · nomatch nothing
  · have shorter := (List.dropWhile_suffix isText (l := rest)).length_le
    simp only [behindText, starts, List.dropWhile_cons_of_pos text, List.length_cons]
    omega
  · have closed : Keeps Precedes (closedCode grammar choice) :=
      (keeps_code keep keepChoice _).bind fun _ => (keeps_expect _ _).bind fun _ =>
        keeps_pure _
    have shorter := (closed code).rest.length_le
    simp only [behindOpening, starts, List.drop_succ_cons, List.drop_zero] at shorter
    simp only [starts, List.length_cons]
    omega
  · have shorter := (keeps_bracket _ read).rest.length_le
    simp only [behindOpening, starts, List.drop_succ_cons, List.drop_zero] at shorter
    simp only [starts, List.length_cons]
    omega

theorem textRound_of_none (run : textRound grammar choice cursor = .ok (none, moved)) :
    moved = cursor := by
  rcases textRound_eq_ok run with ⟨_, same⟩ | ⟨_, _, _, something, _⟩
  · exact same
  · nomatch something

end Rounds

section TopRounds

/-- A round of a text block at the top. -/
abbrev topRound (levels : Nat) : Parser (Option (List Piece)) :=
  textRound (expressions levels) (choice levels)

theorem textBlock_eq_ok
    {levels : Nat}
    {cursor stop : Cursor}
    {pieces : List Piece}
    (read : template levels cursor = .ok (pieces, stop)) :
    ∃ rounds, Collects (topRound levels) cursor rounds stop ∧ pieces = rounds.flatten := by
  rcases map_eq_ok read with ⟨rounds, run, rfl⟩
  exact ⟨rounds, collects_of_many run, rfl⟩

end TopRounds

end Grammar

open Grammar GcodeTemplate.Parser in
theorem Piece.parse_of_collects
    {source : String}
    {rounds : List (List Piece)}
    {stop : Cursor}
    (collects : Collects (topRound maximalNesting) (.start source) rounds stop)
    (ends : stop.rest = []) :
    Piece.parse source = .ok rounds.flatten := by
  have keep := expressions_keep maximalNesting
  have all := many_of_collects
    (fun _ _ _ run => textRound_reads keep (keeps_choice maximalNesting) run) collects
  exact parse_of_template (map_of_ok List.flatten all) ends

/-- What a test accepts is there. -/
theorem exists_of_any {ε α : Type} {result : Except ε α} {test : α → Bool}
    (accepted : result.toOption.any test = true) :
    ∃ a, result = .ok a ∧ test a = true := by
  cases result with
  | error _ => nomatch accepted
  | ok a => exact ⟨a, rfl, accepted⟩

end GcodeTemplate
