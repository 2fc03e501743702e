import GcodeTemplate.Proofs.Rounds
import GcodeTemplate.Proofs.ShiftedRendering

/-!
# Conditions in braces

A source that is an expression is read in braces as the same expression, one byte
further.  What is rendered there is the text of what the condition decides, or it has
the same fault.
-/

namespace GcodeTemplate

namespace Grammar

open GcodeTemplate.Parser Text

section Statements

variable
  {levels : Nat}
  {cursor stop : Cursor}
  {expr : Expr}
  {lexeme brace : Lexeme}
  {span place : Span}

/-- What is tried as a target is none if no sign of an assignment stands behind the expression. -/
theorem target_of_conditional
    {name : String}
    (run : (expressions levels).conditional cursor = .ok (expr, stop))
    (found : lexemeAt cursor = .ok (lexeme, span))
    (isWord : lexeme.token = .word name)
    (free : Token.isReserved name = false)
    (follows : lexemeAt stop = .ok (brace, place))
    (noSign : brace.token.isSymbol .assign = false) :
    target (expressions levels) cursor = .ok (none, cursor) := by
  rcases leading_reference run found isWord free with
    ⟨named, between, next, there, leads, looked, _, ends⟩
  have notAssigned : next.token.isSymbol .assign = false := by
    cases isAssigned : next.token.isSymbol .assign with
    | false => rfl
    | true =>
        have isSign := Token.isSymbol_iff.mp isAssigned
        have stops : Level.conditional.Stops next.token := by
          rw [isSign]
          decide
        cases (ends stops).symm.trans follows
        rw [isAssigned] at noSign
        nomatch noSign
  exact target_of_reference leads (eat_of_not looked notAssigned)

/-- An expression is a statement if no sign of an assignment follows it. -/
theorem statement_of_conditional
    (run : (expressions levels).conditional cursor = .ok (expr, stop))
    (follows : lexemeAt stop = .ok (brace, place))
    (noSign : brace.token.isSymbol .assign = false) :
    statement (expressions levels) cursor = .ok (.expression expr, stop) := by
  rcases conditional_starts run with ⟨lexeme, span, found, starts⟩
  have answered := map_of_ok Piece.expression run
  rw [statement, bind_of_ok (peek_of_lexeme found)]
  cases token : lexeme.token with
  | word name =>
      have noStatement : name ∉ statementWords := by
        simpa [token, startsOperand] using starts
      have noDeclaration : (name == "local" || name == "global") = false := by
        simp only [Bool.or_eq_false_iff, beq_eq_false_iff_ne]
        refine ⟨?_, ?_⟩ <;>
        · rintro rfl
          exact noStatement (by decide)
      cases free : Token.isReserved name with
      | true =>
          simp only [noDeclaration, free, Bool.false_eq_true, if_false, if_true]
          exact answered
      | false =>
          simp only [noDeclaration, free, Bool.false_eq_true, if_false]
          rw [assignment, bind_of_ok (target_of_conditional run found token free follows noSign)]
          exact answered
  | _ => exact answered

variable {choice : Span → Parser Piece}

/-- A brace ends a statement in braces. -/
theorem statementEnd_of_brace
    (found : lexemeAt cursor = .ok (brace, place))
    (isBrace : brace.token = .symbol .rightBrace) :
    statementEnd .braces cursor = .ok ((), cursor) := by
  have noSemicolon : brace.token.isSymbol .semicolon = false := by
    rw [isBrace]
    rfl
  rw [statementEnd, bind_of_ok (eat_of_not found noSemicolon)]
  simp only [Bool.false_eq_true, if_false]
  rw [bind_of_ok (peek_of_lexeme found), isBrace]
  rfl

/-- An expression in front of a brace is all of the code. -/
theorem code_of_conditional
    (run : (expressions levels).conditional cursor = .ok (expr, stop))
    (follows : lexemeAt stop = .ok (brace, place))
    (isBrace : brace.token = .symbol .rightBrace)
    (more : cursor.rest ≠ []) :
    code (expressions levels) choice .braces cursor = .ok ([.expression expr], stop) := by
  have noSign : brace.token.isSymbol .assign = false := by
    rw [isBrace]
    rfl
  have read := statement_of_conditional run follows noSign
  rcases conditional_starts run with ⟨lexeme, span, found, starts⟩
  have again :
      codeRound (expressions levels) choice .braces ([], false) cursor =
        .ok (.again ([.expression expr], true), stop) := by
    rcases continues_of_startsOperand starts with ⟨noSemicolon, goesOn, noBlock, _⟩
    rw [codeRound, bind_of_ok (peek_of_lexeme found)]
    simp only [noSemicolon, goesOn, noBlock, Bool.false_eq_true, if_false]
    rw [bind_of_ok read, bind_of_ok (statementEnd_of_brace follows isBrace)]
    rfl
  have done :
      codeRound (expressions levels) choice .braces ([.expression expr], true) stop =
        .ok (.done [.expression expr], stop) := by
    rw [codeRound, bind_of_ok (peek_of_lexeme follows), isBrace]
    rfl
  exact iterate_of_two more again done

/-- Braces around an expression are one round of a text block. -/
theorem textRound_of_conditional
    {rest : List Char}
    (starts : cursor.rest = '{' :: rest)
    (run : (expressions levels).conditional (behindOpening cursor) = .ok (expr, stop))
    (follows : lexemeAt stop = .ok (brace, place))
    (isBrace : brace.token = .symbol .rightBrace)
    (more : rest ≠ []) :
    textRound (expressions levels) choice cursor =
      .ok (some [.expression expr], behind stop brace place) := by
  rcases conditional_starts run with ⟨lexeme, span, found, opens⟩
  have inside : (behindOpening cursor).rest ≠ [] := by
    simpa [behindOpening, starts] using more
  have closed :
      closedCode (expressions levels) choice (behindOpening cursor) =
        .ok (some [.expression expr], behind stop brace place) := by
    rw [closedCode, bind_of_ok (code_of_conditional run follows isBrace inside),
      bind_of_ok (expect_of_symbol _ follows (Token.isSymbol_iff.mpr isBrace))]
    rfl
  rw [textRound_of_brace starts]
  exact braces_of_code found (continues_of_startsOperand opens).2.2.2 closed

end Statements

end Grammar

/-- A source in braces. -/
def Template.braced (source : String) : String :=
  .ofList ('{' :: source.toList ++ ['}'])

open Grammar GcodeTemplate.Parser in
/-- In braces an expression is the same, one byte further. -/
theorem Piece.parse_braced
    {source : String}
    {expr : Expr}
    (parsed : Expr.parse source = .ok expr) :
    Piece.parse (Template.braced source) = .ok [.expression (expr.mapSpans (Span.shift 1))] := by
  rcases Expr.parse_eq_ok parsed with ⟨stop, lexeme, span, read, found, ends⟩
  let place : Relocation := ⟨1, ['}'], true⟩
  let start : Cursor := .start (Template.braced source)
  have starts : start.rest = '{' :: (source.toList ++ ['}']) :=
    String.toList_ofList
  have carries : place.Carries (.start source) (behindOpening start) :=
    ⟨by simp [behindOpening, starts, Cursor.start, place], rfl, rfl, Nat.le_refl 0⟩
  have seam : place.Seam stop.rest := .inr (.inr (.inr ⟨rfl, rfl⟩))
  rcases ((expressions_carry place (Nat.le_refl _)).conditional _ read).2 seam carries with
    ⟨last, readThere, carriesLast⟩
  -- Nothing but blanks is left in front of the brace.
  have blanks : stop.rest.dropWhile Text.isAsciiBlank = [] :=
    Lexeme.eq_nil_of_endOfInput (lexemeAt_eq_ok found).1 ends
  have brace : last.rest.dropWhile Text.isAsciiBlank = ['}'] := by
    rw [carriesLast.rest, (seam.run_append Text.isAsciiBlank rfl rfl).2, blanks]
    rfl
  let blank := (last.rest.takeWhile Text.isAsciiBlank).length
  have follows :
      lexemeAt last = .ok (⟨.symbol .rightBrace, ['}'], []⟩,
        ⟨last.position + blank, last.position + blank + 1⟩) := by
    simp only [lexemeAt, brace, Lexeme.read_rightBrace]
    rfl
  have round :
      topRound maximalNesting start = .ok (some [.expression (place.expr expr)],
        behind last ⟨.symbol .rightBrace, ['}'], []⟩
          ⟨last.position + blank, last.position + blank + 1⟩) :=
    textRound_of_conditional starts readThere follows rfl (by simp)
  exact parse_of_collects (.cons round (.nil (textRound_of_nil rfl))) rfl

section Evaluations

variable {expr : Expr} {layers : Layers} {state after : State} {value : Value} {fault : Fault}

/-- A condition decides what the value of the expression is. -/
theorem Expr.eval_of_evalCondition
    {b : Bool}
    (decides : expr.evalCondition layers state = (.ok b, after)) :
    expr.eval layers state = (.ok (.bool b), after) := by
  rcases Evaluation.bind_eq_ok decides with ⟨value, between, evaluates, checked⟩
  cases value with
  | bool _ =>
      cases checked
      exact evaluates
  | _ => nomatch checked

theorem Expr.evalCondition_of_fault
    (fails : expr.eval layers state = (.error fault, after)) :
    expr.evalCondition layers state = (.error fault, after) := by
  rw [Expr.evalCondition, Eval.expecting, Evaluation.bind_of_error fails]

theorem Piece.renderAll_expression
    {result : Except Fault Value}
    (active : state.isSkipping = false)
    (evaluates : expr.eval layers state = (result, after)) :
    renderAll [.expression expr] layers ⟨state, ""⟩ =
      ((fun _ => ()) <$> result, ⟨after, (result.toOption.map Value.text).getD ""⟩) := by
  cases result <;>
    simp [renderAll, render, Rendering.unlessSkipping, Rendering.quietly, Rendering.write, bind,
      active, evaluates, Except.toOption, Functor.map, Except.map]

end Evaluations

/--
What a source decides as a condition is put out where it stands in braces; and if the
condition fails inside of the expression, what stands in braces fails for the same cause.
-/
theorem braced_expression_renders_as_condition
    {source : String}
    {expr : Expr}
    (parsed : Expr.parse source = .ok expr) :
    let moved := expr.mapSpans (Span.shift 1)
    Piece.parse (Template.braced source) = .ok [.expression moved] ∧
      ∀ layers state, state.suppressed = 0 →
        (∀ b after, expr.evalCondition layers state = (.ok b, after) →
          Piece.renderAll [.expression moved] layers ⟨state, ""⟩ =
            (.ok (), ⟨after, if b then "true" else "false"⟩)) ∧
        ∀ fault after, expr.eval layers state = (.error fault, after) →
          expr.evalCondition layers state = (.error fault, after) ∧
            Piece.renderAll [.expression moved] layers ⟨state, ""⟩ =
              (.error ⟨fault.cause, fault.span.shift 1⟩, ⟨after, ""⟩) := by
  refine ⟨Piece.parse_braced parsed, fun layers state depth => ?_⟩
  have active : state.isSkipping = false := by
    simp [State.isSkipping, depth]
  have shiftsEval :
      Evaluation.Shifts 1 id id expr.eval (expr.mapSpans (Span.shift 1)).eval :=
    expr.eval_shifts
  have shifts := shiftsEval layers state
  constructor
  · intro b after decides
    rw [Expr.eval_of_evalCondition decides] at shifts
    exact Piece.renderAll_expression active shifts
  · intro fault after fails
    rw [fails] at shifts
    exact ⟨Expr.evalCondition_of_fault fails, Piece.renderAll_expression active shifts⟩

/-- A comparison holds in braces, too, and a variable that is not there is missed there, too. -/
theorem braced_comparison_and_unknown_name :
    (∃ expr after, Expr.parse "2 > 1" = .ok expr ∧
      Piece.renderAll [.expression (expr.mapSpans (Span.shift 1))] { process := ∅ } ⟨{}, ""⟩ =
        (.ok (), ⟨after, "true"⟩)) ∧
    ∃ expr after, Expr.parse "speed" = .ok expr ∧
      Piece.renderAll [.expression (expr.mapSpans (Span.shift 1))] { process := ∅ } ⟨{}, ""⟩ =
        (.error ⟨.unknownVariable, ⟨1, 6⟩⟩, ⟨after, ""⟩) := by
  let layers : Layers := { process := ∅ }
  constructor
  · have run :
        (Expr.parse "2 > 1").toOption.any (fun expr =>
          (expr.evalCondition layers {}).1.toOption.any (· == true)) = true := by
      decide +kernel
    rcases exists_of_any run with ⟨expr, parsed, run⟩
    rcases exists_of_any run with ⟨b, decides, isTrue⟩
    cases beq_iff_eq.mp isTrue
    rcases braced_expression_renders_as_condition parsed with ⟨_, renders⟩
    exact ⟨expr, _, parsed, (renders layers {} rfl).1 true _ (Prod.ext decides rfl)⟩
  · have run :
        (Expr.parse "speed").toOption.any (fun expr =>
          match (expr.eval layers {}).1 with
          | .error fault => fault == ⟨.unknownVariable, ⟨0, 5⟩⟩
          | .ok _ => false) = true := by
      decide +kernel
    rcases exists_of_any run with ⟨expr, parsed, run⟩
    cases fails : (expr.eval layers {}).1 with
    | ok _ =>
        rw [fails] at run
        nomatch run
    | error fault =>
        rw [fails] at run
        cases beq_iff_eq.mp run
        rcases braced_expression_renders_as_condition parsed with ⟨_, renders⟩
        exact ⟨expr, _, parsed, ((renders layers {} rfl).2 _ _ (Prod.ext fails rfl)).2⟩

end GcodeTemplate
