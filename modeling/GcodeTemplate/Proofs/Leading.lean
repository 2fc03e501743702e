import GcodeTemplate.Proofs.CarriedExpressions

/-!
# How expressions start

An expression is read operand first.  So where one is read that starts with a
variable, the variable is read there by itself, too; and where one is read that
starts with a parenthesis, the parenthesis is a list of one item.  Both hold with
one more level of nesting, outside of the operand.
-/

namespace GcodeTemplate

namespace Grammar

open GcodeTemplate.Parser Text
open Cursor (Precedes)

section Operands

variable {cursor stop : Cursor} {expr : Expr}

/-- A chain has looked at what follows its first operand. -/
theorem Level.links_eq_ok
    {level : Level}
    {operand : Parser Expr}
    (run : level.links operand cursor = .ok (expr, stop)) :
    ∃ first moved lexeme span, operand cursor = .ok (first, moved) ∧
      lexemeAt moved = .ok (lexeme, span) ∧
      iterate (level.step operand) (first, 0) moved = .ok (expr, stop) := by
  rcases bind_eq_ok run with ⟨first, moved, read, rounds⟩
  cases found : lexemeAt moved with
  | error fault =>
      have failed : level.step operand (first, 0) moved = .error fault :=
        bind_of_error (by rw [peek, found])
      rw [iterate_of_error failed] at rounds
      cases rounds
  | ok answer => exact ⟨first, moved, answer.1, answer.2, read, found, rounds⟩

theorem Level.leading_operand
    {grammar : Expressions}
    (keep : grammar.Keep Precedes)
    {level : Level}
    (isChain : level.isChain)
    (run : level.parser grammar cursor = .ok (expr, stop)) :
    ∃ first between lexeme span, grammar.operand cursor = .ok (first, between) ∧
      lexemeAt between = .ok (lexeme, span) ∧ stop.rest <:+ between.rest := by
  induction level using Level.tightening generalizing expr stop with
  | conditional => nomatch isChain
  | operand => nomatch isChain
  | chain level _ ih =>
      rw [level.parser_eq_links grammar isChain] at run
      rcases links_eq_ok run with ⟨first, moved, lexeme, span, read, found, rounds⟩
      have forward := ((level.accounts_step (keep.parser _)).keeps first rounds).rest
      rcases level.tighter_eq with further | isOperand
      · rcases ih further read with ⟨operand, between, next, there, leads, follows, suffix⟩
        exact ⟨operand, between, next, there, leads, follows, forward.trans suffix⟩
      · rw [isOperand] at read
        exact ⟨first, moved, lexeme, span, read, found, forward⟩

/--
An expression has read an operand first, and looked at what follows it.  If nothing goes
on with that, the operand is all there is.
-/
theorem leading_operand
    {levels : Nat}
    (run : (expressions levels).conditional cursor = .ok (expr, stop)) :
    ∃ first between lexeme span, (expressions levels).operand cursor = .ok (first, between) ∧
      lexemeAt between = .ok (lexeme, span) ∧ stop.rest <:+ between.rest ∧
        (Level.conditional.Stops lexeme.token → stop = between) := by
  cases levels with
  | zero =>
      rcases bind_eq_ok run with ⟨_, _, _, failed⟩
      nomatch failed
  | succ levels =>
      have keep := expressions_keep (levels + 1)
      rcases bind_eq_ok run with ⟨condition, moved, read, rest⟩
      have forward := ((expressions_keep levels).branching condition rest).rest
      rcases Level.disjunction.leading_operand keep rfl read with
        ⟨first, between, lexeme, span, leads, found, suffix⟩
      refine ⟨first, between, lexeme, span, leads, found, forward.trans suffix, fun stops => ?_⟩
      have alone :=
        Level.disjunction.parser_of_operand leads found (stops.mono (by decide)) (by decide)
      cases (conditional_of_end alone found (stops .conditional (Nat.le_refl _))).symm.trans run
      rfl

end Operands

section Operand

variable
  {cursor stop : Cursor}
  {expr : Expr}
  {lexeme : Lexeme}
  {span : Span}
  {inner : Expressions}

/-- An operand is a primary one level deeper. -/
theorem operand_eq_ok
    (run : operand inner cursor = .ok (expr, stop)) :
    ∃ last, primary inner { cursor with depth := cursor.depth + nestingCost } = .ok (expr, last) ∧
      stop = { last with depth := last.depth - nestingCost } := by
  rcases bind_eq_ok run with ⟨⟨token, span⟩, moved, peeked, nest⟩
  rcases peek_eq_ok peeked with ⟨rfl, _⟩
  rcases nested_eq_ok nest with ⟨_, last, read, rfl⟩
  exact ⟨last, read, rfl⟩

theorem primary_of_word
    {name : String}
    (found : lexemeAt cursor = .ok (lexeme, span))
    (isWord : lexeme.token = .word name)
    (free : Token.isReserved name = false) :
    primary inner cursor = (do
      let read ← reference inner
      pure (Expr.read read.span read)) cursor := by
  rw [primary, bind_of_ok (peek_of_lexeme found)]
  simp only [isWord, free]
  rfl

theorem primary_of_parenthesis
    (found : lexemeAt cursor = .ok (lexeme, span))
    (isOpening : lexeme.token = .symbol .leftParenthesis) :
    primary inner cursor = parenthesized inner span.start cursor := by
  rw [primary, bind_of_ok (peek_of_lexeme found)]
  simp only [isOpening]

/-- The reserved words that no operand starts with. -/
def statementWords : List String :=
  ["and", "elsif", "else", "endif", "global", "if", "local", "or", "repeat"]

/-- Whether an operand may start with a token. -/
def startsOperand : Token → Bool
  | .int _ | .double _ | .string _ => true
  | .symbol symbol =>
      symbol == .minus || symbol == .plus || symbol == .bang || symbol == .leftParenthesis
  | .word name => ! statementWords.contains name
  | .stray _ | .endOfInput => false

/-- Such a token goes on with code in braces, and it starts neither a block nor a branch. -/
theorem continues_of_startsOperand
    {token : Token}
    (starts : startsOperand token = true) :
    token.isSymbol .semicolon = false ∧ Enclosure.braces.ends token = false ∧
      token.isWord "if" = false ∧ token.endsBranch = false := by
  cases token with
  | word name =>
      have noStatement : name ∉ statementWords := by
        simpa [startsOperand] using starts
      have other {statement : String} (isStatement : statement ∈ statementWords) :
          (Token.word name).isWord statement = false := by
        simp only [Token.isWord, beq_eq_false_iff_ne]
        rintro rfl
        exact noStatement isStatement
      refine ⟨rfl, rfl, other (by decide), ?_⟩
      rw [Token.endsBranch, other (by decide), other (by decide), other (by decide)]
      rfl
  | symbol symbol =>
      cases symbol <;> first | exact ⟨rfl, rfl, rfl, rfl⟩ | cases starts
  | endOfInput => cases starts
  | _ => exact ⟨rfl, rfl, rfl, rfl⟩

theorem reservedOperand_of_statementWord
    {name : String}
    (isStatement : name ∈ statementWords)
    (inner : Expressions)
    (span : Span) :
    Token.isReserved name = true ∧
      reservedOperand inner name span = failExpecting .operand span := by
  simp only [statementWords, List.mem_cons, List.not_mem_nil, or_false] at isStatement
  rcases isStatement with rfl | rfl | rfl | rfl | rfl | rfl | rfl | rfl | rfl <;>
    exact ⟨by decide, rfl⟩

theorem operand_starts
    (run : operand inner cursor = .ok (expr, stop)) :
    ∃ lexeme span, lexemeAt cursor = .ok (lexeme, span) ∧ startsOperand lexeme.token = true := by
  rcases operand_eq_ok run with ⟨last, read, _⟩
  rcases bind_eq_ok read with ⟨⟨token, span⟩, moved, peeked, read⟩
  rcases peek_eq_ok peeked with ⟨rfl, lexeme, found, rfl⟩
  refine ⟨lexeme, span, found, ?_⟩
  cases token : lexeme.token with
  | int | double | string => rfl
  | stray | endOfInput =>
      rw [token] at read
      cases read
  | symbol symbol =>
      rw [token] at read
      cases symbol <;> first | rfl | cases read
  | word name =>
      by_cases isStatement : name ∈ statementWords
      · rcases reservedOperand_of_statementWord isStatement inner span with ⟨reserved, fails⟩
        simp only [token, reserved, if_true, fails] at read
        cases read
      · simpa [startsOperand] using isStatement

/-- An expression starts with an operand. -/
theorem conditional_starts
    {levels : Nat}
    (run : (expressions levels).conditional cursor = .ok (expr, stop)) :
    ∃ lexeme span, lexemeAt cursor = .ok (lexeme, span) ∧ startsOperand lexeme.token = true := by
  rcases leading_operand run with ⟨first, between, _, _, leads, _, _, _⟩
  cases levels with
  | zero =>
      rcases bind_eq_ok leads with ⟨_, _, _, failed⟩
      nomatch failed
  | succ levels => exact operand_starts leads

end Operand

/-- The same text with maybe more nesting left. -/
def sameText : Relocation :=
  ⟨0, [], false⟩

theorem sameText_carries
    {cursor : Cursor}
    {depth : Nat}
    (less : depth ≤ cursor.depth) :
    sameText.Carries cursor { cursor with depth := depth } :=
  ⟨(List.append_nil _).symm, rfl, rfl, less⟩

/-- What is read somewhere is read with more nesting left, and ends at the same place. -/
theorem reads_with_more
    {α : Type}
    {f : α → α}
    {first second : Parser α}
    {cursor stop : Cursor}
    {a : α}
    {depth : Nat}
    (carried : Carried sameText f first second)
    (run : first cursor = .ok (a, stop))
    (less : depth ≤ cursor.depth) :
    ∃ there last, second { cursor with depth := depth } = .ok (there, last) ∧
      last.rest = stop.rest ∧ last.position = stop.position := by
  rcases (carried cursor run).2 (.of_nil _) (sameText_carries less) with ⟨last, read, carries⟩
  exact ⟨f a, last, read, carries.rest.trans (List.append_nil _), carries.position⟩

section Statements

variable
  {levels : Nat}
  {cursor stop : Cursor}
  {expr : Expr}
  {lexeme : Lexeme}
  {span : Span}

/--
An expression that starts with a variable can be read as that variable first.  If nothing
goes on with what follows it, the expression ends there.
-/
theorem leading_reference
    {name : String}
    (run : (expressions levels).conditional cursor = .ok (expr, stop))
    (found : lexemeAt cursor = .ok (lexeme, span))
    (isWord : lexeme.token = .word name)
    (free : Token.isReserved name = false) :
    ∃ target between next there,
      reference (expressions levels) cursor = .ok (target, between) ∧
        lexemeAt between = .ok (next, there) ∧ stop.rest <:+ between.rest ∧
        (Level.conditional.Stops next.token → lexemeAt stop = .ok (next, there)) := by
  rcases leading_operand run with ⟨first, after, next, there, leads, follows, suffix, ends⟩
  cases levels with
  | zero =>
      rcases bind_eq_ok leads with ⟨_, _, _, failed⟩
      nomatch failed
  | succ levels =>
      rcases operand_eq_ok leads with ⟨last, read, rfl⟩
      rw [primary_of_word (by exact found) isWord free] at read
      rcases bind_eq_ok read with ⟨target, last', named, answered⟩
      cases answered
      have carried := (expressions_carry sameText (Nat.le_succ levels)).reference
      rcases reads_with_more carried named (Nat.le_add_right cursor.depth nestingCost) with
        ⟨target', between, namedThere, rest, position⟩
      refine ⟨target', between, next, there, namedThere, ?_, rest ▸ suffix, fun stops => ?_⟩
      · rw [← follows]
        exact lexemeAt_congr rest position
      · rw [ends stops]
        exact follows

/-- What is read in parentheses, and the parenthesis that closes. -/
theorem parenthesized_eq_ok
    {inner : Expressions}
    {start : Nat}
    (run : parenthesized inner start cursor = .ok (expr, stop))
    (found : lexemeAt cursor = .ok (lexeme, span)) :
    ∃ inside between parenthesis place,
      inner.conditional (behind cursor lexeme span) = .ok (inside, between) ∧
        lexemeAt between = .ok (parenthesis, place) ∧
        parenthesis.token = .symbol .rightParenthesis ∧
        stop = behind between parenthesis place := by
  rcases bind_eq_ok run with ⟨_, opened, advanced, run⟩
  rcases bind_eq_ok run with ⟨inside, between, item, run⟩
  rcases bind_eq_ok run with ⟨_, closed, expected, run⟩
  cases (advance_of_lexeme found).symm.trans advanced
  rcases expect_eq_ok expected with ⟨parenthesis, place, isThere, isClosing, rfl⟩
  cases run
  exact ⟨inside, between, parenthesis, place, item, isThere, Token.isSymbol_iff.mp isClosing, rfl⟩

/-- A list of one item. -/
theorem listItems_of_item
    {grammar : Expressions}
    {item : Expr}
    {between : Cursor}
    {first parenthesis : Lexeme}
    {firstSpan place : Span}
    (found : lexemeAt cursor = .ok (lexeme, span))
    (isOpening : lexeme.token = .symbol .leftParenthesis)
    (next : lexemeAt (behind cursor lexeme span) = .ok (first, firstSpan))
    (notEmpty : first.token.isSymbol .rightParenthesis = false)
    (read : grammar.conditional (behind cursor lexeme span) = .ok (item, between))
    (closes : lexemeAt between = .ok (parenthesis, place))
    (isClosing : parenthesis.token = .symbol .rightParenthesis) :
    listItems grammar cursor = .ok ([item], behind between parenthesis place) := by
  have noComma : parenthesis.token.isSymbol .comma = false := by
    rw [isClosing]
    rfl
  rw [listItems, bind_of_ok (expect_of_symbol _ found (Token.isSymbol_iff.mpr isOpening)),
    bind_of_ok (eat_of_not next notEmpty)]
  apply iterate_of_done
  rw [bind_of_ok read, bind_of_ok (eat_of_not closes noComma)]
  simp only [Bool.false_eq_true, if_false]
  rw [bind_of_ok (expect_of_symbol _ closes (Token.isSymbol_iff.mpr isClosing))]
  rfl

theorem initializerList_of_items
    {grammar : Expressions}
    {items : List Expr}
    {between : Cursor}
    (read : listItems grammar cursor = .ok (items, between))
    (found : lexemeAt between = .ok (lexeme, span))
    (start : Nat) :
    ∃ answer, initializerList grammar start cursor = .ok (answer, between) := by
  rw [initializerList, bind_of_ok read, bind_of_ok (peek_of_lexeme found)]
  dsimp only
  split
  · exact ⟨_, rfl⟩
  · exact ⟨none, rfl⟩

/-- An expression that starts with a parenthesis can be read as a list of one item first. -/
theorem leading_list
    (run : (expressions levels).conditional cursor = .ok (expr, stop))
    (found : lexemeAt cursor = .ok (lexeme, span))
    (isOpening : lexeme.token = .symbol .leftParenthesis)
    (start : Nat) :
    ∃ answer between,
      initializerList (expressions levels) start cursor = .ok (answer, between) ∧
        stop.rest <:+ between.rest := by
  rcases leading_operand run with ⟨operand, after, next, there, leads, follows, suffix, _⟩
  cases levels with
  | zero =>
      rcases bind_eq_ok leads with ⟨_, _, _, failed⟩
      nomatch failed
  | succ levels =>
      rcases operand_eq_ok leads with ⟨last, read, rfl⟩
      rw [primary_of_parenthesis (by exact found) isOpening] at read
      rcases parenthesized_eq_ok read (by exact found) with
        ⟨inside, closing, parenthesis, place, item, closes, isClosing, rfl⟩
      -- The item is read again, outside of the operand.
      have carried := (expressions_carry sameText (Nat.le_succ levels)).conditional
      rcases reads_with_more carried item (Nat.le_add_right cursor.depth nestingCost) with
        ⟨again, between, itemThere, rest, position⟩
      have closesThere : lexemeAt between = .ok (parenthesis, place) :=
        (lexemeAt_congr rest position).trans closes
      rcases conditional_starts itemThere with ⟨first, firstSpan, opens, starts⟩
      have notEmpty : first.token.isSymbol .rightParenthesis = false := by
        cases token : first.token with
        | symbol symbol =>
            rw [token] at starts
            cases symbol <;> first | rfl | nomatch starts
        | _ => rfl
      have items := listItems_of_item found isOpening opens notEmpty itemThere closesThere isClosing
      have followsThere : lexemeAt (behind between parenthesis place) = .ok (next, there) :=
        (lexemeAt_congr rfl rfl).trans follows
      rcases initializerList_of_items items followsThere start with ⟨answer, list⟩
      exact ⟨answer, behind between parenthesis place, list, suffix⟩

end Statements

end Grammar

end GcodeTemplate
