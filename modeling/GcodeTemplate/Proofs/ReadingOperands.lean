import GcodeTemplate.Proofs.Leading
import GcodeTemplate.Proofs.Reading

/-!
# Reading written operands

An operand is known by its first token: a literal, a name, an operator in front of another
operand, the name of a function, or a parenthesis.  Each of them is read in the units that
its parts take, and as an operand it takes those of a level of nesting more.
-/

namespace GcodeTemplate

open Grammar GcodeTemplate.Parser Text

section Faces

variable {cursor : Cursor} {text more : List Char} {c : Char} {symbol : Symbol}

theorem Cursor.faces_of_rest
    (rest : cursor.rest = text)
    (visible : text.dropWhile isAsciiBlank = text) :
    cursor.Faces text := by
  rw [Cursor.Faces, rest, visible]

theorem Cursor.faces_of_opens
    (opens : Opens text)
    (rest : cursor.rest = text ++ more) :
    cursor.Faces (text ++ more) :=
  Cursor.faces_of_rest rest (Style.dropWhile_of_opens (Expr.opens_append opens more))

theorem Cursor.faces_of_gap
    (style : Style)
    (opens : Opens text)
    (rest : cursor.rest = style.gap ++ (text ++ more)) :
    cursor.Faces (text ++ more) := by
  have visible := Style.dropWhile_of_opens (Expr.opens_append opens more)
  rw [Cursor.Faces, rest, style.dropWhile_gap_append visible]

/-- A sign that is never part of a longer one is the next token. -/
theorem lexemeAt_sign
    (faces : cursor.Faces (c :: more))
    (isSign : Lexeme.single? c = some symbol)
    (alone : ∀ d, Lexeme.pair? c d = none) :
    ∃ span, lexemeAt cursor = .ok (⟨.symbol symbol, [c], more⟩, span) :=
  lexemeAt_of_faces faces (Lexeme.read_sign isSign fun d _ => alone d)

end Faces

namespace Parser

variable
  {α β : Type}
  {parser : Parser α}
  {next : α → Parser β}
  {units further : Nat}
  {good : α → Prop}
  {goodNext : β → Prop}
  {between text more : List Char}
  {cursor : Cursor}
  {c : Char}
  {symbol : Symbol}

/-- A sign that has to stand between two parts takes no units. -/
theorem Fits.separated
    (fits : Fits parser units good between cursor)
    (visible : between.dropWhile isAsciiBlank = c :: text)
    (isSign : Lexeme.single? c = some symbol)
    (alone : ∀ d, Lexeme.pair? c d = none)
    (expectation : Expectation)
    (fitsNext : ∀ a moved, good a → moved.rest = text → moved.depth = cursor.depth →
      Fits (next a) further goodNext more moved) :
    Fits (parser >>= fun a => expect symbol expectation >>= fun _ => next a) (max units further)
      goodNext more cursor := by
  apply fits.bind
  intro a moved isGood rest depth
  have faces : moved.Faces (c :: text) := by rw [Cursor.Faces, rest, visible]
  rcases lexemeAt_sign faces isSign alone with ⟨span, found⟩
  have isThere : (Token.symbol symbol).isSymbol symbol = true := by simp
  exact Fits.after (expect_of_symbol expectation found isThere) rfl (fitsNext a _ isGood rfl depth)

/-- A sign that has to stand behind the last part takes no units. -/
theorem Fits.closed
    (fits : Fits parser units good (c :: more) cursor)
    (visible : isAsciiBlank c = false)
    (isSign : Lexeme.single? c = some symbol)
    (alone : ∀ d, Lexeme.pair? c d = none)
    (expectation : Expectation)
    (answers : ∀ a moved, good a → ∃ b, next a moved = .ok (b, moved) ∧ goodNext b) :
    Fits (parser >>= fun a => expect symbol expectation >>= fun _ => next a) units goodNext more
      cursor := by
  apply fits.followed
  intro a moved isGood rest
  have faces : moved.Faces (c :: more) := Cursor.faces_of_rest rest (by simp [visible])
  rcases lexemeAt_sign faces isSign alone with ⟨span, found⟩
  have isThere : (Token.symbol symbol).isSymbol symbol = true := by simp
  let next := Parser.behind moved ⟨.symbol symbol, [c], more⟩ span
  rcases answers a next isGood with ⟨b, answered, isGoodNext⟩
  refine ⟨b, next, ?_, isGoodNext, rfl, rfl⟩
  rw [bind_of_ok (expect_of_symbol expectation found isThere), answered]

end Parser

namespace Grammar

/--
A text that an operand is read from, without the cost of its nesting, wherever its first
token comes next: the units that this takes, and what is read, spans aside.
-/
def ReadsPrimary (text : List Char) (units : Nat) (expr : Expr) : Prop :=
  ∀ ⦃more : List Char⦄, Level.operand.Ends more →
    ∃ lexeme, Lexeme.read (text ++ more) = .ok lexeme ∧
      ∀ ⦃levels : Nat⦄ ⦃cursor : Cursor⦄ ⦃span : Span⦄,
        cursor.depth ≤ maximalDepth →
        maximalDepth ≤ cursor.depth + nestingCost * levels →
        lexemeAt cursor = .ok (lexeme, span) →
          Fits (primary (expressions levels)) units (·.shape = expr.shape) more cursor

/-- The text that the arguments of a function are read from. -/
def ReadsArguments
    (arguments : Expressions → Parser Call)
    (text : List Char)
    (units : Nat)
    (call : Call) : Prop :=
  ∀ ⦃levels : Nat⦄ ⦃cursor : Cursor⦄ ⦃more : List Char⦄,
    maximalDepth ≤ cursor.depth + nestingCost * levels →
    cursor.rest = text ++ more →
      Fits (arguments (expressions levels)) units (·.shape = call.shape) more cursor

/-- As an operand a primary takes the units of a level of nesting more. -/
theorem fits_operand
    {text more : List Char}
    {units levels : Nat}
    {expr : Expr}
    {cursor : Cursor}
    (reads : ReadsPrimary text units expr)
    (deep : maximalDepth ≤ cursor.depth + nestingCost * levels)
    (ends : Level.operand.Ends more)
    (faces : cursor.Faces (text ++ more)) :
    Fits (Level.operand.parser (expressions levels)) (nestingCost + units)
      (·.shape = expr.shape) more cursor := by
  rcases reads ends with ⟨lexeme, read, fits⟩
  rcases lexemeAt_of_faces faces read with ⟨span, found⟩
  cases levels with
  | zero =>
      have fails : tooDeep cursor = .error ⟨.nestedTooDeeply, span⟩ :=
        bind_of_ok (peek_of_lexeme found)
      have cost : 0 < nestingCost := by decide
      constructor
      · intro less
        omega
      · intro _
        exact ⟨span, fails⟩
  | succ levels =>
      rw [Nat.mul_succ] at deep
      apply Fits.after (peek_of_lexeme found) rfl
      apply Fits.nested
      intro room
      exact fits room (by dsimp only; omega) found

section Tokens

variable
  {style : Style}
  {cursor : Cursor}
  {lexeme : Lexeme}
  {span : Span}
  {inner : Expressions}
  {name : String}

theorem primary_of_int
    {n : Int64}
    (found : lexemeAt cursor = .ok (lexeme, span))
    (isInt : lexeme.token = .int n) :
    primary inner cursor =
      .ok (.literal span (.int n), Parser.behind cursor lexeme span) := by
  rw [primary, bind_of_ok (peek_of_lexeme found)]
  simp only [isInt]
  exact bind_of_ok (advance_of_lexeme found)

theorem primary_of_string
    {s : String}
    (found : lexemeAt cursor = .ok (lexeme, span))
    (isString : lexeme.token = .string s) :
    primary inner cursor =
      .ok (.literal span (.string s), Parser.behind cursor lexeme span) := by
  rw [primary, bind_of_ok (peek_of_lexeme found)]
  simp only [isString]
  exact bind_of_ok (advance_of_lexeme found)

theorem primary_of_reserved
    (found : lexemeAt cursor = .ok (lexeme, span))
    (isWord : lexeme.token = .word name)
    (reserved : Token.isReserved name = true) :
    primary inner cursor = reservedOperand inner name span cursor := by
  rw [primary, bind_of_ok (peek_of_lexeme found)]
  simp only [isWord, reserved]
  rfl

theorem primary_of_truth
    {b : Bool}
    (found : lexemeAt cursor = .ok (lexeme, span))
    (isWord : lexeme.token = .word (if b then "true" else "false")) :
    primary inner cursor =
      .ok (.literal span (.bool b), Parser.behind cursor lexeme span) := by
  rw [primary_of_reserved found isWord (by cases b <;> decide)]
  cases b <;> exact bind_of_ok (advance_of_lexeme found)

theorem primary_of_operator
    {operator : UnaryOperator}
    (found : lexemeAt cursor = .ok (lexeme, span))
    (isOperator : lexeme.token = operator.token style) :
    primary inner cursor = unary inner operator span.start cursor := by
  rw [primary, bind_of_ok (peek_of_lexeme found), isOperator]
  cases operator with
  | negate => rfl
  | plus => rfl
  | not => cases words : style.words <;> simp only [UnaryOperator.token, words] <;> rfl

/-- The name of a function is a reserved word, but no literal and no operator. -/
theorem reserved_of_arguments?
    {arguments : Parser Call}
    (isFunction : arguments? inner name = some arguments) :
    Token.isReserved name = true ∧ (name == "true" || name == "false") = false ∧
      (name == "not") = false := by
  unfold arguments? at isFunction
  split at isFunction
  case h_16 => nomatch isFunction
  all_goals decide

theorem primary_of_function
    {arguments : Parser Call}
    (found : lexemeAt cursor = .ok (lexeme, span))
    (isWord : lexeme.token = .word name)
    (isFunction : arguments? inner name = some arguments) :
    primary inner cursor =
      (do
        let _ ← advance
        let called ← arguments
        let callSpan ← spanFrom span.start
        pure (Expr.call callSpan called)) cursor := by
  rcases reserved_of_arguments? isFunction with ⟨reserved, noTruth, noOperator⟩
  rw [primary_of_reserved found isWord reserved, reservedOperand]
  simp only [noTruth, noOperator, isFunction]
  rfl

end Tokens

section Written

variable
  {style : Style}
  {expr index operand left right : Expr}
  {cursor : Cursor}
  {levels : Nat}
  {more : List Char}
  {name : String}

theorem readsPrimary_int
    {n : Int64}
    (nonnegative : 0 ≤ n.toInt)
    (span : Span) :
    ReadsPrimary (Expr.literalText (.int n)) 0 (.literal span (.int n)) := by
  intro more ends
  refine ⟨_, Lexeme.read_int nonnegative ends.cut, ?_⟩
  intro levels cursor place shallow _ found
  exact fits_of_ok (primary_of_int found rfl) rfl rfl rfl shallow

theorem readsPrimary_string (s : String) (span : Span) :
    ReadsPrimary (Expr.literalText (.string s)) 0 (.literal span (.string s)) := by
  intro more ends
  refine ⟨_, Lexeme.read_string s more, ?_⟩
  intro levels cursor place shallow _ found
  exact fits_of_ok (primary_of_string found rfl) rfl rfl rfl shallow

theorem readsPrimary_bool (b : Bool) (span : Span) :
    ReadsPrimary (Expr.literalText (.bool b)) 0 (.literal span (.bool b)) := by
  intro more ends
  have read :
      ∃ lexeme, Lexeme.read (Expr.literalText (.bool b) ++ more) = .ok lexeme ∧
        lexeme.token = .word (if b then "true" else "false") ∧ lexeme.rest = more := by
    cases b <;> exact ⟨_, Lexeme.read_word rfl rfl ends.cut, rfl, rfl⟩
  rcases read with ⟨lexeme, read, isWord, rest⟩
  refine ⟨lexeme, read, ?_⟩
  intro levels cursor place shallow _ found
  exact fits_of_ok (primary_of_truth found isWord) rfl rest rfl shallow

theorem readsPrimary_named
    (isName : Token.isName name = true)
    (span nameSpan whole : Span) :
    ReadsPrimary name.toList 0 (.read span ⟨name, nameSpan, none, whole⟩) := by
  have free := Token.not_isReserved_of_isName isName
  intro more ends
  refine ⟨_, Lexeme.read_name isName ends.cut, ?_⟩
  intro levels cursor place shallow _ found
  have rest : (Parser.behind cursor ⟨.word name, name.toList, more⟩ place).rest = more := rfl
  rcases ends.found rest with ⟨next, nextSpan, follows, _, noBracket⟩
  have read :
      reference (expressions levels) cursor =
        .ok (⟨name, place, none, ⟨place.start, max place.stop place.start⟩⟩,
          Parser.behind cursor ⟨.word name, name.toList, more⟩ place) := by
    rw [reference, bind_of_ok (peek_of_lexeme found)]
    simp only [free, Bool.false_eq_true, if_false]
    rw [bind_of_ok (advance_of_lexeme found), bind_of_ok (eat_of_not follows noBracket)]
    rfl
  refine Fits.congr ?_ (primary_of_word found rfl free)
  exact fits_of_ok (bind_of_ok read) rfl rfl rfl shallow

/-- A name with an index is read in the units of the index. -/
theorem fits_indexed
    {lexeme : Lexeme}
    {place : Span}
    (found : lexemeAt cursor = .ok (lexeme, place))
    (isWord : lexeme.token = .word name)
    (free : Token.isReserved name = false)
    (rest : lexeme.rest = '[' :: (index.textAt style .sum ++ ']' :: more))
    (opens : Opens (index.textAt style .sum))
    (reads : index.ReadsAt style .sum)
    (deep : maximalDepth ≤ cursor.depth + nestingCost * levels) :
    Fits (reference (expressions levels)) (index.unitsAt .sum)
      (fun read => read.name = name ∧ read.index.map Expr.shape = some index.shape) more
      cursor := by
  apply Fits.after (peek_of_lexeme found) rfl
  simp only [isWord, free, Bool.false_eq_true, if_false]
  apply Fits.after (advance_of_lexeme found) rfl
  let named := Parser.behind cursor lexeme place
  have faces : named.Faces ('[' :: (index.textAt style .sum ++ ']' :: more)) :=
    Cursor.faces_of_rest rest (by simp [isAsciiBlank])
  rcases lexemeAt_sign faces rfl (fun _ => rfl) with ⟨bracket, opening⟩
  apply Fits.after (eat_of_symbol opening rfl) rfl
  simp only [if_true]
  refine Fits.closed (reads (by exact deep) (Level.ends_bracket _ more)
    (Cursor.faces_of_opens opens rfl)) rfl rfl (fun _ => rfl) _ ?_
  intro answer moved isGood
  exact ⟨_, rfl, rfl, congrArg some isGood⟩

theorem readsPrimary_element
    (isName : Token.isName name = true)
    (opens : Opens (index.textAt style .sum))
    (reads : index.ReadsAt style .sum)
    (span nameSpan whole : Span) :
    ReadsPrimary (name.toList ++ '[' :: index.textAt style .sum ++ [']']) (index.unitsAt .sum)
      (.read span ⟨name, nameSpan, some index, whole⟩) := by
  have free := Token.not_isReserved_of_isName isName
  intro more ends
  have text :
      name.toList ++ '[' :: index.textAt style .sum ++ [']'] ++ more =
        name.toList ++ '[' :: (index.textAt style .sum ++ ']' :: more) := by
    simp
  have cut : CutOff ('[' :: (index.textAt style .sum ++ ']' :: more)) := by
    rintro c ⟨⟩
    decide
  rw [text]
  refine ⟨_, Lexeme.read_name isName cut, ?_⟩
  intro levels cursor place shallow deep found
  refine Fits.congr ?_ (primary_of_word found rfl free)
  apply (fits_indexed found rfl free rfl opens reads deep).followed
  rintro answer moved ⟨sameName, sameIndex⟩ rest
  exact ⟨_, moved, rfl, Expr.shape_read _ sameName sameIndex _, rest, rfl⟩

/-- An operator in front of an operand. -/
theorem readsPrimary_unary
    (operator : UnaryOperator)
    (opens : Opens (operand.textAt style .operand))
    (reads : operand.ReadsAt style .operand)
    (span : Span) :
    ReadsPrimary (operator.sign style ++ operand.textAt style .operand)
      (operand.unitsAt .operand) (.unary span operator operand) := by
  intro more ends
  rcases operator.read_sign style (Expr.opens_append opens more) with ⟨lexeme, read, token, rest⟩
  refine ⟨lexeme, by rw [List.append_assoc, read], ?_⟩
  intro levels cursor place shallow deep found
  refine Fits.congr ?_ (primary_of_operator found token)
  apply Fits.after (advance_of_lexeme found) rfl
  have inside :
      Fits (expressions levels).operand (operand.unitsAt .operand) (·.shape = operand.shape) more
        (Parser.behind cursor lexeme place) :=
    reads deep ends rest
  apply inside.followed
  intro answer moved isGood behindOperand
  exact ⟨_, moved, rfl, by simp [isGood], behindOperand, rfl⟩

theorem fits_whole
    (reads : expr.ReadsAt style .conditional)
    (deep : maximalDepth ≤ cursor.depth + nestingCost * levels)
    (ends : Level.conditional.Ends more)
    (faces : cursor.Faces (expr.text style ++ more)) :
    Fits (expressions levels).conditional expr.units (·.shape = expr.shape) more cursor := by
  rw [← Expr.textAt_conditional] at faces
  rw [← Expr.unitsAt_conditional]
  exact reads deep ends faces

/-- An expression in parentheses. -/
theorem readsPrimary_parenthesized
    (opens : Opens (expr.text style))
    (reads : expr.ReadsAt style .conditional) :
    ReadsPrimary ('(' :: expr.text style ++ [')']) expr.units expr := by
  intro more ends
  have text :
      '(' :: expr.text style ++ [')'] ++ more = '(' :: (expr.text style ++ ')' :: more) := by
    simp
  rw [text]
  refine ⟨_, Lexeme.read_sign rfl fun _ _ => rfl, ?_⟩
  intro levels cursor place shallow deep found
  refine Fits.congr ?_ (primary_of_parenthesis found rfl)
  apply Fits.after (advance_of_lexeme found) rfl
  refine Fits.closed (fits_whole reads (by exact deep) (Level.ends_parenthesis _ more)
    (Cursor.faces_of_opens opens rfl)) rfl rfl (fun _ => rfl) _ ?_
  intro answer moved isGood
  exact ⟨_, rfl, by simp [isGood]⟩

/-- An argument in parentheses. -/
theorem fits_oneArgument
    (opens : Opens (operand.text style))
    (reads : operand.ReadsAt style .conditional)
    (deep : maximalDepth ≤ cursor.depth + nestingCost * levels)
    (rest : cursor.rest = '(' :: (operand.text style ++ ')' :: more)) :
    Fits (oneArgument (expressions levels)) operand.units (·.shape = operand.shape) more
      cursor := by
  have faces : cursor.Faces ('(' :: (operand.text style ++ ')' :: more)) :=
    Cursor.faces_of_rest rest (by simp [isAsciiBlank])
  rcases lexemeAt_sign faces rfl (fun _ => rfl) with ⟨span, opening⟩
  apply Fits.after (expect_of_symbol _ opening rfl) rfl
  refine Fits.closed (fits_whole reads (by exact deep) (Level.ends_parenthesis _ more)
    (Cursor.faces_of_opens opens rfl)) rfl rfl (fun _ => rfl) _ ?_
  intro answer moved isGood
  exact ⟨answer, rfl, isGood⟩

/-- Two arguments in parentheses. -/
theorem fits_twoArguments
    (opensLeft : Opens (left.text style))
    (opensRight : Opens (right.text style))
    (readsLeft : left.ReadsAt style .conditional)
    (readsRight : right.ReadsAt style .conditional)
    (deep : maximalDepth ≤ cursor.depth + nestingCost * levels)
    (rest : cursor.rest =
      '(' :: (left.text style ++ ',' :: (style.gap ++ (right.text style ++ ')' :: more)))) :
    Fits (twoArguments (expressions levels)) (max left.units right.units)
      (fun read => read.1.shape = left.shape ∧ read.2.shape = right.shape) more cursor := by
  have faces := Cursor.faces_of_rest rest (by simp [isAsciiBlank])
  rcases lexemeAt_sign faces rfl (fun _ => rfl) with ⟨span, opening⟩
  apply Fits.after (expect_of_symbol _ opening rfl) rfl
  refine Fits.separated
    (fits_whole readsLeft (by exact deep) (Level.ends_comma _ _)
      (Cursor.faces_of_opens opensLeft rfl))
    (List.dropWhile_cons_of_neg (by decide)) rfl (fun _ => rfl) _ ?_
  intro first moved isGood behindComma depth
  have same : moved.depth = cursor.depth := depth
  refine Fits.closed (fits_whole readsRight (by rw [same]; exact deep)
    (Level.ends_parenthesis _ more) (Cursor.faces_of_gap style opensRight behindComma)) rfl rfl
    (fun _ => rfl) _ ?_
  intro second stop isGoodToo
  exact ⟨(first, second), rfl, isGood, isGoodToo⟩

/-- A call is read in the units of its arguments. -/
theorem readsPrimary_call
    {c : Char}
    {rest text : List Char}
    {arguments : Expressions → Parser Call}
    {units : Nat}
    {call : Call}
    (starts : startsWord c = true)
    (goesOn : rest.all continuesWord = true)
    (isFunction : ∀ inner, arguments? inner (.ofList (c :: rest)) = some (arguments inner))
    (reads : ReadsArguments arguments ('(' :: text) units call)
    (span : Span) :
    ReadsPrimary (c :: rest ++ '(' :: text) units (.call span call) := by
  intro more ends
  have cut : CutOff ('(' :: text ++ more) := by
    rintro d ⟨⟩
    decide
  rw [List.append_assoc]
  refine ⟨_, Lexeme.read_word starts goesOn cut, ?_⟩
  intro levels cursor place shallow deep found
  refine Fits.congr ?_ (primary_of_function found rfl (isFunction _))
  apply Fits.after (advance_of_lexeme found) rfl
  refine Fits.followed (reads (by exact deep) rfl) ?_
  intro called moved isGood behindCall
  exact ⟨_, moved, rfl, by simp [isGood], behindCall, rfl⟩

theorem arguments_of_one
    (function : Expr → Call)
    (opens : Opens (operand.text style))
    (reads : operand.ReadsAt style .conditional)
    (isGood : ∀ argument : Expr, argument.shape = operand.shape →
      (function argument).shape = (function operand).shape) :
    ReadsArguments (fun inner => function <$> oneArgument inner)
      ('(' :: (operand.text style ++ [')'])) operand.units (function operand) := by
  intro levels cursor more deep rest
  have inside := fits_oneArgument opens reads deep (by simpa using rest)
  exact inside.map isGood

theorem arguments_of_two
    (function : Expr → Expr → Call)
    (opensLeft : Opens (left.text style))
    (opensRight : Opens (right.text style))
    (readsLeft : left.ReadsAt style .conditional)
    (readsRight : right.ReadsAt style .conditional)
    (isGood : ∀ first second : Expr, first.shape = left.shape → second.shape = right.shape →
      (function first second).shape = (function left right).shape) :
    ReadsArguments
      (fun inner => do
        let (first, second) ← twoArguments inner
        pure (function first second))
      ('(' :: (left.text style ++ ',' :: (style.gap ++ (right.text style ++ [')']))))
      (max left.units right.units) (function left right) := by
  intro levels cursor more deep rest
  have inside :=
    fits_twoArguments opensLeft opensRight readsLeft readsRight deep (by simpa using rest)
  apply inside.followed
  rintro ⟨first, second⟩ moved ⟨isFirst, isSecond⟩ behindArguments
  exact ⟨_, moved, rfl, isGood first second isFirst isSecond, behindArguments, rfl⟩

end Written

end Grammar

end GcodeTemplate
