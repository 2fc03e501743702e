import GcodeTemplate.Proofs.Printing
import GcodeTemplate.Proofs.Seams

/-!
# Reading the tokens of a written expression

Each token of a written expression is read as what it was written for, because of what
may follow it: behind a name or a number no character stands that goes on with it, and
behind an operator a blank stands or a character that an operand starts with, which makes
no sign of two characters.
-/

namespace GcodeTemplate

open Text

/-- The characters that a written expression may start with. -/
def opensExpr (c : Char) : Bool :=
  isDecimalDigit c || startsWord c || c == '"' || c == '-' || c == '+' || c == '!' || c == '('

/-- A text that starts with one of them. -/
def Opens (text : List Char) : Prop :=
  ∃ c rest, text = c :: rest ∧ opensExpr c = true

/-- What a text starts with goes on with no name and no number. -/
def CutOff (text : List Char) : Prop :=
  ∀ c ∈ text.head?, continuesWord c = false ∧ c ≠ '.'

section Characters

variable {c : Char} {p : Char → Bool} {text more : List Char}

/-- What an expression starts with is a visible ASCII character. -/
theorem opensExpr_bounds (opens : opensExpr c = true) : 33 ≤ c.toNat ∧ c.toNat < 128 := by
  simp only [opensExpr, Bool.or_eq_true, isDecimalDigit_iff, startsWord_iff, beq_iff_eq] at opens
  rcases opens with (((((digit | (lower | upper) | rfl) | rfl) | rfl) | rfl) | rfl) | rfl <;>
    first | omega | decide

theorem not_blank_of_opensExpr (opens : opensExpr c = true) : isAsciiBlank c = false := by
  have bounds := opensExpr_bounds opens
  simp only [isAsciiBlank, Bool.or_eq_false_iff, Bool.and_eq_false_imp, beq_eq_false_iff_ne,
    decide_eq_true_eq, decide_eq_false_iff_not]
  constructor
  · rintro rfl
    exact absurd bounds (by decide)
  · omega

theorem cutOff_of_isAsciiBlank
    (blank : isAsciiBlank c = true) :
    continuesWord c = false ∧ c ≠ '.' := by
  have bounds : c = ' ' ∨ 9 ≤ c.toNat ∧ c.toNat ≤ 13 := by
    simpa [isAsciiBlank] using blank
  constructor
  · rw [← Bool.not_eq_true, continuesWord, Bool.or_eq_true, startsWord_iff, isDecimalDigit_iff]
    rcases bounds with rfl | bounds
    · decide
    · rintro ((letter | rfl) | digit)
      · omega
      · exact absurd bounds (by decide)
      · omega
  · rintro rfl
    exact absurd bounds (by decide)

/-- A run of characters ends where the next one does not belong to it. -/
theorem run_of_cut
    (run : ∀ d ∈ text, p d = true)
    (cut : ∀ d ∈ more.head?, p d = false) :
    (text ++ more).takeWhile p = text ∧ (text ++ more).dropWhile p = more := by
  rw [List.takeWhile_append_of_pos run, List.dropWhile_append_of_pos run]
  cases more with
  | nil => simp
  | cons d rest => simp [cut d rfl]

end Characters

namespace Lexeme

variable {c d : Char} {symbol : Symbol} {more : List Char}

/-- A sign of one character is read as long as the next one does not make another sign of it. -/
theorem read_sign
    (isSign : single? c = some symbol)
    (alone : ∀ d ∈ more.head?, pair? c d = none) :
    Lexeme.read (c :: more) = .ok ⟨.symbol symbol, [c], more⟩ := by
  have asSymbol : Lexeme.read (c :: more) = .ok (readSymbol c more) := by
    unfold single? at isSign
    split at isSign <;> first | rfl | nomatch isSign
  rw [asSymbol]
  cases more with
  | nil => simp [readSymbol, readSingle, isSign]
  | cons d rest => simp [readSymbol, readSingle, isSign, alone d rfl]

theorem read_pair (isPair : pair? c d = some symbol) :
    Lexeme.read (c :: d :: more) = .ok ⟨.symbol symbol, [c, d], more⟩ := by
  unfold pair? at isPair
  split at isPair <;> first | (cases isPair; rfl) | nomatch isPair

/-- No sign of two characters ends with a blank or with the start of an operand. -/
theorem pair?_of_apart (apart : isAsciiBlank d = true ∨ opensExpr d = true) :
    pair? c d = none := by
  unfold pair?
  split <;> first | rfl | (revert apart; decide)

/-- A word is read up to what does not go on with it. -/
theorem read_word
    {rest : List Char}
    (starts : startsWord c = true)
    (goesOn : rest.all continuesWord = true)
    (cut : CutOff more) :
    Lexeme.read (c :: rest ++ more) = .ok ⟨.word (.ofList (c :: rest)), c :: rest, more⟩ := by
  rcases run_of_cut (List.all_eq_true.mp goesOn) fun d first => (cut d first).1 with
    ⟨taken, dropped⟩
  have first : IsFirst (c :: (rest ++ more)) _ := .word starts
  rw [taken, dropped] at first
  exact first.read

theorem read_name
    {name : String}
    (isName : Token.isName name = true)
    (cut : CutOff more) :
    Lexeme.read (name.toList ++ more) = .ok ⟨.word name, name.toList, more⟩ := by
  unfold Token.isName at isName
  split at isName
  · nomatch isName
  · rename_i c rest letters
    simp only [Bool.and_eq_true] at isName
    have read := read_word isName.1.1 isName.1.2 cut
    rwa [← letters, String.ofList_toList] at read

section Numbers

/-- A text that is cut off from a number starts with no digit. -/
theorem noDigit_of_cut (cut : CutOff more) : ∀ d ∈ more.head?, isDecimalDigit d = false := by
  intro d first
  have noWord := (cut d first).1
  simp only [continuesWord, Bool.or_eq_false_iff] at noWord
  exact noWord.2

theorem splitFraction_of_noPoint
    (noPoint : ∀ d ∈ more.head?, d ≠ '.') :
    splitFraction more = ([], more) := by
  unfold splitFraction
  split
  · exact absurd rfl (noPoint '.' rfl)
  · rfl

theorem readExponent_of_cut (cut : CutOff more) : readExponent more = ⟨[], 0, more⟩ := by
  cases more with
  | nil => rfl
  | cons c rest =>
      have noWord := (cut c rfl).1
      have noMark : (c == 'e' || c == 'E') = false := by
        rw [Bool.or_eq_false_iff, beq_eq_false_iff_ne, beq_eq_false_iff_ne]
        constructor <;>
        · rintro rfl
          nomatch noWord
      simp [readExponent, noMark]

theorem isDecimalDigit_of_mem_digits
    {m : Nat}
    (member : c ∈ Number.digits m) :
    isDecimalDigit c = true := by
  have isDigit := Nat.isDigit_of_mem_toDigits (by decide) (by decide) member
  simp only [Char.isDigit, Bool.and_eq_true, decide_eq_true_eq] at isDigit
  exact isDecimalDigit_iff.mpr isDigit

theorem digitsValue_digits (m : Nat) : digitsValue (Number.digits m) = m :=
  Nat.ofDigitChars_toDigits (by decide) (by decide)

theorem ofNat_natAbs {n : Int64} (nonnegative : 0 ≤ n.toInt) : Int64.ofNat n.toInt.natAbs = n := by
  have same : (n.toInt.natAbs : Int) = n.toInt := by omega
  rw [← Int64.ofInt_eq_ofNat, same, Int64.ofInt_toInt]

/-- The digits of an integer are read as the integer. -/
theorem read_int
    {n : Int64}
    (nonnegative : 0 ≤ n.toInt)
    (cut : CutOff more) :
    Lexeme.read (Number.wholeText n.toInt ++ more) =
      .ok ⟨.int n, Number.wholeText n.toInt, more⟩ := by
  let m := n.toInt.natAbs
  have written : Number.wholeText n.toInt = Number.digits m := by
    rw [Number.wholeText, if_neg (by omega)]
  have areDigits : ∀ d ∈ Number.digits m, isDecimalDigit d = true :=
    fun d => isDecimalDigit_of_mem_digits
  have small : (m : Int) ≤ Int64.maxValue.toInt := by
    have bound := Int64.toInt_le n
    omega
  have back : Int64.ofNat m = n := ofNat_natAbs nonnegative
  rcases run_of_cut areDigits (noDigit_of_cut cut) with ⟨taken, dropped⟩
  rw [written]
  cases digits : Number.digits m with
  | nil => exact absurd digits Nat.toDigits_ne_nil
  | cons c rest =>
      have first := isDecimalDigit_iff.mp (areDigits c (by simp [digits]))
      have starts : startsNumber c (rest ++ more) = true := by
        simp [startsNumber, isDecimalDigit_iff.mpr first]
      apply (IsFirst.number (by omega) starts ?_).read
      rw [← List.cons_append, ← digits, readNumber_eq, taken, dropped,
        splitFraction_of_noPoint fun d first => (cut d first).2, readExponent_of_cut cut]
      simp [numberLexeme, digitsValue_digits, small, back]

end Numbers

theorem readString_quoted_cons (c : Char) (rest : List Char) (position : Nat) :
    ∃ further, readString position (Expr.quoted c ++ rest) =
      (readString further rest).map (.cons c (Expr.quoted c)) := by
  unfold Expr.quoted
  split
  case h_5 noLine noReturn noQuote noEscape =>
    exact ⟨_, readString_plain noQuote noEscape position rest⟩
  all_goals exact ⟨position + 1 + 1, rfl⟩

/-- A string is read from its quoted characters. -/
theorem readString_quoted (text more : List Char) (position : Nat) :
    readString position (text.flatMap Expr.quoted ++ '"' :: more) =
      .ok ⟨text, text.flatMap Expr.quoted ++ ['"'], more⟩ := by
  induction text generalizing position with
  | nil => rfl
  | cons c rest ih =>
      rcases readString_quoted_cons c (rest.flatMap Expr.quoted ++ '"' :: more) position with
        ⟨further, read⟩
      rw [List.flatMap_cons, List.append_assoc, read, ih, List.append_assoc]
      rfl

theorem read_string (s : String) (more : List Char) :
    Lexeme.read (Expr.literalText (.string s) ++ more) =
      .ok ⟨.string s, Expr.literalText (.string s), more⟩ := by
  have read := readString_quoted s.toList more 1
  simp only [Expr.literalText, List.cons_append, List.append_assoc, List.nil_append]
  simpa using (IsFirst.string read).read

end Lexeme

namespace Style

variable (style : Style) {text : List Char} (opens : Opens text)

theorem dropWhile_gap_append
    (noBlank : text.dropWhile isAsciiBlank = text) :
    (style.gap ++ text).dropWhile isAsciiBlank = text := by
  rw [List.dropWhile_append_of_pos style.blank, noBlank]

include opens

theorem dropWhile_of_opens : text.dropWhile isAsciiBlank = text := by
  rcases opens with ⟨c, rest, rfl, isOpening⟩
  simp [not_blank_of_opensExpr isOpening]

/-- What stands behind an operator: a blank, or the start of an operand. -/
theorem head_gap_append :
    ∀ c ∈ (style.gap ++ text).head?, isAsciiBlank c = true ∨ opensExpr c = true := by
  intro c first
  cases gap : style.gap with
  | nil =>
      rcases opens with ⟨d, rest, rfl, isOpening⟩
      simp only [gap, List.nil_append, List.head?_cons, Option.mem_some_iff] at first
      exact .inr (first ▸ isOpening)
  | cons b rest =>
      simp only [gap, List.cons_append, List.head?_cons, Option.mem_some_iff] at first
      exact .inl (first ▸ style.blank b (by simp [gap]))

omit opens in
theorem cutOff_gap_append
    (more : style.gap ≠ [] ∨ CutOff text) :
    CutOff (style.gap ++ text) := by
  intro c first
  cases gap : style.gap with
  | nil =>
      rcases more with more | cut
      · exact absurd gap more
      · exact cut c (by simpa [gap] using first)
  | cons b rest =>
      simp only [gap, List.cons_append, List.head?_cons, Option.mem_some_iff] at first
      exact first ▸ cutOff_of_isAsciiBlank (style.blank b (by simp [gap]))

end Style

section Operators

variable (style : Style) {text : List Char} (opens : Opens text)

include opens

/-- An operator in front of an operand is read as that operator. -/
theorem BinaryOperator.read_sign (operator : BinaryOperator) :
    Lexeme.read (operator.sign style ++ (style.gap ++ text)) =
      .ok ⟨operator.token style, operator.sign style, style.gap ++ text⟩ := by
  have alone (c : Char) : ∀ d ∈ (style.gap ++ text).head?, Lexeme.pair? c d = none :=
    fun d first => Lexeme.pair?_of_apart (style.head_gap_append opens d first)
  have cut (words : style.words = true) : CutOff (style.gap ++ text) :=
    style.cutOff_gap_append (.inl (style.apart words))
  rcases operator with operator | comparison | operator
  · cases operator <;> exact Lexeme.read_sign rfl (alone _)
  · cases comparison
    case notEqual =>
      cases angles : style.angles <;>
        simp only [sign, angles, Bool.false_eq_true, if_false, if_true] <;>
        exact Lexeme.read_pair rfl
    case less | greater => exact Lexeme.read_sign rfl (alone _)
    all_goals exact Lexeme.read_pair rfl
  · cases words : style.words with
    | false =>
        cases operator <;> simp only [sign, token, words, Bool.false_eq_true, if_false] <;>
          exact Lexeme.read_pair rfl
    | true =>
        cases operator <;> simp only [sign, token, words, if_true] <;>
          exact Lexeme.read_word rfl rfl (cut words)

/-- An operator in front of its operand is read as that operator, and the operand follows. -/
theorem UnaryOperator.read_sign (operator : UnaryOperator) :
    ∃ lexeme, Lexeme.read (operator.sign style ++ text) = .ok lexeme ∧
      lexeme.token = operator.token style ∧ lexeme.rest.dropWhile isAsciiBlank = text := by
  have alone (c : Char) : ∀ d ∈ text.head?, Lexeme.pair? c d = none := by
    intro d first
    rcases opens with ⟨e, rest, rfl, isOpening⟩
    simp only [List.head?_cons, Option.mem_some_iff] at first
    exact Lexeme.pair?_of_apart (.inr (first ▸ isOpening))
  have noBlank := Style.dropWhile_of_opens opens
  cases operator with
  | negate => exact ⟨_, Lexeme.read_sign rfl (alone _), rfl, noBlank⟩
  | plus => exact ⟨_, Lexeme.read_sign rfl (alone _), rfl, noBlank⟩
  | not =>
      cases words : style.words with
      | false =>
          simp only [sign, token, words, Bool.false_eq_true, if_false]
          exact ⟨_, Lexeme.read_sign rfl (alone _), rfl, noBlank⟩
      | true =>
          have cut : CutOff (style.gap ++ text) :=
            style.cutOff_gap_append (.inl (style.apart words))
          simp only [sign, token, words, if_true, List.append_assoc]
          exact ⟨_, Lexeme.read_word rfl rfl cut, rfl,
            style.dropWhile_gap_append noBlank⟩

end Operators

/--
What may stand behind an expression that is written at a level: nothing that goes on with
its last token, and a token with which neither the level nor a tighter one goes on.
-/
structure Grammar.Level.Ends (level : Grammar.Level) (more : List Char) : Prop where
  cut : CutOff more
  next : ∃ lexeme, Lexeme.read (more.dropWhile isAsciiBlank) = .ok lexeme ∧
    level.Stops lexeme.token ∧ lexeme.token.isSymbol .leftBracket = false

namespace Grammar.Level

variable {level : Level} {c : Char} {symbol : Symbol} {more : List Char}

theorem Ends.mono
    {tight : Level}
    (ends : level.Ends more)
    (tighter : level.rank ≤ tight.rank) :
    tight.Ends more := by
  rcases ends.next with ⟨lexeme, read, stops, noBracket⟩
  exact ⟨ends.cut, lexeme, read, stops.mono tighter, noBracket⟩

theorem ends_nil (level : Level) : level.Ends [] := by
  have stops : conditional.Stops .endOfInput := by decide
  exact ⟨nofun, _, rfl, stops.mono (Nat.zero_le _), rfl⟩

/-- A sign that makes no other one with what follows ends what its token stops. -/
theorem ends_sign
    (isSign : Lexeme.single? c = some symbol)
    (alone : ∀ d ∈ more.head?, Lexeme.pair? c d = none)
    (noBlank : isAsciiBlank c = false)
    (cut : continuesWord c = false ∧ c ≠ '.')
    (stops : level.Stops (.symbol symbol))
    (noBracket : symbol ≠ .leftBracket) :
    level.Ends (c :: more) := by
  constructor
  · intro d first
    simp only [List.head?_cons, Option.mem_some_iff] at first
    exact first ▸ cut
  · refine ⟨⟨.symbol symbol, [c], more⟩, ?_, stops, by simpa [Token.isSymbol] using noBracket⟩
    rw [List.dropWhile_cons_of_neg (by simp [noBlank]), Lexeme.read_sign isSign alone]

/-- What ends an expression ends it behind blanks, too. -/
theorem Ends.gap_append
    (ends : level.Ends more)
    (style : Style)
    (noBlank : more.dropWhile isAsciiBlank = more) :
    level.Ends (style.gap ++ more) := by
  rcases ends.next with ⟨lexeme, read, stops, noBracket⟩
  refine ⟨style.cutOff_gap_append (.inr ends.cut), lexeme, ?_, stops, noBracket⟩
  rw [style.dropWhile_gap_append noBlank, ← noBlank, read]

theorem ends_parenthesis (level : Level) (more : List Char) : level.Ends (')' :: more) := by
  have stops : conditional.Stops (.symbol .rightParenthesis) := by decide
  exact ends_sign rfl (fun _ _ => rfl) (by decide) (by decide) (stops.mono (Nat.zero_le _))
    (by decide)

theorem ends_bracket (level : Level) (more : List Char) : level.Ends (']' :: more) := by
  have stops : conditional.Stops (.symbol .rightBracket) := by decide
  exact ends_sign rfl (fun _ _ => rfl) (by decide) (by decide) (stops.mono (Nat.zero_le _))
    (by decide)

theorem ends_comma (level : Level) (more : List Char) : level.Ends (',' :: more) := by
  have stops : conditional.Stops (.symbol .comma) := by decide
  exact ends_sign rfl (fun _ _ => rfl) (by decide) (by decide) (stops.mono (Nat.zero_le _))
    (by decide)

theorem ends_colon (style : Style) (more : List Char) :
    conditional.Ends (style.gap ++ ':' :: more) := by
  have ends : conditional.Ends (':' :: more) :=
    ends_sign rfl (fun _ _ => rfl) (by decide) (by decide) (by decide) (by decide)
  exact ends.gap_append style (by simp [isAsciiBlank])

theorem ends_question (style : Style) (more : List Char) :
    disjunction.Ends (style.gap ++ '?' :: more) := by
  have ends : disjunction.Ends ('?' :: more) :=
    ends_sign rfl (fun _ _ => rfl) (by decide) (by decide) (by decide) (by decide)
  exact ends.gap_append style (by simp [isAsciiBlank])

theorem stops_operator (style : Style) (operator : BinaryOperator) :
    operator.level.tighter.Stops (operator.token style) ∧
      (operator.token style).isSymbol .leftBracket = false := by
  rcases operator with operator | comparison | operator
  · cases operator <;> simp only [BinaryOperator.token] <;> decide
  · cases comparison <;> simp only [BinaryOperator.token] <;> decide
  · cases words : style.words <;> cases operator <;>
      simp only [BinaryOperator.token, words, Bool.false_eq_true, if_false, if_true] <;> decide

theorem head_operator (style : Style) (operator : BinaryOperator) :
    ∃ c rest, operator.sign style = c :: rest ∧ isAsciiBlank c = false ∧
      (style.words = true ∨ continuesWord c = false ∧ c ≠ '.') := by
  rcases operator with operator | comparison | operator
  · cases operator <;> exact ⟨_, _, rfl, by decide, .inr (by decide)⟩
  · cases comparison
    case notEqual =>
      cases angles : style.angles <;>
        simp only [BinaryOperator.sign, angles, Bool.false_eq_true, if_false, if_true] <;>
        exact ⟨_, _, rfl, by decide, .inr (by decide)⟩
    all_goals exact ⟨_, _, rfl, by decide, .inr (by decide)⟩
  · cases words : style.words with
    | false =>
        cases operator <;>
          simp only [BinaryOperator.sign, words, Bool.false_eq_true, if_false] <;>
          exact ⟨_, _, rfl, by decide, .inr (by decide)⟩
    | true =>
        cases operator <;> simp only [BinaryOperator.sign, words, if_true] <;>
          exact ⟨_, _, rfl, by decide, .inl trivial⟩

theorem dropWhile_operator (style : Style) (operator : BinaryOperator) (text : List Char) :
    (operator.sign style ++ text).dropWhile isAsciiBlank = operator.sign style ++ text := by
  rcases head_operator style operator with ⟨c, rest, sign, noBlank, _⟩
  simp [sign, noBlank]

/-- An operator ends its left operand at all levels that are tighter than its own. -/
theorem ends_operator
    (style : Style)
    (operator : BinaryOperator)
    {text : List Char}
    (opens : Opens text) :
    operator.level.tighter.Ends
      (style.gap ++ (operator.sign style ++ (style.gap ++ text))) := by
  have read := operator.read_sign style opens
  rcases stops_operator style operator with ⟨stops, noBracket⟩
  rcases head_operator style operator with ⟨c, rest, sign, _, cut⟩
  have visible := dropWhile_operator style operator (style.gap ++ text)
  constructor
  · refine style.cutOff_gap_append ?_
    rcases cut with words | cut
    · exact .inl (style.apart words)
    · refine .inr fun d first => ?_
      simp only [sign, List.cons_append, List.head?_cons, Option.mem_some_iff] at first
      exact first ▸ cut
  · rw [style.dropWhile_gap_append visible]
    exact ⟨_, read, stops, noBracket⟩

end Grammar.Level

namespace Expr

variable {style : Style} {expr : Expr}

theorem opens_append {text : List Char} (opens : Opens text) (more : List Char) :
    Opens (text ++ more) := by
  rcases opens with ⟨c, rest, rfl, isOpening⟩
  exact ⟨c, rest ++ more, rfl, isOpening⟩

theorem opens_enclosed
    {text : List Char}
    (opens : Opens text)
    (level : Grammar.Level)
    (expr : Expr) :
    Opens (expr.enclosed level text) := by
  unfold enclosed
  split
  · exact ⟨'(', _, rfl, by decide⟩
  · exact opens

theorem opens_name {name : String} (isName : Token.isName name = true) : Opens name.toList := by
  unfold Token.isName at isName
  split at isName
  · nomatch isName
  · rename_i c rest letters
    simp only [Bool.and_eq_true] at isName
    exact ⟨c, rest, letters, by simp [opensExpr, isName.1.1]⟩

theorem opens_int {n : Int64} (nonnegative : 0 ≤ n.toInt) :
    Opens (Number.wholeText n.toInt) := by
  rw [Number.wholeText, if_neg (by omega)]
  cases written : Number.digits n.toInt.natAbs with
  | nil => exact absurd written Nat.toDigits_ne_nil
  | cons c rest =>
      have member : c ∈ Number.digits n.toInt.natAbs := by simp [written]
      have isDigit := Lexeme.isDecimalDigit_of_mem_digits member
      exact ⟨c, rest, rfl, by simp [opensExpr, isDigit]⟩

/-- A written expression starts with a character that no operator goes on with. -/
theorem Plain.opens_text (plain : expr.Plain) : Opens (expr.text style) := by
  induction plain with
  | int nonnegative => exact opens_int nonnegative
  | bool b => cases b <;> exact ⟨_, _, rfl, by decide⟩
  | string s => exact ⟨'"', _, rfl, by decide⟩
  | named isName => exact opens_name isName
  | element isName => exact opens_append (opens_append (opens_name isName) _) _
  | unary operator _ ih =>
      cases operator with
      | negate => exact ⟨'-', _, rfl, by decide⟩
      | plus => exact ⟨'+', _, rfl, by decide⟩
      | not =>
          cases words : style.words <;>
            simp only [text, UnaryOperator.sign, words, Bool.false_eq_true, if_false, if_true] <;>
            exact ⟨_, _, rfl, by decide⟩
  | binary operator _ _ left right =>
      simp only [text, List.append_assoc]
      exact opens_append (opens_enclosed left _ _) _
  | conditional _ _ _ condition yes no =>
      simp only [text, List.append_assoc]
      exact opens_append (opens_enclosed condition _ _) _
  | minimum | maximum | random | changeFilament => exact ⟨_, _, rfl, by decide⟩
  | round rounding => cases rounding <;> exact ⟨_, _, rfl, by decide⟩

end Expr

end GcodeTemplate
