import GcodeTemplate.Proofs.Placing
import GcodeTemplate.Proofs.PrintedTokens
import Mathlib.Data.List.Forall2
import Mathlib.Data.List.TakeWhile

/-!
# Tokens and the blanks between them

The tokens of a source tile it: none is empty, each one stands behind the one before, and
what is outside of all of them is blank.  Where one token ends is decided by the token
alone.  So the text of a token is read as this token wherever a blank or the end of the
input follows, and blanks between tokens do nothing but separate them.
-/

namespace GcodeTemplate

open Text

/-- What a text starts with is a blank, if there is anything. -/
def StartsBlank (text : List Char) : Prop :=
  ∀ c ∈ text.head?, isAsciiBlank c = true

theorem StartsBlank.cutOff {more : List Char} (blank : StartsBlank more) : CutOff more :=
  fun c first => cutOff_of_isAsciiBlank (blank c first)

/-! ## Reading the text of a lexeme again -/

namespace Lexeme

variable {text more : List Char}

/-- What may stand in front of the digits of an exponent, and whether it makes it negative. -/
inductive IsSign : List Char → Bool → Prop
  | none : IsSign [] false
  | plus : IsSign ['+'] false
  | minus : IsSign ['-'] true

/-- An exponent: none at all, or a mark, maybe a sign, and digits. -/
inductive IsExponent : ExponentPart → Prop
  | none (rest : List Char) : IsExponent ⟨[], 0, rest⟩
  | digits {mark : Char} {sign digits : List Char} {negative : Bool} (rest : List Char)
      (isMark : mark = 'e' ∨ mark = 'E')
      (isSign : IsSign sign negative)
      (some : digits ≠ [])
      (areDigits : ∀ d ∈ digits, isDecimalDigit d = true) :
      IsExponent
        ⟨mark :: sign ++ digits, Number.signed negative (digitsValue digits), rest⟩

theorem isExponent_readExponentDigits
    {mark : Char}
    {sign : List Char}
    {negative : Bool}
    (isMark : mark = 'e' ∨ mark = 'E')
    (isSign : IsSign sign negative)
    (text behind : List Char) :
    IsExponent (readExponentDigits text (mark :: sign) negative behind) := by
  unfold readExponentDigits
  extract_lets digits
  split
  · exact .none text
  · rename_i some
    exact .digits _ isMark isSign (by simpa using some)
      (fun _ => List.mem_takeWhile_imp)

theorem isExponent_readExponent (text : List Char) : IsExponent (readExponent text) := by
  unfold readExponent
  split
  · exact .none []
  · split
    · rename_i isMark
      simp only [Bool.or_eq_true, beq_iff_eq] at isMark
      split
      · exact isExponent_readExponentDigits isMark .plus _ _
      · exact isExponent_readExponentDigits isMark .minus _ _
      · exact isExponent_readExponentDigits isMark .none _ _
    · exact .none _

/-- An exponent is read up to what does not go on with it. -/
theorem IsExponent.read
    {part : ExponentPart}
    (isExponent : IsExponent part)
    (cut : CutOff more) :
    readExponent (part.text ++ more) = { part with rest := more } := by
  cases isExponent with
  | none => exact readExponent_of_cut cut
  | @digits mark sign digits negative rest isMark isSign some areDigits =>
      have whole (text : List Char) :
          readExponentDigits text (mark :: sign) negative (digits ++ more) =
            ⟨mark :: sign ++ digits, Number.signed negative (digitsValue digits), more⟩ := by
        rcases run_of_cut areDigits (noDigit_of_cut cut) with ⟨taken, dropped⟩
        simp [readExponentDigits, taken, dropped, some]
      have marked : (mark == 'e' || mark == 'E') = true := by simpa using isMark
      cases isSign with
      | none =>
          cases digits with
          | nil => exact absurd rfl some
          | cons d digits =>
              -- Without a sign the mark is followed by a digit, which is none.
              have isDigit := isDecimalDigit_iff.1 (areDigits d List.mem_cons_self)
              have noPlus : d ≠ '+' := by
                rintro rfl
                exact absurd isDigit (by decide)
              have noMinus : d ≠ '-' := by
                rintro rfl
                exact absurd isDigit (by decide)
              simp only [List.cons_append, List.nil_append, readExponent, marked, if_true]
              split <;> simp_all
      | plus => simpa [readExponent, marked] using whole _
      | minus => simpa [readExponent, marked] using whole _

/-- Neither an exponent nor what is cut off from a number goes on with digits. -/
theorem IsExponent.noDigit
    {part : ExponentPart}
    (isExponent : IsExponent part)
    (cut : CutOff more) :
    ∀ c ∈ (part.text ++ more).head?, isDecimalDigit c = false ∧ c ≠ '.' := by
  cases isExponent with
  | none => exact fun c first => ⟨noDigit_of_cut cut c first, (cut c first).2⟩
  | digits rest isMark =>
      intro c first
      obtain rfl : _ = c := by simpa using first
      rcases isMark with rfl | rfl <;> decide

/-- A fraction is read up to what does not go on with it. -/
theorem splitFraction_fraction
    (text : List Char)
    (ends : ∀ c ∈ more.head?, isDecimalDigit c = false ∧ c ≠ '.') :
    splitFraction ((splitFraction text).1 ++ more) = ((splitFraction text).1, more) := by
  fun_cases splitFraction text with
  | case1 rest =>
      have digits : ∀ d ∈ rest.takeWhile isDecimalDigit, isDecimalDigit d = true :=
        fun _ => List.mem_takeWhile_imp
      rcases run_of_cut digits fun c first => (ends c first).1 with ⟨taken, dropped⟩
      simp [splitFraction, taken, dropped]
  | case2 => exact splitFraction_of_noPoint fun c first => (ends c first).2

/-- What stands behind the digits of a number starts with no digit. -/
theorem noDigit_fraction
    (text : List Char)
    (ends : ∀ c ∈ more.head?, isDecimalDigit c = false ∧ c ≠ '.') :
    ∀ c ∈ ((splitFraction text).1 ++ more).head?, isDecimalDigit c = false := by
  fun_cases splitFraction text with
  | case1 rest =>
      intro c first
      obtain rfl : '.' = c := by simpa using first
      rfl
  | case2 => exact fun c first => (ends c first).1

/-- A number is read up to what does not go on with it. -/
theorem readNumber_again
    {lexeme : Lexeme}
    (read : readNumber text = .ok lexeme)
    (cut : CutOff more) :
    readNumber (lexeme.text ++ more) = .ok { lexeme with rest := more } := by
  rw [readNumber_eq] at read
  generalize text.dropWhile isDecimalDigit = behind at read
  have exponent := isExponent_readExponent (splitFraction behind).2
  have ends := exponent.noDigit cut
  have digits : ∀ d ∈ text.takeWhile isDecimalDigit, isDecimalDigit d = true :=
    fun _ => List.mem_takeWhile_imp
  rcases run_of_cut digits (noDigit_fraction behind ends) with ⟨taken, dropped⟩
  have written : lexeme.text ++ more = text.takeWhile isDecimalDigit ++
      ((splitFraction behind).1 ++ ((readExponent (splitFraction behind).2).text ++ more)) := by
    rw [(numberLexeme_eq_ok read).1, List.append_assoc, List.append_assoc]
  rw [readNumber_eq, written, taken, dropped, splitFraction_fraction _ ends, exponent.read cut]
  exact numberLexeme_withRest read more

/-- What starts a number starts the text of the number, too. -/
theorem startsNumber_again
    {c : Char}
    {rest : List Char}
    {lexeme : Lexeme}
    (starts : startsNumber c rest = true)
    (read : readNumber (c :: rest) = .ok lexeme)
    (more : List Char) :
    ∃ tail, lexeme.text = c :: tail ∧ startsNumber c (tail ++ more) = true := by
  rw [readNumber_eq] at read
  rw [(numberLexeme_eq_ok read).1]
  simp only [startsNumber, Bool.or_eq_true, Bool.and_eq_true, beq_iff_eq] at starts ⊢
  rcases starts with digit | ⟨rfl, digit⟩
  · rw [List.takeWhile_cons_of_pos digit]
    exact ⟨_, rfl, .inl digit⟩
  · have noDigit : isDecimalDigit '.' = false := rfl
    cases rest with
    | nil => simp at digit
    | cons d rest =>
        simp only [List.head?_cons, Option.any_some] at digit
        simp [noDigit, splitFraction, digit]

/-- In front of a blank only a digit starts a number. -/
theorem startsNumber_of_startsBlank
    (blank : StartsBlank more)
    (c : Char) :
    startsNumber c more = isDecimalDigit c := by
  have noDigit : more.head?.any isDecimalDigit = false := by
    cases more with
    | nil => rfl
    | cons d rest => exact noDigit_of_cut blank.cutOff d rfl
  rw [startsNumber, noDigit, Bool.and_false, Bool.or_false]

theorem readSingle_withRest (c : Char) (rest more : List Char) :
    { readSingle c rest with rest := more } = readSingle c more ∧
      (readSingle c rest).text = [c] := by
  unfold readSingle
  split <;> exact ⟨rfl, rfl⟩

theorem readSymbol_of_startsBlank
    (blank : StartsBlank more)
    (c : Char) :
    readSymbol c more = readSingle c more := by
  cases more with
  | nil => rfl
  | cons d rest => simp only [readSymbol, pair?_of_apart (.inl (blank d rfl))]

/-- A sign in front of a blank is read as the sign that it is. -/
theorem readSymbol_again
    {c : Char}
    {rest : List Char}
    (ascii : c.toNat < 128)
    (noNumber : startsNumber c rest = false)
    (noQuote : c ≠ '"')
    (noWord : startsWord c = false)
    (blank : StartsBlank more) :
    Lexeme.read ((readSymbol c rest).text ++ more) =
      .ok { readSymbol c rest with rest := more } := by
  have single (rest : List Char) :
      Lexeme.read ((readSingle c rest).text ++ more) =
        .ok { readSingle c rest with rest := more } := by
    have noDigit : startsNumber c more = false := by
      rw [startsNumber_of_startsBlank blank]
      exact (Bool.or_eq_false_iff.1 noNumber).1
    have first : IsFirst (c :: more) (readSymbol c more) :=
      .sign ascii noDigit noQuote noWord
    rw [readSymbol_of_startsBlank blank] at first
    rw [(readSingle_withRest c rest more).1, (readSingle_withRest c rest more).2]
    exact first.read
  unfold readSymbol
  split
  · exact single []
  · split
    · rename_i isPair
      exact read_pair isPair
    · exact single _

/--
The text of the first token of a text is read as this token again, wherever a blank or the
end follows.
-/
theorem read_again
    {lexeme : Lexeme}
    (read : Lexeme.read text = .ok lexeme)
    (some : text ≠ [])
    (blank : StartsBlank more) :
    Lexeme.read (lexeme.text ++ more) = .ok { lexeme with rest := more } := by
  cases isFirst_of_read read with
  | none => exact absurd rfl some
  | number ascii starts number =>
      rcases startsNumber_again starts number more with ⟨tail, written, again⟩
      have whole := readNumber_again number blank.cutOff
      rw [written] at whole ⊢
      exact (IsFirst.number ascii again whole).read
  | string body => exact (IsFirst.string (readString_withRest body more)).read
  | word starts => exact read_word starts List.all_takeWhile blank.cutOff
  | sign ascii noNumber noQuote noWord =>
      exact readSymbol_again ascii noNumber noQuote noWord blank

end Lexeme

/-! ## The text of a token -/

/--
A text that is read as a token wherever it stands behind a blank or at the start, and in
front of a blank or of the end.
-/
structure Token.WrittenAs (token : Token) (text : List Char) : Prop where
  opens : ∃ c rest, text = c :: rest ∧ isAsciiBlank c = false
  read : ∀ more, StartsBlank more → Lexeme.read (text ++ more) = .ok ⟨token, text, more⟩

namespace Token.WrittenAs

variable {token : Token} {text more : List Char} {cursor : Cursor}

/-- The first token of a text that starts with no blank is written as its text. -/
theorem of_read
    {c : Char}
    {rest : List Char}
    {lexeme : Lexeme}
    (read : Lexeme.read (c :: rest) = .ok lexeme)
    (visible : isAsciiBlank c = false) :
    lexeme.token.WrittenAs lexeme.text where
  opens := by
    have whole := Lexeme.read_text_rest read
    cases written : lexeme.text with
    | nil => exact absurd written (Lexeme.read_text_ne_nil read)
    | cons d tail =>
        rw [written] at whole
        cases whole
        exact ⟨_, _, rfl, visible⟩
  read _ blank := Lexeme.read_again read nofun blank

theorem byteWidth_pos (written : token.WrittenAs text) : 0 < byteWidth text := by
  rcases written.opens with ⟨c, rest, rfl, _⟩
  exact Nat.add_pos_left c.utf8Size_pos _

theorem ne_endOfInput (written : token.WrittenAs text) : token ≠ .endOfInput := by
  rintro rfl
  rcases written.opens with ⟨c, rest, rfl, _⟩
  nomatch Lexeme.eq_nil_of_endOfInput (written.read [] nofun) rfl

/-- Behind blanks, and in front of one or of the end, the token is read with its text. -/
theorem advance
    (written : token.WrittenAs text)
    {lead : List Char}
    (blank : ∀ c ∈ lead, isAsciiBlank c = true)
    (ahead : cursor.rest = lead ++ (text ++ more))
    (behind : StartsBlank more) :
    ∃ moved, Parser.advance cursor = .ok ((token, ⟨cursor.position + byteWidth lead,
        cursor.position + byteWidth lead + byteWidth text⟩), moved) ∧
      moved.rest = more ∧
      moved.position = cursor.position + byteWidth lead + byteWidth text := by
  have noBlank : ∀ c ∈ (text ++ more).head?, isAsciiBlank c = false := by
    rcases written.opens with ⟨c, rest, rfl, visible⟩
    simpa using visible
  rcases run_of_cut blank noBlank with ⟨taken, dropped⟩
  have found : Parser.lexemeAt cursor = .ok (⟨token, text, more⟩,
      ⟨cursor.position + byteWidth lead,
        cursor.position + byteWidth lead + byteWidth text⟩) := by
    simp only [Parser.lexemeAt, ahead, taken, dropped, written.read more behind,
      byteWidth_of_blank blank]
  exact ⟨_, Parser.advance_of_lexeme found, rfl, rfl⟩

end Token.WrittenAs

namespace Parser

/-! ## Reading to the end -/

/-- Token after token is read from a cursor, up to the end of the input at a span. -/
inductive ReadsThrough : Cursor → List (Token × Span) → Span → Prop
  | ends {cursor moved : Cursor} {span : Span}
      (read : advance cursor = .ok ((.endOfInput, span), moved)) :
      ReadsThrough cursor [] span
  | next {cursor moved : Cursor} {token : Token} {span final : Span}
      {tokens : List (Token × Span)}
      (read : advance cursor = .ok ((token, span), moved))
      (goesOn : token ≠ .endOfInput)
      (others : ReadsThrough moved tokens final) :
      ReadsThrough cursor ((token, span) :: tokens) final

variable {cursor moved : Cursor} {token : Token} {span final : Span}

/-- Blanks, the text of a token, and the rest are what is behind a cursor. -/
theorem advance_splits
    (read : advance cursor = .ok ((token, span), moved))
    (goesOn : token ≠ .endOfInput) :
    ∃ lead text, cursor.rest = lead ++ (text ++ moved.rest) ∧
      (∀ c ∈ lead, isAsciiBlank c = true) ∧
      token.WrittenAs text ∧
      span = ⟨cursor.position + byteWidth lead,
        cursor.position + byteWidth lead + byteWidth text⟩ ∧
      moved.position = span.stop := by
  rcases advance_eq_ok read with ⟨lexeme, found, rfl, rfl⟩
  rcases lexemeAt_eq_ok found with ⟨first, starts, stops⟩
  have blank : ∀ c ∈ cursor.rest.takeWhile isAsciiBlank, isAsciiBlank c = true :=
    fun _ => List.mem_takeWhile_imp
  have visible := List.head?_dropWhile_not isAsciiBlank cursor.rest
  have whole := Lexeme.read_text_rest first
  refine ⟨cursor.rest.takeWhile isAsciiBlank, lexeme.text, ?_, blank, ?_, ?_, rfl⟩
  · rw [behind, whole, List.takeWhile_append_dropWhile]
  · cases ahead : cursor.rest.dropWhile isAsciiBlank with
    | nil =>
        rw [ahead] at first
        cases first
        exact absurd rfl goesOn
    | cons c rest =>
        rw [ahead] at first visible
        exact .of_read first visible
  · rw [byteWidth_of_blank blank, ← starts, ← stops]

/-- Behind blanks and nothing else the input ends. -/
theorem lexemeAt_of_blank (blank : ∀ c ∈ cursor.rest, isAsciiBlank c = true) :
    lexemeAt cursor =
      .ok (⟨.endOfInput, [], []⟩, .point (cursor.position + byteWidth cursor.rest)) := by
  rw [lexemeAt, List.dropWhile_eq_nil_iff.2 blank, List.takeWhile_eq_self_iff.2 blank,
    byteWidth_of_blank blank]
  rfl

/-- Only blanks are behind a cursor at which the input ends. -/
theorem advance_ends
    (read : advance cursor = .ok ((.endOfInput, span), moved)) :
    (∀ c ∈ cursor.rest, isAsciiBlank c = true) ∧
      span = .point (cursor.position + byteWidth cursor.rest) := by
  rcases advance_eq_ok read with ⟨lexeme, found, ends, rfl⟩
  have none := Lexeme.eq_nil_of_endOfInput (lexemeAt_eq_ok found).1 ends
  have blank := List.dropWhile_eq_nil_iff.1 none
  rw [lexemeAt_of_blank blank] at found
  cases found
  exact ⟨blank, rfl⟩

end Parser

/-! ## Spans that tile a text -/

/--
Spans tile a text that has some bytes in front of it: none is empty, each one stands behind
the one before, and every character of the text is inside of one, or blank.
-/
structure Span.Tile (position : Nat) (text : List Char) (spans : List Span) : Prop where
  behind : ∀ span ∈ spans, position ≤ span.start
  nonempty : ∀ span ∈ spans, span.start < span.stop
  apart : spans.Pairwise fun first second => first.stop ≤ second.start
  blank : ∀ before c after, text = before ++ c :: after →
    (∃ span ∈ spans, span.start ≤ position + byteWidth before ∧
      position + byteWidth before + c.utf8Size ≤ span.stop) ∨
    isAsciiBlank c = true

namespace Span.Tile

/-- A character of a text in two parts is in the one or in the other. -/
theorem split_of_append
    {front back before after : List Char}
    {c : Char}
    (split : front ++ back = before ++ c :: after) :
    (∃ inside, front = before ++ c :: inside) ∨
      ∃ further, before = front ++ further ∧ back = further ++ c :: after := by
  rcases List.append_eq_append_iff.1 split with ⟨further, first, second⟩ | ⟨inside, first, second⟩
  · exact .inr ⟨further, first, second⟩
  · cases inside with
    | nil => exact .inr ⟨[], by simpa using first.symm, second.symm⟩
    | cons d inside =>
        cases second
        exact .inl ⟨inside, first⟩

variable {position : Nat} {lead text rest : List Char} {spans : List Span}

theorem nil (blank : ∀ c ∈ text, isAsciiBlank c = true) : Span.Tile position text [] where
  behind := by simp
  nonempty := by simp
  apart := .nil
  blank before c after split := .inr (blank c (by simp [split]))

theorem cons
    (blank : ∀ c ∈ lead, isAsciiBlank c = true)
    (some : 0 < byteWidth text)
    (tile : Span.Tile (position + byteWidth lead + byteWidth text) rest spans) :
    Span.Tile position (lead ++ (text ++ rest))
      (⟨position + byteWidth lead, position + byteWidth lead + byteWidth text⟩ :: spans) where
  behind := by
    rw [List.forall_mem_cons]
    refine ⟨Nat.le_add_right _ _, fun span isThere => ?_⟩
    have further := tile.behind span isThere
    omega
  nonempty := List.forall_mem_cons.2 ⟨Nat.lt_add_of_pos_right some, tile.nonempty⟩
  apart := List.pairwise_cons.2 ⟨tile.behind, tile.apart⟩
  blank before c after split := by
    rcases split_of_append split with ⟨inside, rfl⟩ | ⟨further, rfl, behindLead⟩
    · exact .inr (blank c (by simp))
    · rcases split_of_append behindLead with ⟨inside, rfl⟩ | ⟨further, rfl, rfl⟩
      · refine .inl ⟨_, List.mem_cons_self, ?_⟩
        simp only [byteWidth_append, byteWidth_cons]
        omega
      · rcases tile.blank further c after rfl with ⟨span, isThere, bounds⟩ | isBlank
        · refine .inl ⟨span, List.mem_cons_of_mem _ isThere, ?_⟩
          simp only [byteWidth_append]
          omega
        · exact .inr isBlank

end Span.Tile

/-! ## Texts with blanks between them -/

/-- Texts one after the other, with blanks behind them, at least one between each two. -/
inductive Spaced : List (List Char) → List Char → Prop
  | nil : Spaced [] []
  | cons {text gap more : List Char} {texts : List (List Char)}
      (blank : ∀ c ∈ gap, isAsciiBlank c = true)
      (apart : texts ≠ [] → gap ≠ [])
      (others : Spaced texts more) :
      Spaced (text :: texts) (text ++ (gap ++ more))

/-- Texts are spaced by one gap between each two of them. -/
theorem spaced_intercalate
    {gap : List Char}
    (blank : ∀ c ∈ gap, isAsciiBlank c = true)
    (some : gap ≠ [])
    (texts : List (List Char)) :
    Spaced texts (gap.intercalate texts) := by
  induction texts with
  | nil => exact .nil
  | cons text texts ih =>
      cases texts with
      | nil =>
          have alone : Spaced [text] (text ++ ([] ++ [])) :=
            .cons (by simp) (by simp) .nil
          simpa using alone
      | cons next texts =>
          rw [List.intercalate_cons_cons, List.append_assoc]
          exact .cons blank (fun _ => some) ih

/-- What follows a text among spaced ones starts with a blank, if there is anything. -/
theorem startsBlank_of_spaced
    {gap more : List Char}
    {texts : List (List Char)}
    (blank : ∀ c ∈ gap, isAsciiBlank c = true)
    (apart : texts ≠ [] → gap ≠ [])
    (others : Spaced texts more) :
    StartsBlank (gap ++ more) := by
  intro c first
  cases gap with
  | nil =>
      cases others with
      | nil => nomatch first
      | cons => exact absurd rfl (apart nofun)
  | cons b gap =>
      obtain rfl : b = c := by simpa using first
      exact blank b List.mem_cons_self

namespace Parser

/-- Spaced texts of tokens are read as these tokens. -/
theorem readsThrough_of_spaced
    {tokens : List Token}
    {texts : List (List Char)}
    (written : List.Forall₂ Token.WrittenAs tokens texts)
    {joined : List Char}
    (spaced : Spaced texts joined)
    {lead : List Char}
    (blank : ∀ c ∈ lead, isAsciiBlank c = true)
    {cursor : Cursor}
    (ahead : cursor.rest = lead ++ joined) :
    ∃ reads final, ReadsThrough cursor reads final ∧ reads.map Prod.fst = tokens := by
  -- The gap behind one text stands in front of the next one.
  induction spaced generalizing tokens lead cursor with
  | nil =>
      cases written
      rw [List.append_nil] at ahead
      exact ⟨[], _, .ends (advance_of_lexeme (lexemeAt_of_blank (ahead ▸ blank))), rfl⟩
  | cons blankBehind apart others ih =>
      cases written with
      | cons first rest =>
          have behind := startsBlank_of_spaced blankBehind apart others
          rcases first.advance blank ahead behind with ⟨moved, read, left, _⟩
          rcases ih rest blankBehind left with ⟨reads, final, through, same⟩
          exact ⟨_, final, .next read first.ne_endOfInput through, by rw [List.map_cons, same]⟩

/-- The text of a token alone is read as the token, and as nothing else. -/
theorem readsThrough_of_written
    {token : Token}
    {text : List Char}
    (written : token.WrittenAs text) :
    ReadsThrough (Cursor.start (.ofList text)) [(token, ⟨0, byteWidth text⟩)]
      (.point (byteWidth text)) := by
  have none : ∀ c ∈ ([] : List Char), isAsciiBlank c = true := nofun
  have ahead : (Cursor.start (.ofList text)).rest = [] ++ (text ++ []) := by
    simp [Cursor.start]
  rcases written.advance none ahead nofun with ⟨moved, read, left, stands⟩
  have position : (Cursor.start (.ofList text)).position + byteWidth [] = 0 := rfl
  rw [position, Nat.zero_add] at read stands
  have atEnd : ∀ c ∈ moved.rest, isAsciiBlank c = true := left ▸ none
  have ends := advance_of_lexeme (lexemeAt_of_blank atEnd)
  rw [left, stands] at ends
  exact .next read written.ne_endOfInput (.ends ends)

/--
What is read from a cursor tiles what is behind it, and where each token was read its text
stands; at last the end of the source is reached.
-/
theorem ReadsThrough.tile
    {source : List Char}
    {cursor : Cursor}
    {tokens : List (Token × Span)}
    {final : Span}
    (through : ReadsThrough cursor tokens final)
    {before : List Char}
    (there : source = before ++ cursor.rest)
    (width : byteWidth before = cursor.position) :
    Span.Tile cursor.position cursor.rest (tokens.map Prod.snd) ∧
      final = .point (byteWidth source) ∧
      ∃ texts, List.Forall₂ Token.WrittenAs (tokens.map Prod.fst) texts ∧
        List.Forall₂ (Span.Holds source) (tokens.map Prod.snd) texts := by
  -- What is in front of the cursor grows by what is read; the rest is tiled from there.
  induction through generalizing before with
  | ends read =>
      rcases advance_ends read with ⟨blank, rfl⟩
      refine ⟨.nil blank, by rw [there, byteWidth_append, width], [], .nil, .nil⟩
  | @next cursor moved token span final tokens read goesOn others ih =>
      rcases advance_splits read goesOn with
        ⟨lead, text, ahead, blank, written, rfl, stands⟩
      have thereBehind : source = (before ++ (lead ++ text)) ++ moved.rest := by
        rw [there, ahead, List.append_assoc, List.append_assoc]
      have widthBehind : byteWidth (before ++ (lead ++ text)) = moved.position := by
        rw [stands, byteWidth_append, byteWidth_append, width, Nat.add_assoc]
      rcases ih thereBehind widthBehind with ⟨tile, last, texts, areWritten, areHeld⟩
      have holds : Span.Holds source ⟨cursor.position + byteWidth lead,
          cursor.position + byteWidth lead + byteWidth text⟩ text :=
        ⟨before ++ lead, moved.rest, by simp [there, ahead], by rw [byteWidth_append, width]⟩
      rw [stands] at tile
      refine ⟨?_, last, text :: texts, .cons written areWritten, .cons holds areHeld⟩
      rw [ahead]
      exact tile.cons blank written.byteWidth_pos

end Parser

/--
If the tokens of a source can be read up to its end, their spans tile the source.  The text
of each of them alone is read as this token; and the texts one after the other are read as
the same tokens, whatever blanks stand between them.
-/
theorem tokens_tile_source
    {source : String}
    {tokens : List (Token × Span)}
    {final : Span}
    (through : Parser.ReadsThrough (Cursor.start source) tokens final) :
    final = .point (byteWidth source.toList) ∧
    Span.Tile 0 source.toList (tokens.map Prod.snd) ∧
    ∃ texts,
      List.Forall₂ (Span.Holds source.toList) (tokens.map Prod.snd) texts ∧
      List.Forall₂
        (fun token text => Parser.ReadsThrough (Cursor.start (.ofList text))
          [(token, ⟨0, byteWidth text⟩)] (.point (byteWidth text)))
        (tokens.map Prod.fst) texts ∧
      ∀ lead joined, (∀ c ∈ lead, isAsciiBlank c = true) → Spaced texts joined →
        ∃ reads last,
          Parser.ReadsThrough (Cursor.start (.ofList (lead ++ joined))) reads last ∧
          reads.map Prod.fst = tokens.map Prod.fst := by
  have there : source.toList = [] ++ (Cursor.start source).rest := rfl
  rcases through.tile there rfl with ⟨tile, last, texts, areWritten, areHeld⟩
  refine ⟨last, tile, texts, areHeld, ?_, ?_⟩
  · exact areWritten.imp fun _ _ => Parser.readsThrough_of_written
  · intro lead joined blank spaced
    exact Parser.readsThrough_of_spaced areWritten spaced blank String.toList_ofList

/--
Three tokens without a blank between them, and a string with a blank and a character of two
bytes in it.
-/
theorem tokens_read_with_and_without_blanks :
    let source := " x<>12 \"é ~\""
    let tokens : List (Token × Span) :=
      [(.word "x", ⟨1, 2⟩), (.symbol .notEqual, ⟨2, 4⟩), (.int 12, ⟨4, 6⟩),
        (.string "é ~", ⟨7, 13⟩)]
    Parser.ReadsThrough (Cursor.start source) tokens (.point 13) ∧
      Span.Tile 0 source.toList [⟨1, 2⟩, ⟨2, 4⟩, ⟨4, 6⟩, ⟨7, 13⟩] ∧
      ∃ texts,
        List.Forall₂ (Span.Holds source.toList) [⟨1, 2⟩, ⟨2, 4⟩, ⟨4, 6⟩, ⟨7, 13⟩] texts ∧
        ∃ reads last,
          Parser.ReadsThrough (Cursor.start (.ofList ([' '].intercalate texts))) reads last ∧
          reads.map Prod.fst = tokens.map Prod.fst := by
  intro source tokens
  have word : Parser.advance (Cursor.start " x<>12 \"é ~\"") =
      .ok ((.word "x", ⟨1, 2⟩), ⟨"<>12 \"é ~\"".toList, 2, 2, 0⟩) := rfl
  have sign : Parser.advance ⟨"<>12 \"é ~\"".toList, 2, 2, 0⟩ =
      .ok ((.symbol .notEqual, ⟨2, 4⟩), ⟨"12 \"é ~\"".toList, 4, 4, 0⟩) := rfl
  have number : Parser.advance ⟨"12 \"é ~\"".toList, 4, 4, 0⟩ =
      .ok ((.int 12, ⟨4, 6⟩), ⟨" \"é ~\"".toList, 6, 6, 0⟩) := rfl
  have string : Parser.advance ⟨" \"é ~\"".toList, 6, 6, 0⟩ =
      .ok ((.string "é ~", ⟨7, 13⟩), ⟨[], 13, 13, 0⟩) := rfl
  have ends : Parser.advance ⟨[], 13, 13, 0⟩ =
      .ok ((.endOfInput, .point 13), ⟨[], 13, 13, 0⟩) := rfl
  have through : Parser.ReadsThrough (Cursor.start source) tokens (.point 13) :=
    .next word nofun (.next sign nofun (.next number nofun (.next string nofun (.ends ends))))
  rcases tokens_tile_source through with ⟨_, tile, texts, held, _, spaced⟩
  have space : ∀ c ∈ [' '], isAsciiBlank c = true := List.all_eq_true.1 rfl
  exact ⟨through, tile, texts, held,
    spaced [] _ nofun (spaced_intercalate space nofun texts)⟩

end GcodeTemplate
