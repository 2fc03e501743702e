import GcodeTemplate.Proofs.Lexing

/-!
# Tokens in front of a seam

A token that is read from a text is also read if more text follows, as long as the
reader is kept from running over the seam.  A closing brace or bracket in front of
the seam does that, because no other token contains it or goes on with it; so does
a brace behind the seam, but there it takes the place of the end of the input.
-/

namespace GcodeTemplate

open Text

/--
What keeps a reader from running from a text into more text behind it.  A brace at
the start of the other text counts only where it is told to.
-/
def Seam (closed : Bool) (text more : List Char) : Prop :=
  more = [] ∨ '}' ∈ text ∨ ']' ∈ text ∨ (closed = true ∧ more.head? = some '}')

namespace Seam

variable {closed : Bool} {text longer more : List Char}

theorem mono (seam : Seam closed text more) (ends : text <:+ longer) :
    Seam closed longer more := by
  rcases seam with none | brace | bracket | behind
  · exact .inl none
  · exact .inr (.inl (ends.subset brace))
  · exact .inr (.inr (.inl (ends.subset bracket)))
  · exact .inr (.inr (.inr behind))

theorem of_nil (text : List Char) : Seam closed text [] :=
  .inl rfl

/-- A text without a seam in front ends the input, or a brace follows it. -/
theorem nil_eq (seam : Seam closed [] more) :
    more = [] ∨ closed = true ∧ ∃ rest, more = '}' :: rest := by
  rcases seam with none | brace | bracket | ⟨isClosed, behind⟩
  · exact .inl none
  · nomatch brace
  · nomatch bracket
  · cases more with
    | nil => nomatch behind
    | cons c rest =>
        simp only [List.head?_cons, Option.some.injEq] at behind
        exact .inr ⟨isClosed, rest, behind ▸ rfl⟩

/-- A character that is no closing brace or bracket does not keep a reader from anything. -/
theorem tail
    {c : Char}
    (seam : Seam closed (c :: text) more)
    (noBrace : c ≠ '}')
    (noBracket : c ≠ ']') :
    Seam closed text more := by
  rcases seam with none | brace | bracket | behind
  · exact .inl none
  · rcases List.mem_cons.mp brace with same | brace
    · exact absurd same.symm noBrace
    · exact .inr (.inl brace)
  · rcases List.mem_cons.mp bracket with same | bracket
    · exact absurd same.symm noBracket
    · exact .inr (.inr (.inl bracket))
  · exact .inr (.inr (.inr behind))

/-- A run of characters without braces and brackets does not go over a seam. -/
theorem run_append
    (seam : Seam closed text more)
    (test : Char → Bool)
    (noBrace : test '}' = false)
    (noBracket : test ']' = false) :
    (text ++ more).takeWhile test = text.takeWhile test ∧
      (text ++ more).dropWhile test = text.dropWhile test ++ more := by
  induction text with
  | nil =>
      rcases seam.nil_eq with rfl | ⟨_, rest, rfl⟩
      · exact ⟨rfl, rfl⟩
      · simp [noBrace]
  | cons c text ih =>
      cases passes : test c with
      | false =>
          simp [passes]
      | true =>
          have inside : Seam closed text more := by
            apply seam.tail
            · rintro rfl
              simp [noBrace] at passes
            · rintro rfl
              simp [noBracket] at passes
          simpa [passes] using ih inside

/-- Behind such a run the seam is still ahead. -/
theorem behind_run
    (seam : Seam closed text more)
    (test : Char → Bool)
    (noBrace : test '}' = false)
    (noBracket : test ']' = false) :
    Seam closed (text.dropWhile test) more := by
  induction text with
  | nil => exact seam
  | cons c text ih =>
      cases passes : test c with
      | false =>
          simpa [passes] using seam
      | true =>
          rw [List.dropWhile_cons_of_pos passes]
          apply ih
          apply seam.tail
          · rintro rfl
            simp [noBrace] at passes
          · rintro rfl
            simp [noBracket] at passes

end Seam

namespace Lexeme

variable {closed : Bool} {text more : List Char}

/-- The same exponent with more text behind the rest. -/
def ExponentPart.append (part : ExponentPart) (more : List Char) : ExponentPart :=
  { part with rest := part.rest ++ more }

theorem readExponentDigits_append
    {behind : List Char}
    (seam : Seam closed behind more)
    (text mark : List Char)
    (negative : Bool) :
    readExponentDigits (text ++ more) mark negative (behind ++ more) =
      (readExponentDigits text mark negative behind).append more := by
  rcases seam.run_append isDecimalDigit rfl rfl with ⟨taken, dropped⟩
  simp only [readExponentDigits, taken, dropped]
  split <;> rfl

theorem readExponent_append (seam : Seam closed text more) :
    readExponent (text ++ more) = (readExponent text).append more := by
  cases text with
  | nil =>
      rcases seam.nil_eq with rfl | ⟨_, rest, rfl⟩ <;> rfl
  | cons mark behind =>
      by_cases isMark : (mark == 'e' || mark == 'E') = true
      · have inside : Seam closed behind more := by
          apply seam.tail <;> rintro rfl <;> simp at isMark
        simp only [List.cons_append, readExponent, isMark, if_true]
        cases behind with
        | nil =>
            rcases inside.nil_eq with rfl | ⟨_, rest, rfl⟩ <;> rfl
        | cons sign digits =>
            by_cases plus : sign = '+'
            · subst plus
              exact readExponentDigits_append (inside.tail (by decide) (by decide))
                (mark :: '+' :: digits) [mark, '+'] false
            · by_cases minus : sign = '-'
              · subst minus
                exact readExponentDigits_append (inside.tail (by decide) (by decide))
                  (mark :: '-' :: digits) [mark, '-'] true
              · have unsigned := readExponentDigits_append inside (mark :: sign :: digits)
                  [mark] false
                simpa [plus, minus] using unsigned
      · simp only [List.cons_append, readExponent, isMark]
        rfl

theorem splitFraction_seam (seam : Seam closed text more) :
    splitFraction (text ++ more) = ((splitFraction text).1, (splitFraction text).2 ++ more) ∧
      Seam closed (splitFraction text).2 more := by
  cases text with
  | nil =>
      rcases seam.nil_eq with rfl | ⟨_, rest, rfl⟩ <;> exact ⟨rfl, seam⟩
  | cons c text =>
      by_cases point : c = '.'
      · subst point
        have inside := seam.tail (by decide) (by decide)
        rcases inside.run_append isDecimalDigit rfl rfl with ⟨taken, dropped⟩
        simp only [List.cons_append, splitFraction, taken, dropped]
        exact ⟨trivial, inside.behind_run isDecimalDigit rfl rfl⟩
      · simpa [splitFraction, point] using seam

/-- The same lexeme with more text behind the rest. -/
def append (lexeme : Lexeme) (more : List Char) : Lexeme :=
  { lexeme with rest := lexeme.rest ++ more }

/-- What follows a number does not matter for what is made of its parts. -/
theorem numberLexeme_withRest
    {whole fraction : List Char}
    {exponent : ExponentPart}
    {lexeme : Lexeme}
    (read : numberLexeme whole fraction exponent = .ok lexeme)
    (more : List Char) :
    numberLexeme whole fraction { exponent with rest := more } =
      .ok { lexeme with rest := more } := by
  unfold numberLexeme at read ⊢
  split at read
  · rename_i isWhole
    split at read
    · rename_i small
      cases read
      simp only [isWhole, small, if_true]
    · nomatch read
  · rename_i notWhole
    cases read
    simp only [notWhole]
    rfl

theorem numberLexeme_append
    {whole fraction : List Char}
    {exponent : ExponentPart}
    {lexeme : Lexeme}
    (read : numberLexeme whole fraction exponent = .ok lexeme)
    (more : List Char) :
    numberLexeme whole fraction (exponent.append more) = .ok (lexeme.append more) := by
  rw [ExponentPart.append, numberLexeme_withRest read, append, (numberLexeme_eq_ok read).2]

theorem readNumber_append
    {lexeme : Lexeme}
    (seam : Seam closed text more)
    (read : readNumber text = .ok lexeme) :
    readNumber (text ++ more) = .ok (lexeme.append more) := by
  rcases seam.run_append isDecimalDigit rfl rfl with ⟨taken, dropped⟩
  rcases splitFraction_seam (seam.behind_run isDecimalDigit rfl rfl) with
    ⟨split, inside⟩
  rw [readNumber_eq] at read ⊢
  rw [taken, dropped, split, readExponent_append inside]
  exact numberLexeme_append read more

theorem readString_plain
    {c : Char}
    (noQuote : c ≠ '"')
    (noEscape : c ≠ '\\')
    (position : Nat)
    (rest : List Char) :
    readString position (c :: rest) =
      (readString (position + c.utf8Size) rest).map (.cons c [c]) := by
  rw [readString.eq_def]
  split <;> simp_all

/-- A string is read up to its closing quote, whatever follows. -/
theorem readString_withRest
    {position : Nat}
    {body : StringBody}
    (read : readString position text = .ok body)
    (more : List Char) :
    readString position (body.text ++ more) = .ok { body with rest := more } := by
  fun_induction readString position text generalizing body with
  | case1 => cases read
  | case2 => cases read; rfl
  | case3 => cases read
  | case4 => cases read
  | case5 position c rest meant isEscape ih =>
      cases inner : readString (position + 1 + c.utf8Size) rest with
      | error flaw => simp [inner, Except.map] at read
      | ok body =>
          simp only [inner, Except.map, Except.ok.injEq] at read
          subst read
          simp [readString, isEscape, ih inner, Except.map, StringBody.cons]
  | case6 position c rest noQuote noEnd noEscape ih =>
      cases inner : readString (position + c.utf8Size) rest with
      | error flaw => simp [inner, Except.map] at read
      | ok body =>
          simp only [inner, Except.map, Except.ok.injEq] at read
          subst read
          have plain := ne_backslash noEnd noEscape
          simp only [StringBody.cons, List.cons_append, List.nil_append]
          rw [readString_plain noQuote plain, ih inner]
          rfl

theorem readString_append
    {position : Nat}
    {body : StringBody}
    (read : readString position text = .ok body)
    (more : List Char) :
    readString position (text ++ more) = .ok { body with rest := body.rest ++ more } := by
  rw [← readString_text_rest read, List.append_assoc, readString_withRest read]

/-- Whatever follows a closing brace, it is a token of its own. -/
theorem read_rightBrace (rest : List Char) :
    Lexeme.read ('}' :: rest) = .ok ⟨.symbol .rightBrace, ['}'], rest⟩ := by
  cases rest <;> rfl

theorem pair?_rightBrace (c : Char) : pair? c '}' = none := by
  unfold pair?
  split <;> simp_all

/-- Over a seam no sign of two characters is made. -/
theorem pair?_seam
    {c next : Char}
    (seam : Seam closed [c] (next :: more)) :
    pair? c next = none := by
  rcases seam with none | brace | bracket | ⟨_, behind⟩
  · nomatch none
  · rw [← List.mem_singleton.mp brace]
    rfl
  · rw [← List.mem_singleton.mp bracket]
    rfl
  · simp only [List.head?_cons, Option.some.injEq] at behind
    rw [behind, pair?_rightBrace]

theorem readSymbol_append
    {c : Char}
    {rest : List Char}
    (seam : Seam closed (c :: rest) more) :
    readSymbol c (rest ++ more) = (readSymbol c rest).append more := by
  have single (rest : List Char) :
      readSingle c (rest ++ more) = (readSingle c rest).append more := by
    unfold readSingle
    split <;> rfl
  cases rest with
  | cons next rest =>
      simp only [List.cons_append, readSymbol]
      split
      · rfl
      · exact single (next :: rest)
  | nil =>
      cases more with
      | nil =>
          simp only [List.append_nil, readSymbol]
          exact single []
      | cons next more =>
          simp only [List.nil_append, readSymbol, pair?_seam seam]
          exact single []

theorem startsNumber_append
    {c : Char}
    {rest : List Char}
    (seam : Seam closed (c :: rest) more) :
    startsNumber c (rest ++ more) = startsNumber c rest := by
  by_cases point : c = '.'
  · subst point
    have inside := seam.tail (by decide) (by decide)
    cases rest with
    | nil => rcases inside.nil_eq with rfl | ⟨_, rest, rfl⟩ <;> rfl
    | cons next rest => rfl
  · have noPoint : (c == '.') = false := beq_false_of_ne point
    simp only [startsNumber, noPoint, Bool.false_and]

/-- The first token of a text is also the first one if more text follows. -/
theorem read_append
    {lexeme : Lexeme}
    (seam : Seam closed text more)
    (some : text ≠ [])
    (read : Lexeme.read text = .ok lexeme) :
    Lexeme.read (text ++ more) = .ok (lexeme.append more) := by
  apply IsFirst.read
  cases isFirst_of_read read with
  | none => exact absurd rfl some
  | number ascii starts number =>
      exact .number ascii ((startsNumber_append seam).trans starts) (readNumber_append seam number)
  | string body => exact .string (readString_append body more)
  | @word c rest starts =>
      have inside : Seam closed rest more := by
        apply seam.tail <;> rintro rfl <;> exact absurd starts (by decide)
      rcases inside.run_append continuesWord rfl rfl with ⟨taken, dropped⟩
      have first : IsFirst (c :: (rest ++ more)) _ := .word starts
      rwa [taken, dropped] at first
  | sign ascii noNumber noQuote noWord =>
      rw [← readSymbol_append seam]
      exact .sign ascii ((startsNumber_append seam).trans noNumber) noQuote noWord

/-- Only a sign is read as a sign. -/
theorem read_symbol
    {lexeme : Lexeme}
    {symbol : Symbol}
    (read : Lexeme.read text = .ok lexeme)
    (isSymbol : lexeme.token = .symbol symbol) :
    ∃ c rest, text = c :: rest ∧ lexeme = readSymbol c rest := by
  cases isFirst_of_read read with
  | none => nomatch isSymbol
  | number _ _ number =>
      rcases readNumber_token number with ⟨n, isInt⟩ | ⟨x, isDouble⟩
      · nomatch isInt.symm.trans isSymbol
      · nomatch isDouble.symm.trans isSymbol
  | string => nomatch isSymbol
  | word => nomatch isSymbol
  | sign => exact ⟨_, _, rfl, rfl⟩

/-- A closing brace or bracket is read as what it is, and nothing else is. -/
theorem read_closing
    {lexeme : Lexeme}
    {symbol : Symbol}
    (read : Lexeme.read text = .ok lexeme)
    (isSymbol : lexeme.token = .symbol symbol)
    (closing : symbol = .rightBrace ∨ symbol = .rightBracket) :
    '}' ∈ text ∨ ']' ∈ text := by
  rcases read_symbol read isSymbol with ⟨c, rest, rfl, rfl⟩
  have single (rest : List Char) (isSymbol : (readSingle c rest).token = .symbol symbol) :
      c = '}' ∨ c = ']' := by
    unfold readSingle at isSymbol
    split at isSymbol
    · rename_i found
      cases isSymbol
      unfold single? at found
      split at found <;> cases found <;> simp at closing ⊢
    · nomatch isSymbol
  have first : c = '}' ∨ c = ']' := by
    unfold readSymbol at isSymbol
    split at isSymbol
    · exact single [] isSymbol
    · split at isSymbol
      · rename_i found
        cases isSymbol
        unfold pair? at found
        split at found <;> cases found <;> simp at closing
      · exact single _ isSymbol
  rcases first with rfl | rfl
  · exact .inl List.mem_cons_self
  · exact .inr List.mem_cons_self

end Lexeme

theorem Pattern.upToSlash_plain
    {c : Char}
    (noSlash : c ≠ '/')
    (noEscape : c ≠ '\\')
    (text : List Char) :
    upToSlash (c :: text) =
      (upToSlash text).map fun (written, behind) => (c :: written, behind) := by
  rw [upToSlash.eq_def]
  split <;> simp_all

/-- A pattern between slashes ends with its slash, whatever follows. -/
theorem Pattern.upToSlash_append
    {text written rest : List Char}
    (found : upToSlash text = some (written, rest))
    (more : List Char) :
    upToSlash (text ++ more) = some (written, rest ++ more) := by
  fun_induction upToSlash text generalizing written with
  | case1 => cases found
  | case2 => cases found; rfl
  | case3 => cases found
  | case4 c text ih =>
      rcases Option.map_eq_some_iff.mp found with ⟨⟨inner, after⟩, read, same⟩
      cases same
      simp [upToSlash, ih read]
  | case5 c text noSlash noEnd noEscape ih =>
      rcases Option.map_eq_some_iff.mp found with ⟨⟨inner, after⟩, read, same⟩
      cases same
      have plain := ne_backslash noEnd noEscape
      rw [List.cons_append, upToSlash_plain noSlash plain, ih read]
      rfl

end GcodeTemplate
