import GcodeTemplate.Parser
import GcodeTemplate.Pattern.Slash

/-!
# The first token of a text

The first token of a text is a number, a string, a word or a sign, or the end of the
input.  Its text, followed by the rest, is the text that was given.  So reading a
token goes forward, and only at the end of a text nothing is read.
-/

namespace GcodeTemplate

open Text

section Characters

variable {c : Char}

theorem isDecimalDigit_iff : isDecimalDigit c = true ↔ 48 ≤ c.toNat ∧ c.toNat ≤ 57 := by
  simp only [isDecimalDigit, Bool.and_eq_true, decide_eq_true_eq]
  exact Iff.rfl

theorem startsWord_iff :
    startsWord c = true ↔
      (97 ≤ c.toNat ∧ c.toNat ≤ 122 ∨ 65 ≤ c.toNat ∧ c.toNat ≤ 90) ∨ c = '_' := by
  simp only [startsWord, Bool.or_eq_true, Bool.and_eq_true, decide_eq_true_eq, beq_iff_eq]
  exact Iff.rfl

/-- A word starts with an ASCII character that starts no number. -/
theorem bounds_of_startsWord (starts : startsWord c = true) : 58 ≤ c.toNat ∧ c.toNat < 128 := by
  rcases startsWord_iff.mp starts with (letter | letter) | rfl <;> first | omega | decide

/-- A backslash either ends a text or stands in front of another character. -/
theorem ne_backslash
    {rest : List Char}
    (noEnd : c = '\\' → rest = [] → False)
    (noEscape : ∀ next more, c = '\\' → rest = next :: more → False) :
    c ≠ '\\' := by
  rintro rfl
  cases rest with
  | nil => exact noEnd rfl rfl
  | cons next more => exact noEscape next more rfl rfl

end Characters

namespace Lexeme

/-- The first token of a text is a number, a string, a word or a sign, or there is none. -/
inductive IsFirst : List Char → Lexeme → Prop
  | none : IsFirst [] ⟨.endOfInput, [], []⟩
  | number {c : Char} {rest : List Char} {lexeme : Lexeme} :
      c.toNat < 128 → startsNumber c rest = true → readNumber (c :: rest) = .ok lexeme →
        IsFirst (c :: rest) lexeme
  | string {rest : List Char} {body : StringBody} :
      readString 1 rest = .ok body →
        IsFirst ('"' :: rest) ⟨.string (.ofList body.content), '"' :: body.text, body.rest⟩
  | word {c : Char} {rest : List Char} :
      startsWord c = true →
        IsFirst (c :: rest) ⟨.word (.ofList (c :: rest.takeWhile continuesWord)),
          c :: rest.takeWhile continuesWord, rest.dropWhile continuesWord⟩
  | sign {c : Char} {rest : List Char} :
      c.toNat < 128 → startsNumber c rest = false → c ≠ '"' → startsWord c = false →
        IsFirst (c :: rest) (readSymbol c rest)

theorem isFirst_of_read
    {text : List Char}
    {lexeme : Lexeme}
    (read : Lexeme.read text = .ok lexeme) :
    IsFirst text lexeme := by
  unfold Lexeme.read at read
  split at read
  · cases read
    exact .none
  · rename_i c rest
    split at read
    · nomatch read
    · rename_i ascii
      split at read
      · rename_i starts
        exact .number (by omega) starts read
      · rename_i noNumber
        split at read
        · rename_i quoted
          simp only [beq_iff_eq] at quoted
          cases inner : readString 1 rest with
          | error flaw => simp [inner, Except.map] at read
          | ok body =>
              simp only [inner, Except.map, Except.ok.injEq] at read
              subst read quoted
              exact .string inner
        · rename_i noQuote
          split at read
          · rename_i starts
            cases read
            exact .word starts
          · rename_i noWord
            cases read
            exact .sign (by omega) (by simpa using noNumber) (by simpa using noQuote)
              (by simpa using noWord)

theorem IsFirst.read
    {text : List Char}
    {lexeme : Lexeme}
    (first : IsFirst text lexeme) :
    Lexeme.read text = .ok lexeme := by
  cases first with
  | none => rfl
  | number ascii starts read => rw [Lexeme.read, if_neg (by omega), if_pos starts, read]
  | string read =>
      rw [Lexeme.read, if_neg (by decide), if_neg (by simp [startsNumber, isDecimalDigit]),
        if_pos (by decide), read]
      rfl
  | @word c rest starts =>
      have bounds := bounds_of_startsWord starts
      have noDigit : isDecimalDigit c = false := by
        rw [← Bool.not_eq_true, isDecimalDigit_iff]
        omega
      have noPoint : c ≠ '.' := by
        rintro rfl
        nomatch starts
      have noQuote : c ≠ '"' := by
        rintro rfl
        nomatch starts
      rw [Lexeme.read, if_neg (by omega), if_neg (by simp [startsNumber, noDigit, noPoint]),
        if_neg (by simpa using noQuote), if_pos starts]
  | sign ascii noNumber noQuote noWord =>
      rw [Lexeme.read, if_neg (by omega), if_neg (by simp [noNumber]),
        if_neg (by simpa using noQuote), if_neg (by simp [noWord])]

theorem readExponentDigits_text_rest
    {text mark behind : List Char}
    (given : mark ++ behind = text)
    (negative : Bool) :
    let part := readExponentDigits text mark negative behind
    part.text ++ part.rest = text := by
  simp only [readExponentDigits]
  split
  · rfl
  · simp [given]

theorem readExponent_text_rest (text : List Char) :
    (readExponent text).text ++ (readExponent text).rest = text := by
  unfold readExponent
  split
  · rfl
  · split
    · split
      · exact readExponentDigits_text_rest rfl false
      · exact readExponentDigits_text_rest rfl true
      · exact readExponentDigits_text_rest rfl false
    · rfl

/-- The point of a number with the digits behind it, and what follows them. -/
def splitFraction : List Char → List Char × List Char
  | '.' :: rest => ('.' :: rest.takeWhile isDecimalDigit, rest.dropWhile isDecimalDigit)
  | rest => ([], rest)

theorem splitFraction_append (text : List Char) :
    (splitFraction text).1 ++ (splitFraction text).2 = text := by
  unfold splitFraction
  split <;> simp

/-- The number that consists of digits, a fraction and an exponent. -/
def numberLexeme
    (whole fraction : List Char)
    (exponent : ExponentPart) :
    Except Flaw Lexeme :=
  let read := whole ++ fraction ++ exponent.text
  if fraction.isEmpty && exponent.text.isEmpty then
    if digitsValue whole ≤ Int64.maxValue.toInt then
      .ok ⟨.int (.ofNat (digitsValue whole)), read, exponent.rest⟩
    else
      .error ⟨.integerTooLarge, 0, byteWidth read⟩
  else
    let places := fraction.drop 1
    let decimal : Number.Decimal :=
      ⟨digitsValue (whole ++ places), exponent.value - places.length⟩
    .ok ⟨.double decimal.toFloat, read, exponent.rest⟩

/-- A number is read part by part. -/
theorem readNumber_eq (text : List Char) :
    readNumber text =
      numberLexeme (text.takeWhile isDecimalDigit)
        (splitFraction (text.dropWhile isDecimalDigit)).1
        (readExponent (splitFraction (text.dropWhile isDecimalDigit)).2) :=
  rfl

theorem numberLexeme_eq_ok
    {whole fraction : List Char}
    {exponent : ExponentPart}
    {lexeme : Lexeme}
    (read : numberLexeme whole fraction exponent = .ok lexeme) :
    lexeme.text = whole ++ fraction ++ exponent.text ∧ lexeme.rest = exponent.rest := by
  unfold numberLexeme at read
  split at read
  · split at read
    · cases read
      exact ⟨rfl, rfl⟩
    · nomatch read
  · cases read
    exact ⟨rfl, rfl⟩

/-- A number is an integer or a double. -/
theorem readNumber_token
    {text : List Char}
    {lexeme : Lexeme}
    (read : readNumber text = .ok lexeme) :
    (∃ n, lexeme.token = .int n) ∨ ∃ x, lexeme.token = .double x := by
  rw [readNumber_eq, numberLexeme] at read
  split at read
  · split at read
    · cases read
      exact .inl ⟨_, rfl⟩
    · nomatch read
  · cases read
    exact .inr ⟨_, rfl⟩

theorem readNumber_text_rest
    {text : List Char}
    {lexeme : Lexeme}
    (read : readNumber text = .ok lexeme) :
    lexeme.text ++ lexeme.rest = text := by
  rw [readNumber_eq] at read
  rcases numberLexeme_eq_ok read with ⟨written, left⟩
  rw [written, left, List.append_assoc, readExponent_text_rest, List.append_assoc,
    splitFraction_append, List.takeWhile_append_dropWhile]

theorem readString_text_rest
    {text : List Char}
    {position : Nat}
    {body : StringBody}
    (read : readString position text = .ok body) :
    body.text ++ body.rest = text := by
  fun_induction readString position text generalizing body with
  | case1 => nomatch read
  | case2 => cases read; rfl
  | case3 => nomatch read
  | case4 => nomatch read
  | case5 position c rest meant _ ih =>
      cases inner : readString (position + 1 + c.utf8Size) rest with
      | error flaw => simp [inner, Except.map] at read
      | ok body =>
          simp only [inner, Except.map, Except.ok.injEq] at read
          subst read
          simp [StringBody.cons, ih inner]
  | case6 position c rest _ _ _ ih =>
      cases inner : readString (position + c.utf8Size) rest with
      | error flaw => simp [inner, Except.map] at read
      | ok body =>
          simp only [inner, Except.map, Except.ok.injEq] at read
          subst read
          simp [StringBody.cons, ih inner]

theorem readSymbol_text_rest (c : Char) (rest : List Char) :
    (readSymbol c rest).text ++ (readSymbol c rest).rest = c :: rest := by
  have single (rest : List Char) :
      (readSingle c rest).text ++ (readSingle c rest).rest = c :: rest := by
    unfold readSingle
    split <;> rfl
  unfold readSymbol
  split
  · exact single []
  · split
    · rfl
    · exact single _

/-- The text of the first token and the rest are the text that was given. -/
theorem read_text_rest
    {text : List Char}
    {lexeme : Lexeme}
    (read : Lexeme.read text = .ok lexeme) :
    lexeme.text ++ lexeme.rest = text := by
  cases isFirst_of_read read with
  | none => rfl
  | number _ _ number => exact readNumber_text_rest number
  | string body => simp [readString_text_rest body]
  | word => simp
  | sign => exact readSymbol_text_rest _ _

theorem readNumber_text_ne_nil
    {c : Char}
    {rest : List Char}
    {lexeme : Lexeme}
    (starts : startsNumber c rest)
    (read : readNumber (c :: rest) = .ok lexeme) :
    lexeme.text ≠ [] := by
  rw [readNumber_eq] at read
  rw [(numberLexeme_eq_ok read).1]
  simp only [startsNumber, Bool.or_eq_true, Bool.and_eq_true, beq_iff_eq] at starts
  rcases starts with digit | ⟨rfl, _⟩
  · simp [digit]
  · have noDigit : isDecimalDigit '.' = false := by decide
    simp [noDigit, splitFraction]

theorem readSymbol_text_ne_nil (c : Char) (rest : List Char) :
    (readSymbol c rest).text ≠ [] := by
  have single (rest : List Char) : (readSingle c rest).text ≠ [] := by
    unfold readSingle
    split <;> simp
  unfold readSymbol
  split
  · exact single []
  · split
    · simp
    · exact single _

/-- Reading the first token of a text goes forward. -/
theorem read_text_ne_nil
    {c : Char}
    {rest : List Char}
    {lexeme : Lexeme}
    (read : Lexeme.read (c :: rest) = .ok lexeme) :
    lexeme.text ≠ [] := by
  cases isFirst_of_read read with
  | number _ starts number => exact readNumber_text_ne_nil starts number
  | string => simp
  | word => simp
  | sign => exact readSymbol_text_ne_nil c rest

theorem readSymbol_token_ne_endOfInput (c : Char) (rest : List Char) :
    (readSymbol c rest).token ≠ .endOfInput := by
  have single (rest : List Char) : (readSingle c rest).token ≠ .endOfInput := by
    unfold readSingle
    split <;> nofun
  unfold readSymbol
  split
  · exact single []
  · split
    · nofun
    · exact single _

/-- The token that stands for the end of the input is read only there. -/
theorem eq_nil_of_endOfInput
    {text : List Char}
    {lexeme : Lexeme}
    (read : Lexeme.read text = .ok lexeme)
    (ends : lexeme.token = .endOfInput) :
    text = [] := by
  cases isFirst_of_read read with
  | none => rfl
  | number _ _ number =>
      rcases readNumber_token number with ⟨n, isInt⟩ | ⟨x, isDouble⟩
      · nomatch isInt.symm.trans ends
      · nomatch isDouble.symm.trans ends
  | string => nomatch ends
  | word => nomatch ends
  | sign => exact absurd ends (readSymbol_token_ne_endOfInput _ _)

theorem rest_isSuffix
    {text : List Char}
    {lexeme : Lexeme}
    (read : Lexeme.read text = .ok lexeme) :
    lexeme.rest <:+ text :=
  ⟨lexeme.text, read_text_rest read⟩

/-- Only at the end of a text the rest is as long as the text. -/
theorem rest_length_lt
    {text : List Char}
    {lexeme : Lexeme}
    (read : Lexeme.read text = .ok lexeme)
    (more : text ≠ []) :
    lexeme.rest.length < text.length := by
  cases text with
  | nil => exact absurd rfl more
  | cons c rest =>
      have forward : 0 < lexeme.text.length :=
        List.length_pos_iff.mpr (read_text_ne_nil read)
      rw [← read_text_rest read, List.length_append]
      omega

end Lexeme

/-- A pattern between slashes, the slash that ends it, and the rest are what was given. -/
theorem Pattern.upToSlash_text
    {text written rest : List Char}
    (read : upToSlash text = some (written, rest)) :
    written ++ '/' :: rest = text := by
  fun_induction upToSlash text generalizing written with
  | case1 => nomatch read
  | case2 => cases read; rfl
  | case3 => nomatch read
  | case4 c text ih =>
      rcases Option.map_eq_some_iff.mp read with ⟨⟨inner, after⟩, found, same⟩
      cases same
      simp [ih found]
  | case5 c text _ _ _ ih =>
      rcases Option.map_eq_some_iff.mp read with ⟨⟨inner, after⟩, found, same⟩
      cases same
      simp [ih found]

end GcodeTemplate
