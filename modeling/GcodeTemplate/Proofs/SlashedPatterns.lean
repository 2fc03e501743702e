import GcodeTemplate.Proofs.Levels
import GcodeTemplate.Proofs.Placing
import GcodeTemplate.Proofs.PrintedTokens

/-!
# Patterns that are written between slashes

A pattern is written between slashes with a backslash in front of each slash of its own.
The reader takes a backslash together with the character behind it, so a backslash of the
pattern may not stand in front of one of these: a pattern is read back if and only if its
backslashes, taken in pairs from the left, all have a partner that is no slash.
-/

namespace GcodeTemplate

open Text

namespace Pattern

/-- Put a backslash in front of every slash. -/
def escapeSlashes : List Char → List Char
  | [] => []
  | '/' :: rest => '\\' :: '/' :: escapeSlashes rest
  | c :: rest => c :: escapeSlashes rest

/-- A pattern as it is written between slashes. -/
def slashed (pattern : List Char) : List Char :=
  '/' :: (escapeSlashes pattern ++ ['/'])

/--
Whether the backslashes of a pattern, each taken from the left together with the character
behind it, all have one behind them, and one that is no slash.
-/
def isPaired : List Char → Bool
  | [] => true
  | '\\' :: [] => false
  | '\\' :: c :: rest => c != '/' && isPaired rest
  | _ :: rest => isPaired rest

theorem escapeSlashes_of_ne
    {c : Char}
    (noSlash : c ≠ '/')
    (rest : List Char) :
    escapeSlashes (c :: rest) = c :: escapeSlashes rest := by
  rw [escapeSlashes.eq_def]
  split <;> simp_all

/-- No slash stands in front without its backslash. -/
theorem head_escapeSlashes (pattern : List Char) :
    (escapeSlashes pattern).head? ≠ some '/' := by
  unfold escapeSlashes
  split <;> simp_all

/-- Only a backslash in front of a slash is taken away. -/
theorem unescapeSlashes_of_ne
    {rest : List Char}
    (noSlash : rest.head? ≠ some '/')
    (c : Char) :
    unescapeSlashes (c :: rest) = c :: unescapeSlashes rest := by
  rw [unescapeSlashes.eq_def]
  split <;> simp_all

/-- Each backslash that was put in front of a slash is taken away again, and no other one. -/
theorem unescapeSlashes_escapeSlashes (pattern : List Char) :
    unescapeSlashes (escapeSlashes pattern) = pattern := by
  fun_induction escapeSlashes pattern with
  | case1 => rfl
  | case2 rest ih => rw [unescapeSlashes, ih]
  | case3 c rest noSlash ih => rw [unescapeSlashes_of_ne (head_escapeSlashes rest), ih]

/-- The slash that ends a pattern is found behind all of it just if the backslashes are paired. -/
theorem upToSlash_escapeSlashes_iff (pattern more : List Char) :
    upToSlash (escapeSlashes pattern ++ '/' :: more) = some (escapeSlashes pattern, more) ↔
      isPaired pattern = true := by
  fun_induction isPaired pattern with
  | case1 => simp [escapeSlashes, upToSlash]
  | case2 =>
      -- The backslash at the end takes the closing slash as its partner.
      simp [escapeSlashes, upToSlash]
  | case3 c rest ih =>
      by_cases slash : c = '/'
      · -- The backslashes make a pair, so the slash of the pattern ends what is read.
        subst slash
        simp [escapeSlashes, upToSlash]
      · rw [escapeSlashes_of_ne (by decide), escapeSlashes_of_ne slash, List.cons_append,
          List.cons_append, upToSlash]
        simpa [slash] using ih
  | case4 c rest noEnd noEscape ih =>
      have plain := ne_backslash noEnd noEscape
      by_cases slash : c = '/'
      · subst slash
        rw [escapeSlashes, List.cons_append, List.cons_append, upToSlash]
        simpa using ih
      · rw [escapeSlashes_of_ne slash, List.cons_append, upToSlash_plain slash plain]
        simpa using ih

end Pattern

open Grammar Pattern in
/--
Let a pattern be written between slashes behind some blanks.  Reading a regular expression in
front of the blanks then yields the pattern, placed at its slashes, and stops right behind the
closing one whatever follows, if and only if the backslashes of the pattern are paired.
-/
theorem slashed_pattern_reads_back
    {source blanks more : List Char}
    {cursor : Cursor}
    {pattern : String}
    (isOn : cursor.IsOn source)
    (blank : ∀ c ∈ blanks, isAsciiBlank c = true)
    (ahead : cursor.rest = blanks ++ (slashed pattern.toList ++ more)) :
    let start := cursor.position + byteWidth blanks
    let stop := start + byteWidth (slashed pattern.toList)
    Span.Holds source ⟨start, stop⟩ (slashed pattern.toList) ∧
      (regularExpression cursor =
          .ok ((pattern, ⟨start, stop⟩), ⟨more, stop, stop, cursor.depth⟩) ↔
        isPaired pattern.toList = true) := by
  intro start stop
  have visible : ∀ c ∈ (slashed pattern.toList ++ more).head?, isAsciiBlank c = false := by
    simp [slashed, isAsciiBlank]
  rcases run_of_cut blank visible with ⟨taken, dropped⟩
  rw [← ahead] at taken dropped
  have narrow : byteWidth blanks = blanks.length :=
    byteWidth_of_blank blank
  have wide : byteWidth (slashed pattern.toList) =
      byteWidth (escapeSlashes pattern.toList) + 2 := by
    have slash : '/'.utf8Size = 1 := rfl
    simp only [slashed, byteWidth_cons, byteWidth_append, byteWidth_nil, slash]
    omega
  constructor
  · rcases isOn.splits with ⟨before, given, width⟩
    refine ⟨before ++ blanks, more, by simp [given, ahead], ?_⟩
    rw [byteWidth_append, width]
  · rw [← upToSlash_escapeSlashes_iff pattern.toList more]
    have slash : cursor.rest.dropWhile isAsciiBlank =
        '/' :: (escapeSlashes pattern.toList ++ '/' :: more) := by
      simp [dropped, slashed]
    constructor
    · intro read
      rcases regularExpression_eq_ok read with ⟨behind, written, rest, same, found, _, moved⟩
      cases slash.symm.trans same
      obtain rfl : more = rest := congrArg Cursor.rest moved
      -- What is in front of the same rest is the same text.
      rwa [List.append_cancel_right (upToSlash_text found)] at found
    · intro found
      rw [regularExpression_of_slash slash found, unescapeSlashes_escapeSlashes,
        String.ofList_toList, taken, ← narrow]
      simp only [stop, start, wide, Nat.add_assoc]

/--
The pattern `\\/é\é` has two backslashes in front of its slash and one in front of a character of
two bytes.  It is read behind a match operator and two blanks, with another slash behind it.
-/
theorem pattern_with_paired_backslashes_read_back :
    let pattern := "\\\\/é\\é"
    let source := "t =~ \t/\\\\\\/é\\é/ /x/".toList
    let cursor : Cursor := ⟨" \t/\\\\\\/é\\é/ /x/".toList, 4, 4, 8⟩
    cursor.IsOn source ∧ (∀ c ∈ [' ', '\t'], isAsciiBlank c = true) ∧
      cursor.rest = [' ', '\t'] ++ (Pattern.slashed pattern.toList ++ " /x/".toList) ∧
      Span.Holds source ⟨6, 17⟩ (Pattern.slashed pattern.toList) ∧
      Grammar.regularExpression cursor =
        .ok ((pattern, ⟨6, 17⟩), ⟨" /x/".toList, 17, 17, 8⟩) := by
  intro pattern source cursor
  have isOn : cursor.IsOn source :=
    ⟨⟨"t =~".toList, by decide, by decide⟩, ⟨"t =~".toList, _, rfl, by decide⟩, by decide⟩
  have blank : ∀ c ∈ [' ', '\t'], isAsciiBlank c = true := List.all_eq_true.1 rfl
  have ahead :
      cursor.rest = [' ', '\t'] ++ (Pattern.slashed pattern.toList ++ " /x/".toList) := by
    decide
  have start : cursor.position + byteWidth [' ', '\t'] = 6 := by decide
  have wide : byteWidth (Pattern.slashed pattern.toList) = 11 := by decide
  have reads := slashed_pattern_reads_back isOn blank ahead
  rw [start, wide] at reads
  exact ⟨isOn, blank, ahead, reads.1, reads.2.2 (by decide)⟩

end GcodeTemplate
