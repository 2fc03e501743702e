import GcodeTemplate.Proofs.PrintedTokens
import GcodeTemplate.Setting.Serial

/-!
# Serialized strings

A serialized string can be read back: a backslash belongs to the character behind it, and
without the escapes it is the string again.  In a serialized vector of strings an element
starts with a quote just if it stands in quotes, and then the first quote that is no escape
closes it; any other element goes on to the next semicolon.  So the elements are found one by
one, and no two vectors have the same text.
-/

namespace GcodeTemplate.Setting

/-! ## Escapes -/

/-- The character that is written with a backslash in front of another one. -/
def escapedBy : Char → Char
  | 'n' => '\n'
  | 'r' => '\r'
  | c => c

/-- A text with each escape replaced by its character. -/
def unescape : List Char → List Char
  | [] => []
  | '\\' :: c :: rest => escapedBy c :: unescape rest
  | c :: rest => c :: unescape rest

theorem unescape_of_ne
    {c : Char}
    (plain : c ≠ '\\')
    (rest : List Char) :
    unescape (c :: rest) = c :: unescape rest := by
  rw [unescape.eq_def]
  split <;> simp_all

/-- Escapes are undone. -/
theorem unescape_escape (text : List Char) :
    unescape (escape text) = text := by
  fun_induction escape text with
  | case1 => rfl
  | case2 rest ih | case3 rest ih | case4 rest ih =>
      rw [unescape, ih]
      rfl
  | case5 c rest plain noLine noReturn ih => rw [unescape_of_ne plain, ih]

/-! ## Elements in quotes -/

/-- A text up to the quote that closes it, without its escapes, and what is behind the quote. -/
def readQuoted : List Char → Option (List Char × List Char)
  | [] => none
  | '"' :: rest => some ([], rest)
  | '\\' :: c :: rest => (readQuoted rest).map (Prod.map (escapedBy c :: ·) id)
  | c :: rest => (readQuoted rest).map (Prod.map (c :: ·) id)

theorem readQuoted_of_ne
    {c : Char}
    (noQuote : c ≠ '"')
    (plain : c ≠ '\\')
    (rest : List Char) :
    readQuoted (c :: rest) = (readQuoted rest).map (Prod.map (c :: ·) id) := by
  rw [readQuoted.eq_def]
  split <;> simp_all

/-- What is escaped for quotes is read up to the quote behind it, whatever follows. -/
theorem readQuoted_escapeQuoted (text more : List Char) :
    readQuoted (escapeQuoted text ++ '"' :: more) = some (text, more) := by
  fun_induction escapeQuoted text with
  | case1 => rfl
  | case2 rest ih | case3 rest ih | case4 rest ih | case5 rest ih =>
      rw [List.cons_append, List.cons_append, readQuoted, ih]
      rfl
  | case6 c rest noQuote plain noLine noReturn ih =>
      rw [List.cons_append, readQuoted_of_ne noQuote plain, ih]
      rfl

/-! ## Elements one behind the other -/

/-- What stands behind the first of some joined texts. -/
def joinedBehind (separator : Char) : List (List Char) → List Char
  | [] => []
  | rest => separator :: joinWith separator rest

theorem joinWith_cons
    (separator : Char)
    (text : List Char)
    (rest : List (List Char)) :
    joinWith separator (text :: rest) = text ++ joinedBehind separator rest := by
  cases rest with
  | nil => exact (List.append_nil text).symm
  | cons next rest => rfl

/-- What stands behind the first of some texts tells what the others are joined to. -/
theorem joinWith_of_joinedBehind
    {separator : Char}
    {rest others : List (List Char)}
    (same : joinedBehind separator rest = joinedBehind separator others) :
    joinWith separator rest = joinWith separator others := by
  cases rest with
  | nil =>
      cases others with
      | nil => rfl
      | cons _ _ => nomatch same
  | cons _ _ =>
      cases others with
      | nil => nomatch same
      | cons _ _ => exact (List.cons.inj same).2

/-- The first element of a serialized vector of strings, and what is behind it. -/
def readElement : List Char → Option (List Char × List Char)
  | '"' :: rest => readQuoted rest
  | text => some (text.takeWhile (· != ';'), text.dropWhile (· != ';'))

/-- Without quotes an element is a text that has no character of those that force quotes. -/
theorem quoteIfNeeded_eq (text : List Char) :
    quoteIfNeeded text = '"' :: (escapeQuoted text ++ ['"']) ∨
      quoteIfNeeded text = text ∧ text ≠ [] ∧ ∀ c ∈ text, forcesQuotes c = false := by
  unfold quoteIfNeeded
  split
  next needed => exact .inl rfl
  next bare => exact .inr (by simpa using bare)

theorem quoteIfNeeded_ne_nil (text : List Char) :
    quoteIfNeeded text ≠ [] := by
  rcases quoteIfNeeded_eq text with quoted | ⟨bare, present, _⟩
  · simp [quoted]
  · rwa [bare]

/-- Behind an element there is nothing or a semicolon. -/
theorem head_joinedBehind (others : List (List Char)) :
    ∀ c ∈ (joinedBehind ';' others).head?, (c != ';') = false := by
  cases others with
  | nil => simp [joinedBehind]
  | cons next others => simp [joinedBehind]

/-- A text that does not start with a quote is read up to the first semicolon. -/
theorem readElement_of_ne
    {c : Char}
    (noQuote : c ≠ '"')
    (rest : List Char) :
    readElement (c :: rest) =
      some ((c :: rest).takeWhile (· != ';'), (c :: rest).dropWhile (· != ';')) := by
  rw [readElement.eq_def]
  split <;> simp_all

/-- An element is read up to the separator behind it. -/
theorem readElement_quoteIfNeeded
    (text : List Char)
    (others : List (List Char)) :
    readElement (quoteIfNeeded text ++ joinedBehind ';' others) =
      some (text, joinedBehind ';' others) := by
  rcases quoteIfNeeded_eq text with quoted | ⟨bare, present, free⟩
  · rw [quoted, List.cons_append, List.append_assoc]
    exact readQuoted_escapeQuoted text _
  · have ne_of_free {d : Char} (member : d ∈ text) {forcing : Char}
        (forces : forcesQuotes forcing = true) : d ≠ forcing := by
      rintro rfl
      nomatch (free _ member).symm.trans forces
    have inside : ∀ d ∈ text, (d != ';') = true :=
      fun d member => bne_iff_ne.2 (ne_of_free member (by decide))
    rcases run_of_cut inside (head_joinedBehind others) with ⟨taken, dropped⟩
    rw [bare]
    cases text with
    | nil => exact absurd rfl present
    | cons c rest =>
        have noQuote : c ≠ '"' := ne_of_free List.mem_cons_self (by decide)
        rw [List.cons_append] at taken dropped ⊢
        rw [readElement_of_ne noQuote, taken, dropped]

/-- The elements of a serialized vector are the ones that it was made of. -/
theorem joinWith_quoteIfNeeded_injective
    {texts others : List (List Char)}
    (same : joinWith ';' (texts.map quoteIfNeeded) = joinWith ';' (others.map quoteIfNeeded)) :
    texts = others := by
  induction texts generalizing others with
  | nil =>
      cases others with
      | nil => rfl
      | cons other others =>
          rw [List.map_cons, joinWith_cons] at same
          exact absurd (List.append_eq_nil_iff.1 same.symm).1 (quoteIfNeeded_ne_nil other)
  | cons text texts ih =>
      cases others with
      | nil =>
          rw [List.map_cons, joinWith_cons] at same
          exact absurd (List.append_eq_nil_iff.1 same).1 (quoteIfNeeded_ne_nil text)
      | cons other others =>
          have read := congrArg readElement same
          simp only [List.map_cons, joinWith_cons, readElement_quoteIfNeeded] at read
          rcases Prod.mk.inj (Option.some.inj read) with ⟨rfl, behind⟩
          rw [ih (joinWith_of_joinedBehind behind)]

/--
The text of a serialized vector of strings tells which strings are in it, in which order and
how many, whatever characters they consist of; and the text of a serialized string tells the
string.
-/
theorem serialized_strings_told_apart :
    (∀ texts others : List String,
      (strings texts).serialize = (strings others).serialize ↔ texts = others) ∧
    ∀ text other : String,
      (string text).serialize = (string other).serialize ↔ text = other := by
  refine ⟨fun texts others => ⟨fun same => ?_, fun same => same ▸ rfl⟩,
    fun text other => ⟨fun same => ?_, fun same => same ▸ rfl⟩⟩
  · have joined : joinWith ';' ((texts.map String.toList).map quoteIfNeeded) =
        joinWith ';' ((others.map String.toList).map quoteIfNeeded) := by
      rw [List.map_map, List.map_map]
      exact String.ofList_injective same
    have lists := joinWith_quoteIfNeeded_injective joined
    exact (List.map_inj_right fun _ _ => String.toList_inj.1).1 lists
  · have escapes : escape text.toList = escape other.toList := String.ofList_injective same
    have lists := congrArg unescape escapes
    rw [unescape_escape, unescape_escape] at lists
    exact String.toList_inj.1 lists

/-- The empty vector, one empty string and a semicolon alone have different texts. -/
example :
    (strings []).serialized = [] ∧
      (strings [""]).serialized = ['"', '"'] ∧
      (strings ["", ""]).serialized = ['"', '"', ';', '"', '"'] ∧
      (strings [";"]).serialized = ['"', ';', '"'] := by
  decide

end GcodeTemplate.Setting
