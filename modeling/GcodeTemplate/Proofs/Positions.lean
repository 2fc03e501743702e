import GcodeTemplate.Proofs.Lexing
import GcodeTemplate.Proofs.Printing

/-!
# Positions in a source

Positions are numbers of bytes, so not every number up to the length of a source is the
position of a character in it.  A span is in a source if it starts and stops where
characters do.
-/

namespace GcodeTemplate

open Text

/-- A character of a source starts behind that many bytes, or the source ends there. -/
def Text.IsBoundary (source : List Char) (position : Nat) : Prop :=
  ∃ before after, source = before ++ after ∧ byteWidth before = position

section Boundaries

variable {source : List Char} {position : Nat}

theorem Text.isBoundary_zero : IsBoundary source 0 :=
  ⟨[], source, rfl, rfl⟩

theorem Text.isBoundary_append (before after : List Char) :
    IsBoundary (before ++ after) (byteWidth before) :=
  ⟨before, after, rfl, rfl⟩

theorem Text.IsBoundary.le_byteWidth (boundary : IsBoundary source position) :
    position ≤ byteWidth source := by
  rcases boundary with ⟨before, after, rfl, rfl⟩
  simp

/-- ASCII characters are one byte wide each. -/
theorem Text.byteWidth_of_ascii
    {text : List Char}
    (ascii : ∀ c ∈ text, c.toNat < 128) :
    byteWidth text = text.length := by
  induction text with
  | nil =>
      rfl
  | cons c rest ih =>
      simp only [List.mem_cons, forall_eq_or_imp] at ascii
      have narrow : c.utf8Size = 1 := Char.utf8Size_eq_one_iff.2 (UInt32.le_iff_toNat_le.2
        (Nat.le_of_lt_succ ascii.1))
      rw [byteWidth_cons, narrow, ih ascii.2, List.length_cons, Nat.add_comm]

theorem Text.ascii_of_isAsciiBlank
    {c : Char}
    (blank : isAsciiBlank c = true) :
    c.toNat < 128 := by
  simp only [isAsciiBlank, Bool.or_eq_true, Bool.and_eq_true, beq_iff_eq, decide_eq_true_eq]
    at blank
  rcases blank with rfl | bounds
  · decide
  · omega

/-- Blanks are one byte wide each. -/
theorem Text.byteWidth_of_blank
    {text : List Char}
    (blank : ∀ c ∈ text, isAsciiBlank c = true) :
    byteWidth text = text.length :=
  byteWidth_of_ascii fun c member => ascii_of_isAsciiBlank (blank c member)

end Boundaries

namespace Span

/-- A span starts and stops where characters of a source do, or where it ends. -/
structure IsIn (source : List Char) (span : Span) : Prop where
  ordered : span.start ≤ span.stop
  inside : span.stop ≤ byteWidth source
  starts : IsBoundary source span.start
  stops : IsBoundary source span.stop

/-- A span is in a source and within another span. -/
structure LiesIn (source : List Char) (span outer : Span) : Prop where
  isIn : span.IsIn source
  after : outer.start ≤ span.start
  before : span.stop ≤ outer.stop

/-- A text is what a source has at a span. -/
def Holds (source : List Char) (span : Span) (text : List Char) : Prop :=
  ∃ before after, source = before ++ (text ++ after) ∧
    span = ⟨byteWidth before, byteWidth before + byteWidth text⟩

/-- The span of a whole source. -/
def whole (source : List Char) : Span :=
  ⟨0, byteWidth source⟩

variable {source text : List Char} {outer wider span first second : Span}

theorem isIn_of_boundaries
    (ordered : span.start ≤ span.stop)
    (starts : IsBoundary source span.start)
    (stops : IsBoundary source span.stop) :
    span.IsIn source :=
  ⟨ordered, stops.le_byteWidth, starts, stops⟩

theorem isIn_point
    {position : Nat}
    (boundary : IsBoundary source position) :
    (point position).IsIn source :=
  isIn_of_boundaries (Nat.le_refl _) boundary boundary

theorem IsIn.cover
    (firstIn : first.IsIn source)
    (secondIn : second.IsIn source) :
    (first.cover second).IsIn source := by
  have firstOrdered := firstIn.ordered
  have secondOrdered := secondIn.ordered
  apply isIn_of_boundaries
  · simp only [Span.cover]
    omega
  · rcases Nat.le_total first.start second.start with le | le <;>
      simp only [Span.cover, Nat.min_eq_left, Nat.min_eq_right, le]
    · exact firstIn.starts
    · exact secondIn.starts
  · rcases Nat.le_total first.stop second.stop with le | le <;>
      simp only [Span.cover, Nat.max_eq_left, Nat.max_eq_right, le]
    · exact secondIn.stops
    · exact firstIn.stops

theorem IsIn.liesIn_whole (isIn : span.IsIn source) : span.LiesIn source (whole source) :=
  ⟨isIn, Nat.zero_le _, isIn.inside⟩

theorem LiesIn.mono
    (lies : span.LiesIn source outer)
    (after : wider.start ≤ outer.start)
    (before : outer.stop ≤ wider.stop) :
    span.LiesIn source wider :=
  ⟨lies.isIn, Nat.le_trans after lies.after, Nat.le_trans lies.before before⟩

theorem LiesIn.self (lies : span.LiesIn source outer) : span.LiesIn source span :=
  ⟨lies.isIn, Nat.le_refl _, Nat.le_refl _⟩

/-- The least span that covers two spans lies in every span in which both lie. -/
theorem LiesIn.cover
    (firstLies : first.LiesIn source outer)
    (secondLies : second.LiesIn source outer) :
    (first.cover second).LiesIn source outer where
  isIn := firstLies.isIn.cover secondLies.isIn
  after := Nat.le_min.2 ⟨firstLies.after, secondLies.after⟩
  before := Nat.max_le.2 ⟨firstLies.before, secondLies.before⟩

theorem Holds.isIn (holds : span.Holds source text) : span.IsIn source := by
  rcases holds with ⟨before, after, rfl, rfl⟩
  refine isIn_of_boundaries (Nat.le_add_right _ _) (isBoundary_append _ _) ?_
  exact ⟨before ++ text, after, by simp, by simp⟩

/-- What is behind the first part of a text that a source has at a span is in the source too. -/
theorem Holds.isIn_behind
    {front back : List Char}
    (holds : span.Holds source (front ++ back)) :
    (Span.mk (span.start + byteWidth front) span.stop).IsIn source := by
  rcases holds with ⟨before, after, rfl, rfl⟩
  apply isIn_of_boundaries
  · simp
  · exact ⟨before ++ front, back ++ after, by simp, by simp⟩
  · exact ⟨before ++ (front ++ back), after, by simp, by simp⟩

end Span

/-- A name of a variable stands in a source at a span. -/
structure Span.Names (source : List Char) (span : Span) (name : String) : Prop where
  isName : Token.isName name = true
  holds : span.Holds source name.toList

/-! ## Faults -/

/-- A fault is placed in a source. -/
def Fault.IsIn (source : List Char) (fault : Fault) : Prop :=
  fault.span.IsIn source

/-- A result is good, or else it is a fault that is allowed. -/
def Settled {α : Type} (allowed : Fault → Prop) (good : α → Prop) : Except Fault α → Prop
  | .error fault => allowed fault
  | .ok a => good a

section Settled

variable
  {α β : Type}
  {allowed : Fault → Prop}
  {good : α → Prop}
  {goodNext : β → Prop}
  {result : Except Fault α}

theorem Settled.bind
    {next : α → Except Fault β}
    (settled : Settled allowed good result)
    (settledNext : ∀ a, good a → Settled allowed goodNext (next a)) :
    Settled allowed goodNext (result >>= next) := by
  cases result with
  | error fault => exact settled
  | ok a => exact settledNext a settled

theorem Settled.map
    (settled : Settled allowed good result)
    {f : α → β}
    (implied : ∀ a, good a → goodNext (f a)) :
    Settled allowed goodNext (f <$> result) := by
  cases result with
  | error fault => exact settled
  | ok a => exact implied a settled

end Settled

/-! ## Tokens -/

/-- A part of a text that cannot be read. -/
structure Flaw.IsIn (text : List Char) (flaw : Flaw) : Prop where
  kind : flaw.cause.kind = .grammar
  part : ∃ front inside after, text = front ++ (inside ++ after) ∧
    flaw.lead = byteWidth front ∧ flaw.width = byteWidth inside

namespace Lexeme

theorem readNumber_flaw
    {text : List Char}
    {flaw : Flaw}
    (failed : readNumber text = .error flaw) :
    flaw.IsIn text := by
  rw [readNumber_eq, numberLexeme] at failed
  split at failed
  · split at failed
    · cases failed
    · cases failed
      refine ⟨rfl, [], _, (readExponent
        (splitFraction (text.dropWhile isDecimalDigit)).2).rest, ?_, rfl, rfl⟩
      rw [List.nil_append, List.append_assoc, readExponent_text_rest, List.append_assoc,
        splitFraction_append, List.takeWhile_append_dropWhile]
  · cases failed

/-- A string either does not end, or there is an escape in it that means nothing. -/
theorem readString_flaw
    {text : List Char}
    {position : Nat}
    {flaw : Flaw}
    (failed : readString position text = .error flaw) :
    flaw = ⟨.unterminatedString, 0, position + byteWidth text⟩ ∨
      flaw.cause = .invalidEscape ∧
        ∃ front inside after, text = front ++ (inside ++ after) ∧
          flaw.lead = position + byteWidth front ∧ flaw.width = byteWidth inside := by
  fun_induction readString position text with
  | case1 position =>
      cases failed
      exact .inl rfl
  | case2 => cases failed
  | case3 position =>
      cases failed
      exact .inr ⟨rfl, [], ['\\'], [], rfl, rfl, rfl⟩
  | case4 position c rest =>
      cases failed
      exact .inr ⟨rfl, [], ['\\', c], rest, rfl, rfl, rfl⟩
  | case5 position c rest meant _ ih =>
      have narrow : '\\'.utf8Size = 1 := rfl
      cases inner : readString (position + 1 + c.utf8Size) rest with
      | ok body => simp [inner, Except.map] at failed
      | error flaw =>
          simp only [inner, Except.map, Except.error.injEq] at failed
          subst failed
          rcases ih inner with rfl | ⟨cause, front, inside, after, rfl, lead, width⟩
          · exact .inl (by simp [narrow, Nat.add_assoc])
          · refine .inr ⟨cause, '\\' :: c :: front, inside, after, rfl, ?_, width⟩
            simp [lead, narrow, Nat.add_assoc]
  | case6 position c rest _ _ _ ih =>
      cases inner : readString (position + c.utf8Size) rest with
      | ok body => simp [inner, Except.map] at failed
      | error flaw =>
          simp only [inner, Except.map, Except.error.injEq] at failed
          subst failed
          rcases ih inner with rfl | ⟨cause, front, inside, after, rfl, lead, width⟩
          · exact .inl (by simp [Nat.add_assoc])
          · refine .inr ⟨cause, c :: front, inside, after, rfl, ?_, width⟩
            simp [lead, Nat.add_assoc]

/-- What cannot be read as a token is a part of the text. -/
theorem read_flaw
    {text : List Char}
    {flaw : Flaw}
    (failed : Lexeme.read text = .error flaw) :
    flaw.IsIn text := by
  unfold Lexeme.read at failed
  split at failed
  · nomatch failed
  · rename_i c rest
    split at failed
    · cases failed
      exact ⟨rfl, [], [c], rest, rfl, rfl, rfl⟩
    · split at failed
      · exact readNumber_flaw failed
      · split at failed
        · rename_i quoted
          simp only [beq_iff_eq] at quoted
          subst quoted
          cases inner : readString 1 rest with
          | ok body => simp [inner, Except.map] at failed
          | error flaw =>
              simp only [inner, Except.map, Except.error.injEq] at failed
              subst failed
              rcases readString_flaw inner with rfl | ⟨cause, front, inside, after, rfl, lead, width⟩
              · exact ⟨rfl, [], '"' :: rest, [], by simp, rfl, rfl⟩
              · exact ⟨by rw [cause]; rfl, '"' :: front, inside, after, rfl, lead, width⟩
        · split at failed <;> nomatch failed

/-- The text of a word is its name. -/
theorem word_of_read
    {text : List Char}
    {lexeme : Lexeme}
    {name : String}
    (read : Lexeme.read text = .ok lexeme)
    (isWord : lexeme.token = .word name) :
    lexeme.text = name.toList ∧ (Token.isReserved name = false → Token.isName name = true) := by
  cases isFirst_of_read read with
  | none => nomatch isWord
  | number _ _ number =>
      rcases readNumber_token number with ⟨n, isInt⟩ | ⟨x, isDouble⟩
      · nomatch isInt.symm.trans isWord
      · nomatch isDouble.symm.trans isWord
  | string => nomatch isWord
  | @word c rest starts =>
      cases isWord
      refine ⟨by simp, fun free => ?_⟩
      simp only [Token.isName, String.toList_ofList, starts, List.all_takeWhile, free]
      rfl
  | @sign c rest =>
      have single (rest : List Char) : (readSingle c rest).token ≠ .word name := by
        unfold readSingle
        split <;> nofun
      unfold readSymbol at isWord
      split at isWord
      · exact absurd isWord (single [])
      · split at isWord
        · nomatch isWord
        · exact absurd isWord (single _)

end Lexeme

end GcodeTemplate
