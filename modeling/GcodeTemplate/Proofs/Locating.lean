import GcodeTemplate.Proofs.Positions
import Mathlib.Data.List.TakeWhile
import Mathlib.Order.Bounds.Basic

/-!
# Where a diagnostic points

A diagnostic tells the line and the column of a fault, and shows that line with a mark under
that column.  The place that it points to is the last one at which a character starts, or the
source ends, that is not beyond the start of the fault.  Line and column say where this place
is, so that different places are told apart.
-/

namespace GcodeTemplate

open Text

/-! ## Offsets -/

/--
A position is the last one of a source that is at most some number of bytes into it, and at
most its length.
-/
def Text.IsLastBoundary (source : List Char) (offset position : Nat) : Prop :=
  IsGreatest
    {boundary | IsBoundary source boundary ∧ boundary ≤ min offset (byteWidth source)}
    position

/-- The number of bytes in front of the place behind some ends of lines and then some columns. -/
def Text.offset? : (lines columns : Nat) → List Char → Option Nat
  | 0, 0, _ => some 0
  | _, _, [] => none
  | 0, columns + 1, c :: rest => (offset? 0 columns rest).map (c.utf8Size + ·)
  | lines + 1, columns, c :: rest =>
      (offset? (if c = '\n' then lines else lines + 1) columns rest).map (c.utf8Size + ·)

theorem Text.isBoundary_cons_iff {c : Char} {rest : List Char} {position : Nat} :
    IsBoundary (c :: rest) position ↔
      position = 0 ∨ ∃ further, IsBoundary rest further ∧ position = c.utf8Size + further := by
  constructor
  · rintro ⟨before, after, split, rfl⟩
    cases before with
    | nil => exact .inl rfl
    | cons d before =>
        obtain ⟨rfl, rfl⟩ := List.cons_eq_cons.1 split
        exact .inr ⟨byteWidth before, isBoundary_append before after, rfl⟩
  · rintro (rfl | ⟨further, ⟨before, after, rfl, rfl⟩, rfl⟩)
    · exact isBoundary_zero
    · exact isBoundary_append (c :: before) after

namespace Place

theorem before_append_after (offset : Nat) (source : List Char) :
    (ofOffset offset source).before ++ (ofOffset offset source).after = source := by
  fun_induction ofOffset offset source with
  | case1 => rfl
  | case2 offset c rest fits place ih => exact congrArg (c :: ·) ih
  | case3 => rfl

theorem byteWidth_before_le (offset : Nat) (source : List Char) :
    byteWidth (ofOffset offset source).before ≤ offset := by
  fun_induction ofOffset offset source with
  | case1 => exact Nat.zero_le _
  | case2 offset c rest fits place ih =>
      have within : byteWidth place.before ≤ offset - c.utf8Size := ih
      rw [byteWidth_cons]
      omega
  | case3 => exact Nat.zero_le _

/-- No place of a source within some number of bytes is beyond the last one. -/
theorem le_byteWidth_before
    {offset position : Nat}
    {source : List Char}
    (boundary : IsBoundary source position)
    (within : position ≤ offset) :
    position ≤ byteWidth (ofOffset offset source).before := by
  induction source generalizing offset position with
  | nil => exact boundary.le_byteWidth
  | cons c rest ih =>
      rcases isBoundary_cons_iff.1 boundary with rfl | ⟨further, furtherBoundary, rfl⟩
      · exact Nat.zero_le _
      · have fits : c.utf8Size ≤ offset := Nat.le_of_add_right_le within
        have furtherWithin : further ≤ offset - c.utf8Size := by omega
        have furtherLe := ih furtherBoundary furtherWithin
        simpa [ofOffset, fits] using furtherLe

theorem isLastBoundary_ofOffset (offset : Nat) (source : List Char) :
    IsLastBoundary source offset (byteWidth (ofOffset offset source).before) := by
  have split := before_append_after offset source
  have boundary : IsBoundary source (byteWidth (ofOffset offset source).before) :=
    ⟨_, _, split.symm, rfl⟩
  constructor
  · exact ⟨boundary, Nat.le_min.2 ⟨byteWidth_before_le offset source, boundary.le_byteWidth⟩⟩
  · rintro position ⟨isBoundary, within⟩
    exact le_byteWidth_before isBoundary (Nat.le_min.1 within).1

/-! ## Lines -/

section Lines

variable {c : Char} {before after : List Char}

theorem inLine_of_not_mem (firstLine : '\n' ∉ before) :
    ∀ c ∈ before.reverse, (c != '\n') = true :=
  fun _ member => bne_iff_ne.2 fun isEnd => firstLine (isEnd ▸ List.mem_reverse.1 member)

theorem lineBefore_of_not_mem (firstLine : '\n' ∉ before) :
    (Place.mk before after).lineBefore = before := by
  simp [lineBefore, List.takeWhile_eq_self_iff.2 (inLine_of_not_mem firstLine)]

theorem lineBefore_end_of_line (firstLine : '\n' ∉ before) :
    (Place.mk ('\n' :: before) after).lineBefore = before := by
  simp [lineBefore, List.takeWhile_append_of_pos (inLine_of_not_mem firstLine)]

/-- What is in front of the end of a line does not matter for what follows. -/
theorem lineBefore_cons_of_mem (later : '\n' ∈ before) :
    (Place.mk (c :: before) after).lineBefore = (Place.mk before after).lineBefore := by
  have stops : (before.reverse.takeWhile (· != '\n')).length ≠ before.reverse.length := by
    intro all
    have whole := (List.takeWhile_prefix (· != '\n')).eq_of_length all
    have inLine := List.takeWhile_eq_self_iff.1 whole '\n' (List.mem_reverse.2 later)
    exact absurd inLine (by decide)
  simp only [lineBefore, List.reverse_cons, List.takeWhile_append, if_neg stops]

/-- The line and the column of a place lead back to it. -/
theorem offset?_place :
    offset? (before.count '\n') (Place.mk before after).column (before ++ after) =
      some (byteWidth before) := by
  induction before with
  | nil => simp [column, lineBefore, offset?]
  | cons c before ih =>
      by_cases later : '\n' ∈ before
      · obtain ⟨lines, count⟩ := Nat.exists_eq_add_one.2 (List.count_pos_iff.2 later)
        rw [column, lineBefore_cons_of_mem later, ← column]
        by_cases isEnd : c = '\n'
        · simp [offset?, isEnd, ih]
        · rw [List.count_cons_of_ne isEnd, List.cons_append, count, offset?, if_neg isEnd,
            ← count, ih]
          rfl
      · have firstLine : before.count '\n' = 0 := List.count_eq_zero.2 later
        rw [column, lineBefore_of_not_mem later, firstLine] at ih
        by_cases isEnd : c = '\n'
        · subst isEnd
          simp [column, lineBefore_end_of_line later, firstLine, offset?, ih]
        · have one : '\n' ∉ c :: before := by simp [later, Ne.symm isEnd]
          rw [column, lineBefore_of_not_mem one, List.count_eq_zero.2 one]
          simp [offset?, ih]

/-- Wherever a place is, its line and column lead back to it. -/
theorem offset?_ofOffset (offset : Nat) (source : List Char) :
    offset? ((ofOffset offset source).line - 1) (ofOffset offset source).column source =
      some (byteWidth (ofOffset offset source).before) := by
  conv => enter [1, 3]; rw [← before_append_after offset source]
  exact offset?_place

/-- The first line of a text. -/
theorem head_lines (text : List Char) :
    (text.splitOn '\n')[0]? = some (text.takeWhile (· != '\n')) := by
  induction text with
  | nil => rfl
  | cons c rest ih =>
      simp only [List.splitOn] at ih ⊢
      rw [List.splitOnP_cons_eq_if_modifyHead]
      by_cases isEnd : c = '\n'
      · simp [isEnd]
      · simp [isEnd, ih]

/-- The text of the line with a place is that line of the source. -/
theorem lines_lineText (before after : List Char) :
    ((before ++ after).splitOn '\n')[before.count '\n']? =
      some (Place.mk before after).lineText := by
  induction before with
  | nil => exact head_lines after
  | cons c before ih =>
      simp only [List.splitOn, lineText] at ih ⊢
      rw [List.cons_append, List.splitOnP_cons_eq_if_modifyHead]
      by_cases later : '\n' ∈ before
      · rw [lineBefore_cons_of_mem later]
        by_cases isEnd : c = '\n'
        · simp [isEnd, ih]
        · have notFirst := Nat.ne_of_gt (List.count_pos_iff.2 later)
          simp [isEnd, List.count_cons_of_ne isEnd, List.getElem?_modifyHead, notFirst, ih]
      · rw [lineBefore_of_not_mem later, List.count_eq_zero.2 later] at ih
        by_cases isEnd : c = '\n'
        · subst isEnd
          simp [lineBefore_end_of_line later, List.count_eq_zero.2 later, ih]
        · have one : '\n' ∉ c :: before := by simp [later, Ne.symm isEnd]
          rw [lineBefore_of_not_mem one, List.count_eq_zero.2 one]
          simp [isEnd, ih]

theorem end_not_mem_lineText : '\n' ∉ (Place.mk before after).lineText := by
  have stops (text : List Char) : '\n' ∉ text.takeWhile (· != '\n') := fun member =>
    absurd (List.all_eq_true.1 List.all_takeWhile _ member) (by decide)
  simp [lineText, lineBefore, stops]

/-- At its column there is in a line what is behind the place, unless the line ends there. -/
theorem lineText_getElem?_column :
    (Place.mk before after).lineText[(Place.mk before after).column]? =
      after.head?.filter (· != '\n') := by
  rw [lineText, column, List.getElem?_append_right (Nat.le_refl _), Nat.sub_self,
    ← List.head?_eq_getElem?, List.head?_takeWhile]

end Lines

end Place

/-! ## Diagnostics -/

namespace Fault

theorem message_eq (fault : Fault) (source : String) (explain : Explainer) :
    (fault.diagnostic source explain).message =
      "Parsing error at line " ++ toString (fault.diagnostic source explain).line ++
        fault.separator ++ fault.cause.text explain ++ "\n" ++
        .ofList (Place.ofOffset fault.span.start source.toList).lineText ++ "\n" ++
        .ofList (List.replicate (fault.diagnostic source explain).column ' ') ++ "^\n" := by
  have number (line : Nat) : String.ofList (Number.digits line) = toString line := rfl
  have mark : String.ofList ['^', '\n'] = "^\n" := rfl
  simp only [diagnostic, number, String.ofList_append, mark, String.append_assoc]

/--
A diagnostic points to the last place of its source that is not beyond the start of the fault:
its line is counted by the ends of lines in front of the place, line and column lead back to
it, and no fault with another place has both in common.  The message shows exactly that line,
with the mark under the character at the place.
-/
theorem diagnostic_locates (fault : Fault) (source : String) (explain : Explainer) :
    let diagnostic := fault.diagnostic source explain
    ∃ before after lineText,
      source.toList = before ++ after ∧
      IsLastBoundary source.toList fault.span.start (byteWidth before) ∧
      diagnostic.line = 1 + before.count '\n' ∧
      offset? (diagnostic.line - 1) diagnostic.column source.toList =
        some (byteWidth before) ∧
      (∀ (other : Fault) (position : Nat),
        IsLastBoundary source.toList other.span.start position →
        (other.diagnostic source explain).line = diagnostic.line →
        (other.diagnostic source explain).column = diagnostic.column →
        position = byteWidth before) ∧
      diagnostic.message =
        "Parsing error at line " ++ toString diagnostic.line ++ fault.separator ++
          fault.cause.text explain ++ "\n" ++ .ofList lineText ++ "\n" ++
          .ofList (List.replicate diagnostic.column ' ') ++ "^\n" ∧
      (source.toList.splitOn '\n')[diagnostic.line - 1]? = some lineText ∧
      '\n' ∉ lineText ∧
      diagnostic.column ≤ lineText.length ∧
      lineText[diagnostic.column]? = after.head?.filter (· != '\n') := by
  intro diagnostic
  let place := Place.ofOffset fault.span.start source.toList
  have split := Place.before_append_after fault.span.start source.toList
  have located := Place.offset?_ofOffset fault.span.start source.toList
  refine ⟨place.before, place.after, place.lineText, split.symm,
    Place.isLastBoundary_ofOffset _ _, Nat.add_comm _ _, located, ?unique, ?message, ?shown,
    Place.end_not_mem_lineText, ?wide, Place.lineText_getElem?_column⟩
  case unique =>
    intro other position isLast sameLine sameColumn
    have otherLast := Place.isLastBoundary_ofOffset other.span.start source.toList
    have otherLocated := Place.offset?_ofOffset other.span.start source.toList
    have same := congrArg₂ (fun line column => offset? (line - 1) column source.toList)
      sameLine sameColumn
    have sameOffset := otherLocated.symm.trans (same.trans located)
    exact (isLast.unique otherLast).trans (Option.some.inj sameOffset)
  case message => exact fault.message_eq source explain
  case shown =>
    have shown := Place.lines_lineText place.before place.after
    rwa [split] at shown
  case wide => exact (List.prefix_append place.lineBefore _).length_le

/-- A fault within a character of two bytes is shown at that character. -/
example :
    (Fault.mk .unknownVariable ⟨5, 9⟩).diagnostic "G28\nž\x7bx\x7d\nM104" =
      { kind := .name
        line := 2
        column := 0
        cause := "Not a variable name"
        message := "Parsing error at line 2: Not a variable name\nž\x7bx\x7d\n^\n" } := by
  decide

end Fault

end GcodeTemplate
