import GcodeTemplate.Proofs.IntegerArithmetic
import GcodeTemplate.Proofs.PrintedTokens
import Mathlib.Data.Int.Order.Basic
import Std.Data.String.ToInt

/-!
# Integers in columns

An integer that is written into a column of a given width is filled up at its left: with
blanks in front of its sign, or with zeros behind it.  Nothing of it is ever cut off, so the
text is as long as the wider one of the column and the integer, and the zeros do not change
what integer is read from it.
-/

namespace GcodeTemplate

namespace Text

theorem length_padLeft
    (width : Nat)
    (text : List Char) :
    (padLeft width text).length = max width text.length := by
  simp only [padLeft, List.length_append, List.length_replicate]
  omega

theorem length_padZeros
    (width : Nat)
    (sign text : List Char) :
    (padZeros width sign text).length = max width (sign ++ text).length := by
  simp only [padZeros, List.length_append, List.length_replicate]
  omega

end Text

open Text

namespace Number

theorem toInt_max (m n : Int64) :
    (max m n).toInt = max m.toInt n.toInt := by
  change (if m ≤ n then n else m).toInt = _
  rw [max_def]
  simp only [Int64.le_iff_toInt_le]
  split <;> rfl

theorem toInt_min (m n : Int64) :
    (min m n).toInt = min m.toInt n.toInt := by
  change (if m ≤ n then m else n).toInt = _
  rw [min_def]
  simp only [Int64.le_iff_toInt_le]
  split <;> rfl

/-- The minus in front of a negative integer. -/
def minus (n : Int) : List Char :=
  if n < 0 then ['-'] else []

/-- The text of an integer is its decimal form. -/
theorem minus_append_digits (n : Int) :
    minus n ++ digits n.natAbs = (toString n).toList := by
  have decimal : toString n = if 0 ≤ n then n.toNat.repr else "-" ++ (-n).toNat.repr :=
    Int.repr_eq_if
  rw [decimal, minus]
  by_cases negative : n < 0
  · have same : n.natAbs = (-n).toNat := by omega
    rw [if_pos negative, if_neg (by omega), same, String.toList_append, Nat.toList_repr]
    rfl
  · have same : n.natAbs = n.toNat := by omega
    rw [if_neg negative, if_pos (by omega), same, Nat.toList_repr]
    rfl

/-- Zeros in front of the digits of a number do not change what is read. -/
theorem toNat?_zeros_append_digits (count m : Nat) :
    (String.ofList (List.replicate count '0' ++ digits m)).toNat? = some m := by
  have areDigits : ∀ c ∈ List.replicate count '0' ++ digits m, c.isDigit = true := by
    intro c member
    rcases List.mem_append.1 member with zero | digit
    · rw [List.eq_of_mem_replicate zero]
      rfl
    · exact Nat.isDigit_of_mem_toDigits (by decide) (by decide) digit
  have present : String.ofList (List.replicate count '0' ++ digits m) ≠ "" := by
    intro empty
    have none := congrArg String.toList empty
    rw [String.toList_ofList] at none
    exact Nat.toDigits_ne_nil (List.append_eq_nil_iff.1 none).2
  have isNat : (String.ofList (List.replicate count '0' ++ digits m)).isNat = true := by
    apply String.isNat_of_isDigit present
    rwa [String.toList_ofList]
  have noSeparator : '_' ∉ List.replicate count '0' ++ digits m :=
    fun member => nomatch areDigits _ member
  rw [String.toNat?_eq_some_ofDigitChars isNat, String.toList_ofList,
    List.filter_bne_eq_self_of_not_mem noSeparator, Nat.ofDigitChars_append,
    Nat.ofDigitChars_replicate_zero, Nat.mul_zero]
  exact congrArg some Nat.ofDigitChars_ten_toDigits

/-- Zeros between the minus and the digits of an integer do not change what is read. -/
theorem toInt?_padZeros
    (width : Nat)
    (n : Int) :
    (String.ofList (padZeros width (minus n) (digits n.natAbs))).toInt? = some n := by
  have read := toNat?_zeros_append_digits
    (width - (minus n).length - (digits n.natAbs).length) n.natAbs
  by_cases negative : n < 0
  · simp only [minus, if_pos negative, padZeros] at read ⊢
    rw [String.ofList_append]
    refine String.toInt?_minus_append.trans ?_
    rw [read]
    simp only [Option.map_some, Option.some.injEq]
    omega
  · simp only [minus, if_neg negative, padZeros, List.nil_append] at read ⊢
    rw [String.toInt?_eq_some_iff]
    exact .inl ⟨n.natAbs, read, by omega⟩

end Number

namespace Value

open Number

/-- A width that is asked for is taken between zero and 64. -/
theorem widthOf_eq (w : Int64) :
    widthOf w = (max 0 (min w.toInt 64)).toNat := by
  rw [widthOf, toInt_max, toInt_min]
  rfl

/-- Without a number of places an integer is written with its minus and its digits. -/
theorem columnText_int
    (v w : Int64)
    (zeros : Bool) :
    ((int v).columnText zeros w none).toList =
      if zeros then
        padZeros (widthOf w) (minus v.toInt) (digits v.toInt.natAbs)
      else
        padLeft (widthOf w) (minus v.toInt ++ digits v.toInt.natAbs) := by
  have sign : (if decide ((int v).rounded.toInt < 0) then ['-'] else []) = minus v.toInt :=
    if_congr decide_eq_true_iff rfl rfl
  have magnitude : wholeText (int v).rounded.toInt.natAbs = digits v.toInt.natAbs := by
    rw [wholeText, if_neg (by omega), Int.natAbs_natCast, rounded]
  simp only [columnText, sign, magnitude]
  split <;> exact String.toList_ofList

end Value

open Evaluation Eval Number

/-- Where blocks are taken, an integer is written into a column of a given width. -/
theorem Expr.eval_digits_of_int
    {layers : Layers}
    {state between after : State}
    {value width : Expr}
    {v w : Int64}
    (active : state.suppressed = 0)
    (evaluated : value.eval layers state = (.ok (.int v), between))
    (measured : width.eval layers between = (.ok (.int w), after))
    (span : Span)
    (zeros : Bool) :
    (Expr.call span (.digits zeros value width none)).eval layers state =
      (.ok (.string ((Value.int v).columnText zeros w none)), after) := by
  have number :
      expecting (Sourced.number .argumentNotNumeric) value.span value.eval layers state =
        (.ok (.int v), between) := by
    rw [expecting, bind_of_ok evaluated]
    rfl
  have whole :
      expecting (Sourced.whole .widthNotWhole) width.span width.eval layers between =
        (.ok w, after) := by
    rw [expecting, bind_of_ok measured]
    rfl
  rw [Expr.eval.eq_def, unlessSkipping_of_active _ active]
  dsimp only
  rw [Call.eval, bind_of_ok number, bind_of_ok whole]
  rfl

/--
Where blocks are taken, let `digits` or `zdigits` be called with an integer and an integer as
its width.  The text that it yields has as many characters as the wider one of the column and
the decimal form of the integer, where the column is the width cut to the range from 0 to 64.
For `digits` it is the decimal form behind blanks; for `zdigits` the zeros stand between the
minus, if there is one, and the digits, so that the text is read as the integer again.
-/
theorem integer_columns_faithful
    {layers : Layers}
    {state between after : State}
    {value width : Expr}
    {v w : Int64}
    (active : state.suppressed = 0)
    (evaluated : value.eval layers state = (.ok (.int v), between))
    (measured : width.eval layers between = (.ok (.int w), after))
    (span : Span) :
    let decimal := (toString v.toInt).toList
    let columns := (max 0 (min w.toInt 64)).toNat
    (∃ text, (Expr.call span (.digits false value width none)).eval layers state =
        (.ok (.string text), after) ∧
      text.length = max columns decimal.length ∧
      text.toList = List.replicate (columns - decimal.length) ' ' ++ decimal) ∧
    ∃ text sign magnitude,
      (Expr.call span (.digits true value width none)).eval layers state =
        (.ok (.string text), after) ∧
      text.length = max columns decimal.length ∧
      decimal = sign ++ magnitude ∧ sign = (if v < 0 then ['-'] else []) ∧
      text.toList = sign ++ List.replicate (columns - decimal.length) '0' ++ magnitude ∧
      text.toInt? = some v.toInt := by
  intro decimal columns
  have written : minus v.toInt ++ digits v.toInt.natAbs = decimal := minus_append_digits v.toInt
  have blanks := Value.columnText_int v w false
  have zeros := Value.columnText_int v w true
  rw [Value.widthOf_eq] at blanks zeros
  have evaluates := Expr.eval_digits_of_int active evaluated measured span
  refine ⟨⟨_, evaluates false, ?_, ?_⟩,
    ⟨_, minus v.toInt, digits v.toInt.natAbs, evaluates true, ?_, written.symm, ?_, ?_, ?_⟩⟩
  · rw [← String.length_toList, blanks, if_neg (by decide), length_padLeft, written]
  · rw [blanks, if_neg (by decide), written, padLeft]
  · rw [← String.length_toList, zeros, if_pos rfl, length_padZeros, written]
  · simp only [minus, Int64.lt_iff_toInt_lt]
    rfl
  · have widths : columns - (minus v.toInt).length - (digits v.toInt.natAbs).length =
        columns - decimal.length := by
      rw [← written, List.length_append, Nat.sub_sub]
    rw [zeros, if_pos rfl, padZeros, widths, List.append_assoc]
  · rw [← String.ofList_toList (s := ((Value.int v).columnText true w none)), zeros, if_pos rfl]
    exact toInt?_padZeros columns v.toInt

/-- In a column that is one wider than the least integer a zero stands behind the minus. -/
theorem least_integer_in_columns :
    let least : Expr := .literal ⟨8, 28⟩ (.int Int64.minValue)
    let width : Expr := .literal ⟨30, 32⟩ (.int 21)
    ({} : State).suppressed = 0 ∧
      least.eval { process := ∅ } {} = (.ok (.int Int64.minValue), {}) ∧
      width.eval { process := ∅ } {} = (.ok (.int 21), {}) ∧
      ∃ text, (Expr.call ⟨0, 33⟩ (.digits true least width none)).eval { process := ∅ } {} =
          (.ok (.string text), {}) ∧
        text.length = 21 ∧ text.toInt? = some (-9223372036854775808) := by
  intro least width
  have active : ({} : State).suppressed = 0 := rfl
  have evaluated : least.eval { process := ∅ } {} = (.ok (.int Int64.minValue), {}) :=
    Expr.eval_literal active _ _
  have measured : width.eval { process := ∅ } {} = (.ok (.int 21), {}) :=
    Expr.eval_literal active _ _
  rcases (integer_columns_faithful active evaluated measured ⟨0, 33⟩).2 with
    ⟨text, _, _, written, length, _, _, _, read⟩
  exact ⟨active, evaluated, measured, text, written, length, read⟩

end GcodeTemplate
