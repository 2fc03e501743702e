import Mathlib.Data.Prod.Lex

/-!
# The order of doubles

Doubles that are numbers, the infinities included, are totally ordered.  Each of them has
a rank: first its sign, an infinity beyond all finite ones, then its exponent, then its
mantissa.  Comparing doubles is comparing their ranks, and both zeros have the same one.
The undefined value has no place in this order: it compares with nothing.
-/

namespace GcodeTemplate.Number

open Float.Model (UnpackedFloat)

/-- The rank of a double that is given by its parts. -/
def rankOfParts : UnpackedFloat → ℤ ×ₗ ℤ ×ₗ ℤ
  | .infinity .negative => toLex (-2, toLex (0, 0))
  | .finite .negative mantissa exponent _ => toLex (-1, toLex (-exponent, -mantissa))
  | .zero _ => toLex (0, toLex (0, 0))
  | .finite .positive mantissa exponent _ => toLex (1, toLex (exponent, mantissa))
  | .infinity .positive => toLex (2, toLex (0, 0))
  | .notANumber => toLex (0, toLex (0, 0))

/-- Where a double stands among all that are numbers. -/
def rank (x : Float) : ℤ ×ₗ ℤ ×ₗ ℤ :=
  rankOfParts x.toModel.unpack

theorem compare_neg_neg (a b : ℤ) : compare (-a) (-b) = compare b a := by
  simp [Int.compare_eq_ite_lt]

theorem compare_natCast (m n : ℕ) : compare (m : ℤ) n = compare m n := by
  simp [Int.compare_eq_ite_lt, Nat.compare_eq_ite_lt]

/-- Doubles that are numbers compare as their ranks do. -/
theorem compare_eq_compare_rankOfParts
    {a b : UnpackedFloat}
    (left : a ≠ .notANumber)
    (right : b ≠ .notANumber) :
    a.compare b = some (compare (rankOfParts a) (rankOfParts b)) := by
  cases a with
  | notANumber => exact absurd rfl left
  | infinity sign =>
      cases b with
      | notANumber => exact absurd rfl right
      | infinity other => cases sign <;> cases other <;> rfl
      | zero => cases sign <;> rfl
      | finite other => cases sign <;> cases other <;> rfl
  | zero =>
      cases b with
      | notANumber => exact absurd rfl right
      | infinity other => cases other <;> rfl
      | zero => rfl
      | finite other => cases other <;> rfl
  | finite sign =>
      cases b with
      | notANumber => exact absurd rfl right
      | infinity other => cases sign <;> cases other <;> rfl
      | zero => cases sign <;> rfl
      | finite other =>
          -- only for equal signs do the exponents and the mantissas matter
          cases sign <;> cases other
          case negative.positive | positive.negative => rfl
          all_goals
            change some _ = some (compare (toLex (_, toLex (_, _))) (toLex (_, toLex (_, _))))
            simp [Prod.Lex.compare_def, compareLex, compareOn, Ordering.swap_then,
              Int.compare_swap, Nat.compare_swap, compare_neg_neg, compare_natCast]

theorem isNaN_eq_false_iff {x : Float} :
    x.isNaN = false ↔ x.toModel.unpack ≠ .notANumber := by
  show x.toModel.unpack.isNaN = false ↔ _
  cases x.toModel.unpack with
  | notANumber => exact ⟨fun undefined => absurd undefined.symm Bool.false_ne_true,
      fun different => absurd rfl different⟩
  | _ => exact ⟨fun _ => UnpackedFloat.noConfusion, fun _ => rfl⟩

/-- The undefined value compares with nothing, on either side. -/
theorem notANumber_compare (b : UnpackedFloat) : UnpackedFloat.notANumber.compare b = none := by
  cases b <;> rfl

theorem compare_notANumber (a : UnpackedFloat) : a.compare .notANumber = none := by
  cases a <;> rfl

section Comparisons

variable {x y : Float}

/-- A comparison of doubles says that both are numbers, and how their ranks compare. -/
theorem any_compare_iff (test : Ordering → Bool) :
    (x.toModel.unpack.compare y.toModel.unpack).any test ↔
      x.isNaN = false ∧ y.isNaN = false ∧ test (compare (rank x) (rank y)) := by
  rw [isNaN_eq_false_iff, isNaN_eq_false_iff]
  by_cases left : x.toModel.unpack = .notANumber
  · simp [left, notANumber_compare]
  · by_cases right : y.toModel.unpack = .notANumber
    · simp [right, compare_notANumber]
    · simp [compare_eq_compare_rankOfParts left right, left, right, rank]

theorem lt_iff_rank :
    x < y ↔ x.isNaN = false ∧ y.isNaN = false ∧ rank x < rank y := by
  have less := any_compare_iff (x := x) (y := y) (· == .lt)
  simp only [beq_iff_eq, compare_lt_iff_lt] at less
  rw [← less]
  show decide (x.toModel.unpack.lt y.toModel.unpack = true) = true ↔ _
  cases found : x.toModel.unpack.compare y.toModel.unpack <;> simp [UnpackedFloat.lt, found]

theorem le_iff_rank :
    x ≤ y ↔ x.isNaN = false ∧ y.isNaN = false ∧ rank x ≤ rank y := by
  have less := any_compare_iff (x := x) (y := y) (·.isLE)
  rw [Ordering.isLE_iff_ne_gt, ← ne_eq, compare_le_iff_le] at less
  rw [← less]
  show decide (x.toModel.unpack.le y.toModel.unpack = true) = true ↔ _
  rw [decide_eq_true_eq, UnpackedFloat.le]

theorem beq_iff_rank :
    x == y ↔ x.isNaN = false ∧ y.isNaN = false ∧ rank x = rank y := by
  have same := any_compare_iff (x := x) (y := y) (· == .eq)
  simp only [beq_iff_eq, compare_eq_iff_eq] at same
  rw [← same]
  show (x.toModel.unpack.compare y.toModel.unpack == some .eq) = true ↔ _
  cases x.toModel.unpack.compare y.toModel.unpack <;> simp

end Comparisons

end GcodeTemplate.Number
