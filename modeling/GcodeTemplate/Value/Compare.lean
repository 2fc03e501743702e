import GcodeTemplate.Value.Arithmetic

/-!
# Comparing values

Numbers compare as numbers; doubles are equal when they are close.  Truth
values are equal or not, without an order.  All else compares by its text.
-/

namespace GcodeTemplate

/-- Doubles that are closer than this are equal. -/
def equalityTolerance : Float :=
  1e-8

namespace Comparison

/-- Whether a comparison holds of two things in the given order; `none` is no order. -/
def holds : Comparison → Option Ordering → Bool
  | equal, order => order == some .eq
  | notEqual, order => order != some .eq
  | less, order => order == some .lt
  | greater, order => order == some .gt
  | lessOrEqual, order => order != some .gt
  | greaterOrEqual, order => order != some .lt

end Comparison

/-- The order of two doubles; none if one of them is undefined. -/
def floatOrder (x y : Float) : Option Ordering :=
  if x < y then some .lt
  else if x == y then some .eq
  else if y < x then some .gt
  else none

/-- Whether a comparison holds of two doubles. -/
def Comparison.onFloats (comparison : Comparison) (x y : Float) : Bool :=
  match comparison with
  | .equal => (x - y).abs < equalityTolerance
  | .notEqual => ! ((x - y).abs < equalityTolerance)
  | _ => comparison.holds (floatOrder x y)

/-- The order of two strings, by their code points. -/
def stringOrder (s t : String) : Ordering :=
  if s < t then .lt else if s = t then .eq else .gt

namespace Value

/-- Whether a comparison holds of two values. -/
def compare
    (comparison : Comparison)
    (left right : Value) :
    Except Mismatch Bool :=
  match left, right with
  | int m, int n => .ok (comparison.holds (some (Ord.compare m n)))
  | bool a, bool b =>
      match comparison with
      | .equal => .ok (a == b)
      | .notEqual => .ok (a != b)
      | _ => .error ⟨.cannotCompare, .both⟩
  | _, _ =>
      if left.isNumeric && right.isNumeric then
        .ok (comparison.onFloats left.toFloat right.toFloat)
      else
        .ok (comparison.holds (some (stringOrder left.text right.text)))

end Value

end GcodeTemplate
