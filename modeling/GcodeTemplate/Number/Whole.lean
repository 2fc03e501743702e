import GcodeTemplate.Number.Binary

/-!
# Whole numbers near a double

Rounding a double to a whole number in one of four directions, and cutting the
result to the range of a 64-bit integer.  The undefined value counts as zero
and an infinity as the end of the range on its side.
-/

namespace GcodeTemplate.Number

/-- The direction in which a number is rounded to a whole one. -/
inductive Rounding where
  /-- Drop the fraction. -/
  | towardZero
  /-- To the nearest whole number, a half away from zero. -/
  | halfAway
  /-- To the next whole number below. -/
  | down
  /-- To the next whole number above. -/
  | up
deriving DecidableEq, Repr

/--
Round the quotient of a magnitude by `divisor` for a number of the given sign.
-/
def Rounding.quotient
    (rounding : Rounding)
    (negative : Bool)
    (dividend divisor : Nat) :
    Nat :=
  let whole := dividend / divisor
  let rest := dividend % divisor
  let away :=
    match rounding with
    | .towardZero => false
    | .halfAway => divisor ≤ 2 * rest
    | .down => negative && rest != 0
    | .up => !negative && rest != 0
  if away then whole + 1 else whole

/-- A magnitude with its sign. -/
def signed (negative : Bool) (magnitude : Nat) : Int :=
  if negative then -magnitude else magnitude

/-- The whole number that `mantissa * 2 ^ exponent` rounds to. -/
def Rounding.whole
    (rounding : Rounding)
    (negative : Bool)
    (mantissa : Nat)
    (exponent : Int) :
    Int :=
  signed negative <|
    rounding.quotient negative
      (mantissa <<< exponent.toNat) (1 <<< (-exponent).toNat)

/-- The 64-bit integer nearest to a whole number. -/
def saturate (n : Int) : Int64 :=
  .ofInt (max Int64.minValue.toInt (min n Int64.maxValue.toInt))

/-- Round a double to a 64-bit integer. -/
def Rounding.toInt64 (rounding : Rounding) (x : Float) : Int64 :=
  match Binary.ofFloat x with
  | .notANumber => 0
  | .infinite negative => if negative then Int64.minValue else Int64.maxValue
  | .finite negative mantissa exponent =>
      saturate (rounding.whole negative mantissa exponent)

end GcodeTemplate.Number
