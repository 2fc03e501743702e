import GcodeTemplate.Number.Shortest

/-!
# Doubles with a fixed number of places

The exact value of a double is rounded to the wanted number of places, a half
to the even neighbour.
-/

namespace GcodeTemplate.Number

/-- The quotient rounded to the nearest whole number, a half to the even one. -/
def nearestEven (dividend divisor : Nat) : Nat :=
  let whole := dividend / divisor
  let rest := dividend % divisor
  if divisor < 2 * rest || (2 * rest == divisor && whole % 2 == 1) then
    whole + 1
  else
    whole

/-- The number `mantissa * 2 ^ exponent` with `places` places behind the point. -/
def fixed (places mantissa : Nat) (exponent : Int) : Decimal where
  coefficient :=
    nearestEven
      ((mantissa * Nat.pow 10 places) <<< exponent.toNat) (1 <<< (-exponent).toNat)
  exponent := -places

/-- Sign and unsigned text of a double with the given number of places. -/
def fixedText (places : Nat) (x : Float) : Bool × List Char :=
  match Binary.ofFloat x with
  | .notANumber => (false, ['N', 'a', 'N'])
  | .infinite negative => (negative, ['i', 'n', 'f'])
  | .finite negative mantissa exponent =>
      (negative, (fixed places mantissa exponent).positional)

end GcodeTemplate.Number
