/-!
# Decimal numbers and their text

A decimal is a whole coefficient and a power of ten.  Its text is always
positional: no exponent is ever written, however many zeros that takes.
-/

namespace GcodeTemplate.Number

/-- The decimal digits of a natural number, most significant first. -/
def digits (n : Nat) : List Char :=
  Nat.toDigits 10 n

/-- The text of a whole number: its digits behind a minus if it is negative. -/
def wholeText (n : Int) : List Char :=
  if n < 0 then '-' :: digits n.natAbs else digits n.natAbs

/-- The number `coefficient * 10 ^ exponent`. -/
structure Decimal where
  coefficient : Nat
  exponent : Int
deriving DecidableEq, Repr

namespace Decimal

/--
The digits of a decimal in their places.  A negative exponent puts a point into
the digits, with zeros in front where there are too few of them.
-/
def positional (decimal : Decimal) : List Char :=
  let written := digits decimal.coefficient
  if 0 ≤ decimal.exponent then
    written ++ List.replicate decimal.exponent.toNat '0'
  else
    let places := decimal.exponent.natAbs
    if places < written.length then
      written.take (written.length - places) ++
        '.' :: written.drop (written.length - places)
    else
      '0' :: '.' :: (List.replicate (places - written.length) '0' ++ written)

/--
The double nearest to a decimal.  Coefficients with so many or so few places
that the answer is an infinity or zero are settled by their length, so the
power of ten that is computed stays small.
-/
def toFloat (decimal : Decimal) : Float :=
  let magnitude := (digits decimal.coefficient).length + decimal.exponent
  if decimal.coefficient = 0 || magnitude < -330 then
    0.0
  else if 310 < magnitude then
    1.0 / 0.0
  else
    .ofScientific decimal.coefficient (decimal.exponent < 0)
      decimal.exponent.natAbs

end Decimal

end GcodeTemplate.Number
