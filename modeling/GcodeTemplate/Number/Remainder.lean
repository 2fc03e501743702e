import GcodeTemplate.Number.Binary

/-!
# Remainder of doubles

The remainder of a division whose quotient is cut toward zero.  It is always
representable, so no rounding takes place; its sign is that of the dividend.
-/

namespace GcodeTemplate.Number

/--
The exact remainder of two doubles.  An infinite dividend or a zero divisor
leaves it undefined; an infinite divisor leaves the dividend as it is.
-/
def remainder (x y : Float) : Float :=
  match Binary.ofFloat x, Binary.ofFloat y with
  | .finite _ _ _, .infinite _ => x
  | .finite negative m p, .finite _ n q =>
      if n = 0 then
        0.0 / 0.0
      else
        let exponent := min p q
        let rest :=
          (m <<< (p - exponent).toNat) % (n <<< (q - exponent).toNat)
        Binary.encode negative rest exponent
  | _, _ => 0.0 / 0.0

end GcodeTemplate.Number
