/-!
# Doubles as exact binary numbers

A double is a sign, a whole mantissa and a power of two, or one of the values
that are no numbers.  Every exact computation on doubles (their decimal text,
their whole part, their remainder) starts from this view, so that it can be
carried out on natural numbers.
-/

namespace GcodeTemplate.Number

/-- What a double stands for. -/
inductive Binary where
  /-- The result of an undefined operation. -/
  | notANumber
  /-- An infinity. -/
  | infinite (negative : Bool)
  /-- The number `mantissa * 2 ^ exponent`, negated when `negative` is set. -/
  | finite (negative : Bool) (mantissa : Nat) (exponent : Int)
deriving DecidableEq, Repr

namespace Binary

/-- The least exponent of a double, that of the subnormal numbers. -/
def leastExponent : Int := -1074

/-- The least mantissa of a normal number. -/
def leastNormalMantissa : Nat := 1 <<< 52

/--
The number that a double stands for.  The eleven bits below the sign are the
exponent field; a field of zero marks a subnormal number, a full one marks an
infinity or the undefined value.
-/
def ofFloat (x : Float) : Binary :=
  let bits := x.toBits.toNat
  let negative := bits >>> 63 == 1
  let field : Nat := (bits >>> 52) % 2048
  let fraction := bits % leastNormalMantissa
  if field = 2047 then
    if fraction = 0 then infinite negative else notANumber
  else if field = 0 then
    finite negative fraction leastExponent
  else
    finite negative (leastNormalMantissa + fraction) (field - 1075)

/-- How many binary digits a natural number has. -/
def bitLength (n : Nat) : Nat :=
  if n = 0 then 0 else n.log2 + 1

/--
The double with the given sign that equals `mantissa * 2 ^ exponent`, for a
mantissa of at most 53 binary digits and an exponent that a double can have.
The mantissa is moved up as far as the least exponent allows, which makes the
encoding unique.
-/
def encode (negative : Bool) (mantissa : Nat) (exponent : Int) : Float :=
  let shift := min (53 - bitLength mantissa) (exponent - leastExponent).toNat
  let mantissa := mantissa <<< shift
  let field :=
    if mantissa < leastNormalMantissa then 0
    else (exponent - shift + 1075).toNat
  let magnitude :=
    if field = 0 then mantissa
    else (field <<< 52) + (mantissa - leastNormalMantissa)
  .ofBits (.ofNat (magnitude + if negative then 1 <<< 63 else 0))

end Binary

end GcodeTemplate.Number
