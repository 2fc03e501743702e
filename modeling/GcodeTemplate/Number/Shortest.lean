import GcodeTemplate.Number.Binary
import GcodeTemplate.Number.Decimal

/-!
# Shortest decimal text of a double

The text of a double is the decimal with the fewest digits that reads back as
the same double; of two such decimals it is the nearer one, and the larger one
when both are equally near.
-/

namespace GcodeTemplate.Number

/--
The reals that read back as one double, in units of a common fraction: all
`x` with `low ≤ x * unit ≤ high`, where the ends belong to the range only if
`closed` is set, around the double itself at `middle`.
-/
structure Basin where
  low : Nat
  middle : Nat
  high : Nat
  /-- The range is measured in units of `2 ^ exponent`. -/
  exponent : Int
  closed : Bool
deriving Repr

namespace Basin

/--
The basin of `mantissa * 2 ^ exponent` reaches half way to both neighbours.
The neighbour below a power of two is nearer than the one above.  The ends
round to an even mantissa.
-/
def around (mantissa : Nat) (exponent : Int) : Basin where
  low :=
    if mantissa = Binary.leastNormalMantissa then 4 * mantissa - 1
    else 4 * mantissa - 2
  middle := 4 * mantissa
  high := 4 * mantissa + 2
  exponent := exponent - 2
  closed := mantissa % 2 == 0

/--
The coefficient of the decimal in the basin that is a multiple of
`10 ^ exponent`, if there is one.  Only the two multiples next to the double
need to be tried.
-/
def onGrid (basin : Basin) (exponent : Int) : Option Nat :=
  let units := Nat.pow 10 (-exponent).toNat <<< basin.exponent.toNat
  let step := Nat.pow 10 exponent.toNat <<< (-basin.exponent).toNat
  let target := basin.middle * units
  let below := target / step
  let inside (coefficient : Nat) : Bool :=
    let place := coefficient * step
    if basin.closed then
      basin.low * units ≤ place && place ≤ basin.high * units
    else
      basin.low * units < place && place < basin.high * units
  let aboveIsNearer := (below + 1) * step - target ≤ target - below * step
  match inside below, inside (below + 1) with
  | false, false => none
  | true, false => some below
  | false, true => some (below + 1)
  | true, true => some (if aboveIsNearer then below + 1 else below)

/--
Try the powers of ten downward from `exponent`.  Once a grid is finer than the
basin it has a point inside, so a small number of `rounds` is enough.
-/
def search (basin : Basin) : (rounds : Nat) → (exponent : Int) → Decimal
  | 0, exponent => ⟨0, exponent⟩
  | rounds + 1, exponent =>
      match basin.onGrid exponent with
      | some coefficient => ⟨coefficient, exponent⟩
      | none => search basin rounds (exponent - 1)

end Basin

/--
The shortest decimal that reads back as `mantissa * 2 ^ exponent`.  The search
starts at a power of ten above the number: a number of `b` binary digits lies
below `10 ^ (0.30103 b + 2)`.
-/
def shortest (mantissa : Nat) (exponent : Int) : Decimal :=
  if mantissa = 0 then
    ⟨0, 0⟩
  else
    let size := Binary.bitLength mantissa + exponent
    (Basin.around mantissa exponent).search 24 (size * 30103 / 100000 + 2)

/-- A minus where a sign is due. -/
def signText (negative : Bool) : List Char :=
  if negative then ['-'] else []

/-- The text of a double: its sign, also that of a zero, and its shortest digits. -/
def shortestText (x : Float) : List Char :=
  match Binary.ofFloat x with
  | .notANumber => ['N', 'a', 'N']
  | .infinite negative => signText negative ++ ['i', 'n', 'f']
  | .finite negative mantissa exponent =>
      signText negative ++ (shortest mantissa exponent).positional

end GcodeTemplate.Number
