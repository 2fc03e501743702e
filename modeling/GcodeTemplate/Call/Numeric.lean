import GcodeTemplate.Evaluation
import GcodeTemplate.Number.Fixed
import GcodeTemplate.Random
import GcodeTemplate.Text.Width

/-!
# Functions on numbers

The less and the greater of two numbers, numbers that are drawn at random, and
the text of a number in a column of a given width.
-/

namespace GcodeTemplate

namespace Value

/-- Whether the less or the greater of two numbers is asked for. -/
inductive Extreme where
  | least
  | greatest
deriving DecidableEq, Repr

/-- The less or the greater of two integers. -/
def Extreme.ofInts (extreme : Extreme) (m n : Int64) : Int64 :=
  match extreme with
  | .least => if n < m then n else m
  | .greatest => if m < n then n else m

/--
The less or the greater of two doubles, the first one if they are equal.  The
undefined number does not count.
-/
def Extreme.ofFloats (extreme : Extreme) (x y : Float) : Float :=
  if x.isNaN then
    y
  else
    match extreme with
    | .least => if y < x then y else x
    | .greatest => if x < y then y else x

/-- The less or the greater of two numbers, a double if either of them is one. -/
def Extreme.of (extreme : Extreme) : Value → Value → Value
  | int m, int n => int (extreme.ofInts m n)
  | left, right => double (extreme.ofFloats left.toFloat right.toFloat)

/-- The most characters, and the most places, that a number is filled up to. -/
def maximalWidth : Int64 :=
  64

/-- The count of characters that an integer asks for. -/
def widthOf (n : Int64) : Nat :=
  (max 0 (min n maximalWidth)).toInt.toNat

/--
The text of a number in a column, filled up with zeros behind its sign or else
with blanks.  Without a number of places it is rounded to an integer.
-/
def columnText
    (value : Value)
    (zeros : Bool)
    (width : Int64)
    (places : Option Int64) :
    String :=
  let (negative, digits) :=
    match places with
    | some places => Number.fixedText (widthOf places) value.toFloat
    | none =>
        let n := value.rounded.toInt
        (decide (n < 0), Number.wholeText n.natAbs)
  let sign := if negative then ['-'] else []
  if zeros then
    .ofList (Text.padZeros (widthOf width) sign digits)
  else
    .ofList (Text.padLeft (widthOf width) (sign ++ digits))

end Value

namespace RandomSource

/--
A number between two others, if there is one.  Between integers it is an
integer, and both ends count; between doubles it is a double, and the upper end
only counts if it is the lower one too.
-/
def draw? (source : RandomSource) : Value → Value → Option (Value × RandomSource)
  | .int low, .int high =>
      if high < low then
        none
      else
        let (n, after) := source.drawInt low high
        some (.int n, after)
  | low, high =>
      let low := low.toFloat
      let high := high.toFloat
      if ! (low ≤ high) || ! low.isFinite || ! high.isFinite || ! (high - low).isFinite then
        none
      else if low == high then
        some (.double low, source)
      else
        let (x, after) := source.drawFloat low high
        some (.double x, after)

end RandomSource

namespace Eval

/-- Draw a number between two others. -/
def draw (span : Span) (low high : Value) : Eval Value :=
  fun layers state =>
    match state.random? with
    | none => Evaluation.fail .noRandomSource span layers state
    | some source =>
        match source.draw? low high with
        | none => Evaluation.fail .invalidRandomRange span layers state
        | some (value, after) => (.ok value, state.withRandom after)

/-- Go over to another extruder. -/
def changeFilament (span : Span) (filament : Value) : Eval Value :=
  fun layers state =>
    let index := filament.truncated
    if index < 0 then
      Evaluation.fail .negativeFilament span layers state
    else
      (.ok .empty, { state with extruder := index.toInt.toNat })

end Eval

end GcodeTemplate
