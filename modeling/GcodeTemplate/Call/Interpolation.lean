import GcodeTemplate.Diagnostic

/-!
# Interpolation in a table

A table lists points by increasing first coordinate, and stands for the line
through them.  Slightly outside of the table the line goes on level.
-/

namespace GcodeTemplate

/-- A point of a table.  Its span is that of the first coordinate. -/
structure Knot where
  x : Float
  y : Float
  span : Span

/-- Points in the order of a table. -/
abbrev Table : Type :=
  List Knot

namespace Table

/--
How far outside of a table the line is level, and how close two points are when
the line between them is level.
-/
def tolerance : Float :=
  0.0001

/-- The pairs of neighbours. -/
def segments (table : Table) : List (Knot × Knot) :=
  table.zip (table.drop 1)

/-- Whether the first coordinate decreases along a segment. -/
def decreases (segment : Knot × Knot) : Bool :=
  segment.2.x < segment.1.x

/-- Whether a segment lies above or below a first coordinate. -/
def spans (x : Float) (segment : Knot × Knot) : Bool :=
  segment.1.x ≤ x && x ≤ segment.2.x

/-- The height of the line over `x`, which the segment spans. -/
def height (x : Float) (segment : Knot × Knot) : Float :=
  let (left, right) := segment
  if x == left.x then
    left.y
  else if x == right.x then
    right.y
  else if (right.x - left.x).abs < tolerance then
    0.5 * (left.y + right.y)
  else
    left.y + (right.y - left.y) * ((x - left.x) / (right.x - left.x))

/-- The height beyond the first and the last point. -/
def levelHeight? (x : Float) (first last : Knot) : Option Float :=
  if first.x - tolerance < x && x ≤ first.x then
    some first.y
  else if last.x ≤ x && x < last.x + tolerance then
    some last.y
  else
    none

/-- The height of the line over `x`, which comes from an expression at `span`. -/
def interpolate (table : Table) (x : Float) (span : Span) : Except Fault Float :=
  match table with
  | [] => .error ⟨.emptyTable, span⟩
  | first :: rest =>
      match segments table |>.find? decreases with
      | some (left, right) => .error ⟨.decreasingTable, left.span.cover right.span⟩
      | none =>
          match segments table |>.find? (spans x) with
          | some segment => .ok (height x segment)
          | none =>
              match levelHeight? x first (rest.getLast?.getD first) with
              | some y => .ok y
              | none => .error ⟨.outsideTable, span⟩

end Table

end GcodeTemplate
