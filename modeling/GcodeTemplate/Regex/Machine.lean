import GcodeTemplate.Regex.Plan
import GcodeTemplate.Regex.StateTable
import GcodeTemplate.Regex.TextTree
import GcodeTemplate.Text.Width

/-!
# The machines of regular expressions

A regular expression has a machine that reads the bytes of a text forward, and
another one that reads them backward.  Only the first one remembers where groups
begin and end.  Neither of them may be too large.

The limit is the one that the `regex` library documents for what it compiles.  How
large a machine is by it follows from how that library builds its machines.
-/

namespace GcodeTemplate.Regex

/-- The bytes of a text, in the order in which they are read. -/
def Direction.bytes (direction : Direction) (chars : List Char) : List Nat :=
  let bytes := (chars.flatMap String.utf8EncodeChar).map UInt8.toNat
  match direction with
  | forward => bytes
  | backward => bytes.reverse

namespace Plan

mutual

/-- The states of a plan. -/
def build (direction : Direction) : Plan → Building Unit
  | empty => Building.plain
  | text chars =>
      Building.copies Building.plain (Text.byteWidth chars)
  | oneOf chars => chars.build direction
  | look _ _ => Building.plain
  | repeated _ least most body =>
      Building.repetition least most body.takesInput (body.build direction)
  | group body =>
      match direction with
      | .forward => do
          Building.plain
          body.build direction
          Building.plain
      | .backward => body.build direction
  | sequence parts =>
      match direction with
      | .forward => buildInOrder direction parts
      | .backward => buildFromLast direction parts
  | choice parts =>
      match parts.mapM text? with
      | some texts => do
          Building.plain
          (TextTree.ofTexts (texts.map direction.bytes)).build 0 0
      | none => buildChoice direction parts

/-- The states of some plans, one after the other. -/
def buildInOrder (direction : Direction) : List Plan → Building Unit
  | [] => pure ()
  | part :: rest => do
      part.build direction
      buildInOrder direction rest

/-- The states of some plans, from the last one to the first one. -/
def buildFromLast (direction : Direction) : List Plan → Building Unit
  | [] => pure ()
  | part :: rest => do
      buildFromLast direction rest
      part.build direction

/-- The states of a choice; those of the first two plans come before the choice itself. -/
def buildChoice (direction : Direction) : List Plan → Building Unit
  | first :: second :: rest => do
      first.build direction
      second.build direction
      Building.fork (rest.length + 2)
      Building.plain
      buildInOrder direction rest
  | rest => buildInOrder direction rest

end

/-- The condition that lets a machine start only where a text begins, or ends. -/
def anchor (direction : Direction) : Look :=
  match direction with
  | .forward => .textStart
  | .backward => .textEnd

/--
The whole machine.  It first skips bytes unless a match can only start at an end
of the text, and the match as a whole is captured.
-/
def machine (direction : Direction) (plan : Plan) : Building Unit := do
  if plan.mustMeet direction (anchor direction) then
    Building.plain
  else
    Building.fork 2
    Building.plain
    Building.switch 1
  (group plan).build direction
  Building.plain

/-- Whether neither of the machines of a plan is too large. -/
def fits (plan : Plan) : Bool :=
  ((plan.machine .forward).run {}).isSome && ((plan.machine .backward).run {}).isSome

end Plan

end GcodeTemplate.Regex
