import GcodeTemplate.Regex.Building
import GcodeTemplate.Regex.Bytes
import Std.Data.HashMap

/-!
# The states of sets

The states that read a character of a set can be shared by its code points.  A
table with a fixed number of places remembers the states that there are, and a
state that comes to a place which is taken replaces the one that stands there.
So how many states a set needs depends on the places, which follow from what the
states read and from their numbers.
-/

namespace GcodeTemplate.Regex

/-- What a state reads next, and the number of the state that follows. -/
structure Transition where
  bytes : CodeRange
  next : Nat
deriving DecidableEq, Repr

/-- The numbers that tell a transition from others. -/
def Transition.description (transition : Transition) : List Nat :=
  [transition.bytes.first, transition.bytes.last, transition.next]

/-- States that can be used again, each with its description and its number. -/
abbrev StateTable : Type :=
  Std.HashMap Nat (List Nat × Nat)

/-- Builds states that can be used again. -/
abbrev Sharing : Type → Type :=
  StateT StateTable Building

namespace Sharing

/-- Mix another number into a hash. -/
def mix (hash : UInt64) (value : Nat) : UInt64 :=
  (hash ^^^ UInt64.ofNat value) * 1099511628211

/-- The place of a state in a table with a number of places. -/
def place (places : Nat) (description : List Nat) : Nat :=
  (description.foldl mix 14695981039346656037).toNat % places

/--
The number of a state with a description.  Such a state is added unless it stands
at its place in the table; a state that is added takes the place of another one.
-/
def state (places extra : Nat) (description : List Nat) : Sharing Nat :=
  fun table machine =>
    let position := place places description
    let known :=
      table[position]?.bind fun (known, number) =>
        if known = description then some number else none
    match known with
    | some number => some ((number, table), machine)
    | none => do
        let (number, next) ← Building.add extra machine
        some ((number, table.insert position (description, number)), next)

/-- Build states with a table of their own. -/
def run {α : Type} (sharing : Sharing α) : Building Unit := do
  let _ ← StateT.run sharing {}

end Sharing

namespace ByteTree

/-- The state with some transitions; without any, it is the target. -/
def node (target : Nat) (transitions : List Transition) : Sharing Nat :=
  if transitions.isEmpty then
    pure target
  else
    Sharing.state 10000 (8 * transitions.length) (transitions.flatMap (·.description))

/--
Build the states of a tree but the first one, whose transitions are the answer.
A sequence that has been read leads to `target`.
-/
def transitions (target : Nat) : ByteTree → Sharing (List Transition)
  | leaf => pure []
  | branch bytes after others => do
      let inner ← after.transitions target
      let next ← node target inner
      let rest ← others.transitions target
      pure (⟨bytes, next⟩ :: rest)

/-- The states of a tree. -/
def build (target : Nat) (tree : ByteTree) : Building Unit :=
  Sharing.run do
    let first ← tree.transitions target
    node target first

end ByteTree

namespace EncodedSet

/-- The states of a sequence of bytes that is read backward and leads to `next`. -/
def sequenceBackward (next : Nat) : ByteSequence → Sharing Unit
  | [] => pure ()
  | bytes :: rest => do
      let number ← Sharing.state 1000 0 [next, bytes.first, bytes.last]
      sequenceBackward number rest

/--
The states that read a character of a set.  A set in ASCII is read in one step.
The bytes of other characters share states: forward, for what they end with, and
backward, for what they begin with.
-/
def build (direction : Direction) (set : EncodedSet) : Building Unit := do
  if set.isAscii then
    Building.plain
    Building.switch set.ranges.length
  else
    match direction with
    | .forward =>
        let target ← Building.add 0
        set.tree.build target
    | .backward =>
        Building.fork set.sequences.length
        let target ← Building.add 0
        Sharing.run (set.sequences.forM (sequenceBackward target))

end EncodedSet

end GcodeTemplate.Regex
