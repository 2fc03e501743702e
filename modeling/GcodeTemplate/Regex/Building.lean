/-!
# Building machines

A regular expression may be short and still stand for a huge machine, because
counts are written in decimal and a repetition has a copy of its body for each
time.  A machine is built state by state, and the building fails as soon as it
becomes larger than a limit.  Only the number of the states and their size in
bytes are followed here.
-/

namespace GcodeTemplate.Regex

/-- What has been built of a machine. -/
structure Machine where
  /-- The number of states. -/
  states : Nat := 0
  /-- The bytes that they take. -/
  size : Nat := 0
deriving DecidableEq, Repr

namespace Machine

/-- The greatest size of a machine. -/
def sizeLimit : Nat :=
  10 <<< 20

/-- The bytes that every state takes. -/
def stateSize : Nat :=
  32

end Machine

/-- Builds a part of a machine, or fails because the machine becomes too large. -/
abbrev Building : Type → Type :=
  StateT Machine Option

namespace Building

/-- Add a state that takes some bytes more than every state does, and give its number. -/
def add (extra : Nat) : Building Nat :=
  fun machine =>
    let size := machine.size + Machine.stateSize + extra
    if size ≤ Machine.sizeLimit then
      some (machine.states, { states := machine.states + 1, size })
    else
      none

/-- No machine becomes larger than the limit. -/
theorem size_le_of_add {extra number : Nat} {before after : Machine}
    (added : add extra before = some (number, after)) :
    after.size ≤ Machine.sizeLimit := by
  simp only [add] at added
  split at added
  · next fits =>
      cases added
      exact fits
  · contradiction

/-- Add a state that leads to a single other one. -/
def plain : Building Unit :=
  discard (add 0)

/-- Add a state that goes on in several ways without reading anything. -/
def fork (ways : Nat) : Building Unit :=
  discard (add (4 * ways))

/-- Add a state that goes on according to the range that the next byte lies in. -/
def switch (ranges : Nat) : Building Unit :=
  discard (add (8 * ranges))

/-- Build something a number of times. -/
def copies (build : Building Unit) : Nat → Building Unit
  | 0, machine => some ((), machine)
  | count + 1, machine =>
      match build machine with
      | none => none
      | some (_, next) => copies build count next

@[simp]
theorem copies_zero (build : Building Unit) (machine : Machine) :
    copies build 0 machine = some ((), machine) :=
  rfl

/-- The copies are built one after the other. -/
theorem copies_succ (build : Building Unit) (count : Nat) :
    copies build (count + 1) = build >>= fun _ => copies build count := by
  funext machine
  simp only [copies, bind, StateT.bind]
  cases build machine <;> rfl

/--
The states of a repetition.  What is needed is copied; what is possible behind
that is either copied too, with a fork in front of each copy, or reached by a way
back.
-/
def repetition
    (least : Nat)
    (most : Option Nat)
    (takesInput : Bool)
    (body : Building Unit) :
    Building Unit := do
  match least, most with
  | 0, none =>
      if takesInput then
        fork 2
        body
      else
        body
        fork 2
        fork 2
        plain
  | least, none =>
      copies body least
      fork 2
  | 0, some 1 =>
      fork 2
      body
      plain
  | least, some most =>
      if least = 0 then
        plain
      copies body least
      if least < most then
        plain
        copies (do fork 2; body) (most - least)

end Building

end GcodeTemplate.Regex
