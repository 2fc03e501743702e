import GcodeTemplate.Regex

/-!
# Searching for a match

The search follows all positions at once that a match can have reached, as
increasing lists.  What a position leads to is looked up once only: a repetition
goes on from a position when it is reached for the first time, and ends when
there is no such position any more.

A match may begin and end anywhere: as the `regex` library documents it, a search
is anchored only where the regular expression itself is.
-/

namespace GcodeTemplate.Regex

/-- The positions of two increasing lists, in increasing order. -/
def merge : List Nat → List Nat → List Nat
  | [], right => right
  | left, [] => left
  | m :: left, n :: right =>
      if m < n then
        m :: merge left (n :: right)
      else if n < m then
        n :: merge (m :: left) right
      else
        m :: merge left right
termination_by left right => left.length + right.length

/-- The positions of an increasing list that another one lacks. -/
def without : List Nat → List Nat → List Nat
  | [], _ => []
  | left, [] => left
  | m :: left, n :: right =>
      if m < n then
        m :: without left (n :: right)
      else if n < m then
        without (m :: left) right
      else
        without left right
termination_by left right => left.length + right.length

/-- Repeat a step a number of times, or until it changes nothing any more. -/
def settle (step : List Nat → List Nat) : Nat → List Nat → List Nat
  | 0, positions => positions
  | count + 1, positions =>
      let next := step positions
      if next = positions then positions else settle step count next

/--
The positions that are reached by up to a number of steps.  Given are those to
go on from, those from which a step has been taken, and those reached so far.
-/
def spread
    (step : List Nat → List Nat) :
    (rounds : Nat) → (frontier done reached : List Nat) → List Nat
  | 0, _, _, reached => reached
  | rounds + 1, frontier, done, reached =>
      let found := step frontier
      let done := merge done frontier
      let reached := merge reached found
      let fresh := without found done
      if fresh.isEmpty then reached else spread step rounds fresh done reached

/-- The positions after a step was repeated as often as allowed. -/
def repeatStep
    (step : List Nat → List Nat)
    (unlimited least : Nat)
    (most : Option Nat)
    (starts : List Nat) :
    List Nat :=
  match least with
  | 0 => spread step (most.getD unlimited) starts [] starts
  | least + 1 =>
      let rounds := (most.map (· - least)).getD unlimited
      spread step rounds (settle step least starts) [] []

/-- The positions where a match can end that starts at one of some positions. -/
def ends (text : Array Char) : Regex → List Nat → List Nat
  | empty, starts => starts
  | set chars, starts =>
      (starts.filter fun start => text[start]?.any chars.contains).map (· + 1)
  | look condition word, starts =>
      starts.filter fun start =>
        condition.holds word (charBefore? text start) text[start]?
  | sequence first second, starts => second.ends text (first.ends text starts)
  | choice left right, starts => merge (left.ends text starts) (right.ends text starts)
  | repeated _ least most body, starts =>
      repeatStep (body.ends text) (text.size + 1) least most starts
  | group _ body, starts => body.ends text starts

/-- Whether a regular expression matches anywhere in a text. -/
def isFoundIn (regex : Regex) (text : String) : Bool :=
  let chars := text.toList.toArray
  ! (regex.ends chars (List.range (chars.size + 1))).isEmpty

end GcodeTemplate.Regex
