import GcodeTemplate.CharSet

/-!
# Regular expressions

A regular expression matches between two positions of a text.  Conditions look
at the characters beside a position, so what matches depends on the whole text
and not only on what stands between the positions.

The engine that templates rely on is the `regex` library, which is not a part of
this development.  The modules on regular expressions follow what it documents:
the syntax that it reads with its flags, classes and limits, in
`GcodeTemplate.Regex.Grammar` and `GcodeTemplate.Regex.Meaning`; a search that is
not anchored, for any match anywhere, in `GcodeTemplate.Regex.Search`; and the
limit on the size of what it compiles, in `GcodeTemplate.Regex.Machine`.  What
groups capture and which of several matches is preferred are left out, because a
pattern only tells whether there is a match.
-/

namespace GcodeTemplate

namespace Regex

/-- The conditions on the two neighbours of a position. -/
inductive Look where
  | textStart
  | textEnd
  /-- The start of a line that ends in a line feed. -/
  | lineStart
  | lineEnd
  /-- The start of a line that ends in a return, a line feed or both. -/
  | anyLineStart
  | anyLineEnd
  /-- Exactly one of the neighbours belongs to a word. -/
  | wordBoundary
  | notWordBoundary
  | wordStart
  | wordEnd
  /-- The neighbour in front does not belong to a word. -/
  | wordStartHalf
  | wordEndHalf
deriving DecidableEq, Repr

/-- Whether a neighbour is there and belongs to a set. -/
def inSet (set : CharSet) (neighbour : Option Char) : Bool :=
  neighbour.any set.contains

/--
Whether a condition holds between two neighbours, either of which is missing at
an end of the text.  The characters of words are given.
-/
def Look.holds (look : Look) (word : CharSet) (before after : Option Char) : Bool :=
  match look with
  | textStart => before.isNone
  | textEnd => after.isNone
  | lineStart => before.isNone || before == some '\n'
  | lineEnd => after.isNone || after == some '\n'
  | anyLineStart =>
      before.isNone || before == some '\n' ||
        before == some '\r' && after != some '\n'
  | anyLineEnd =>
      after.isNone || after == some '\r' ||
        after == some '\n' && before != some '\r'
  | wordBoundary => inSet word before != inSet word after
  | notWordBoundary => inSet word before == inSet word after
  | wordStart => ! inSet word before && inSet word after
  | wordEnd => inSet word before && ! inSet word after
  | wordStartHalf => ! inSet word before
  | wordEndHalf => ! inSet word after

end Regex

/-- A regular expression. -/
inductive Regex where
  /-- Matches between a position and itself. -/
  | empty
  /-- Matches one character of a set. -/
  | set (chars : CharSet)
  /-- Matches at a position where a condition holds. -/
  | look (look : Regex.Look) (word : CharSet)
  | sequence (first second : Regex)
  | choice (left right : Regex)
  /-- Matches a number of times in a row; a greedy one prefers to match more often. -/
  | repeated (greedy : Bool) (least : Nat) (most : Option Nat) (body : Regex)
  /-- Matches what the body does; its place is remembered if it is captured. -/
  | group (captured : Bool) (body : Regex)

namespace Regex

/-- The character in front of a position of a text. -/
def charBefore? (text : Array Char) (position : Nat) : Option Char :=
  if position = 0 then none else text[position - 1]?

/-- Whether a relation leads from one position to another in a number of steps. -/
inductive Steps (step : Nat → Nat → Prop) : Nat → Nat → Nat → Prop where
  | none (start : Nat) : Steps step 0 start start
  | more
      {count start between stop : Nat}
      (first : step start between)
      (rest : Steps step count between stop) :
      Steps step (count + 1) start stop

/-- What a regular expression matches in a text, from one position to another. -/
def Matches (text : Array Char) : Regex → Nat → Nat → Prop
  | empty, start, stop => start = stop
  | set chars, start, stop =>
      stop = start + 1 ∧ ∃ c, text[start]? = some c ∧ chars.contains c = true
  | look condition word, start, stop =>
      start = stop ∧ condition.holds word (charBefore? text start) text[start]? = true
  | sequence first second, start, stop =>
      ∃ between, first.Matches text start between ∧ second.Matches text between stop
  | choice left right, start, stop =>
      left.Matches text start stop ∨ right.Matches text start stop
  | repeated _ least most body, start, stop =>
      ∃ count, least ≤ count ∧ (∀ bound ∈ most, count ≤ bound) ∧
        Steps (body.Matches text) count start stop
  | group _ body, start, stop => body.Matches text start stop

end Regex

end GcodeTemplate
