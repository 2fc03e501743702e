/-!
# Sources of random numbers

A source is an algorithm with the state that it is in.  Evaluations take the algorithm
as they find it: they ask it for a number between two bounds, and keep the state that it
goes to.  A caller without an algorithm of its own has the one of `splitMix`.
-/

namespace GcodeTemplate

/-- How numbers are drawn, each with the state that comes after the draw. -/
structure RandomAlgorithm where
  /-- A whole number from one bound to another, both included. -/
  drawInt (state : Nat) (low high : Int64) : Int64 × Nat
  /-- A double from one bound up to, but not including, another. -/
  drawFloat (state : Nat) (low high : Float) : Float × Nat

namespace RandomAlgorithm

/-- A word, and the state after drawing it. -/
def splitMixWord (state : Nat) : UInt64 × Nat :=
  let state := UInt64.ofNat state + 0x9E3779B97F4A7C15
  let mixed := (state ^^^ (state >>> 30)) * 0xBF58476D1CE4E5B9
  let mixed := (mixed ^^^ (mixed >>> 27)) * 0x94D049BB133111EB
  (mixed ^^^ (mixed >>> 31), state.toNat)

/-- The algorithm whose state is one word. -/
def splitMix : RandomAlgorithm where
  drawInt state low high :=
    let (word, after) := splitMixWord state
    let count := high.toInt - low.toInt + 1
    (.ofInt (low.toInt + word.toNat % count), after)
  drawFloat state low high :=
    let (word, after) := splitMixWord state
    let share := Float.ofScientific (word >>> 11).toNat false 0 / 9007199254740992.0
    let drawn := low + (high - low) * share
    (if drawn < high then drawn else low, after)

end RandomAlgorithm

/-- An algorithm for random numbers, and the state that it is in. -/
structure RandomSource where
  algorithm : RandomAlgorithm
  state : Nat

namespace RandomSource

/-- The source that a seed gives to a caller without an algorithm of its own. -/
def ofSeed (seed : Nat) : RandomSource :=
  ⟨.splitMix, seed⟩

/-- A whole number from `low` to `high`, both included. -/
def drawInt (source : RandomSource) (low high : Int64) : Int64 × RandomSource :=
  let (n, state) := source.algorithm.drawInt source.state low high
  (n, { source with state })

/-- A double from `low` up to, but not including, `high`. -/
def drawFloat (source : RandomSource) (low high : Float) : Float × RandomSource :=
  let (x, state) := source.algorithm.drawFloat source.state low high
  (x, { source with state })

end RandomSource

end GcodeTemplate
