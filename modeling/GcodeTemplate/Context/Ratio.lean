import GcodeTemplate.Context

/-!
# Amounts that depend on other settings

A percentage is taken of its parent setting, which may be a percentage itself.
The chain of parents is followed for a bounded number of steps, so a cycle does
not resolve.  Extrusion widths are derived as a whole instead.
-/

namespace GcodeTemplate

/-- How many parents a chain of percentages may have. -/
def maximalRatioSteps : Nat :=
  32

/-- Whether a key names the width of an extrusion. -/
def isWidthKey (key : String) : Bool :=
  "line_width".toList.isSuffixOf key.toList

namespace Layers

/-- The derived width of the extrusion that a key names. -/
def width? (layers : Layers) (extruder : Nat) (key : String) : Option Float :=
  layers.definitions.extrusionWidth key layers.get? extruder

/--
The product of `ratio` and the amounts along the chain of parents of a key.  A
parent that is neither a float nor an amount is passed over.
-/
def followRatio
    (layers : Layers)
    (extruder : Nat) :
    (steps : Nat) → (key : String) → (ratio : Float) → Option Float
  | 0, _, _ => none
  | steps + 1, key, ratio => do
      let parentKey ← layers.definitions.ratioOver key
      let parent ← layers.get? parentKey
      if isWidthKey parentKey then
        let width ← layers.width? extruder parentKey
        pure (ratio * width)
      else
        match parent with
        | .float (some x) => pure (ratio * x)
        | .amount (some amount) =>
            if amount.percent then
              followRatio layers extruder steps parentKey
                (ratio * amount.value * 0.01)
            else
              pure (ratio * amount.value)
        | _ => followRatio layers extruder steps parentKey ratio

/-- The absolute number that the amount under a key stands for. -/
def resolve?
    (layers : Layers)
    (extruder : Nat)
    (key : String)
    (amount : Amount) :
    Option Float :=
  if isWidthKey key then
    layers.width? extruder key
  else if amount.percent then
    layers.followRatio extruder maximalRatioSteps key (amount.value * 0.01)
  else
    some amount.value

end Layers

end GcodeTemplate
