import GcodeTemplate.Binding

/-!
# Functions on variables

Functions that look at the setting of a variable instead of its value.
-/

namespace GcodeTemplate

namespace Binding

/-- Whether a scalar, or the element of a vector that an index reads, is nil. -/
def isNil (binding : Binding) (layers : Layers) (state : State) : Except Fault Bool := do
  let setting ← binding.setting layers state
  if ! setting.isVector then
    pure setting.isNil
  else
    match binding.index with
    | none => .error ⟨.vectorWhereScalarExpected, binding.span⟩
    | some index =>
        if setting.size = 0 then
          .error ⟨.emptyVector, binding.span⟩
        else
          pure (setting.isNilAt (clamp index setting.size))

/-- The size of a vector; anything with an index is no vector. -/
def vectorSize
    (binding : Binding)
    (hasIndex : Bool)
    (cause : Cause)
    (layers : Layers)
    (state : State) :
    Except Fault Nat := do
  let setting ← binding.setting layers state
  if hasIndex || ! setting.isVector then
    .error ⟨cause, binding.span⟩
  else
    pure setting.size

end Binding

end GcodeTemplate
