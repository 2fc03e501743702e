import GcodeTemplate.Context.Ratio
import GcodeTemplate.Value

/-!
# Bindings

A binding is a variable whose layer is known and whose index, if any, has been
evaluated.  Reading a vector is lenient: an index beyond its end reads the
first element, and no index reads the element of the current extruder.
-/

namespace GcodeTemplate

/-- A variable with a known layer.  Only vectors have an index. -/
structure Binding where
  key : String
  scope : Scope
  index : Option Nat
  span : Span
deriving DecidableEq, Repr

namespace Binding

/-- The setting that a binding refers to. -/
def setting
    (binding : Binding)
    (layers : Layers)
    (state : State) :
    Except Fault Setting :=
  match settingIn layers state binding.scope binding.key with
  | some setting => .ok setting
  | none => .error ⟨.unknownVariable, binding.span⟩

/-- The index of a vector that is read for an index that is in it, or else the first. -/
def clamp (index size : Nat) : Nat :=
  if index < size then index else 0

/-- The index of the element that is read from a vector of a given size. -/
def readIndex (index : Option Nat) (extruder size : Nat) : Nat :=
  match index with
  | some index => clamp index size
  | none => if size = 1 then 0 else clamp extruder size

/-- A value that is there, or else the fault of a nil one. -/
def notNil {α : Type} (span : Span) (cause : Cause) (value : Option α) : Except Fault α :=
  match value with
  | some a => .ok a
  | none => .error ⟨cause, span⟩

/-- The number that an amount under the key of a binding stands for. -/
def amountValue
    (binding : Binding)
    (layers : Layers)
    (extruder : Nat)
    (amount : Amount) :
    Except Fault Value :=
  match layers.resolve? extruder binding.key amount with
  | some x => .ok (.double x)
  | none => .error ⟨.unresolvedRatio, binding.span⟩

/-- The value of a scalar; nothing of a vector is a scalar. -/
def readScalar
    (binding : Binding)
    (layers : Layers)
    (extruder : Nat) :
    Setting → Except Fault Value
  | .float x | .percent x => .double <$> notNil binding.span .nilScalar x
  | .int n => .int <$> notNil binding.span .nilScalar n
  | .bool b => .bool <$> notNil binding.span .nilScalar b
  | .amount amount => do
      let amount ← notNil binding.span .nilScalar amount
      binding.amountValue layers extruder amount
  | .string s => .ok (.string s)
  | setting => .ok (.string setting.serialize)

/-- The text that a point of a vector is read as. -/
def pointText (x y : Float) : String :=
  .ofList ('[' :: Number.shortestText x ++ ',' :: ' ' :: Number.shortestText y ++ [']'])

/-- The element of a list that is read; there is none in an empty list. -/
def element
    {α : Type}
    (binding : Binding)
    (extruder : Nat)
    (elements : List α) :
    Except Fault α :=
  match elements[readIndex binding.index extruder elements.length]? with
  | some a => .ok a
  | none => .error ⟨.emptyVector, binding.span⟩

/-- The element of a list of values that may be nil. -/
def presentElement
    {α : Type}
    (binding : Binding)
    (extruder : Nat)
    (elements : List (Option α)) :
    Except Fault α := do
  let value ← binding.element extruder elements
  notNil binding.span .nilElement value

/-- The value of a setting; of a vector, that of one element. -/
def readSetting
    (binding : Binding)
    (layers : Layers)
    (extruder : Nat) :
    Setting → Except Fault Value
  | .floats xs | .percents xs => .double <$> binding.presentElement extruder xs
  | .ints ns => .int <$> binding.presentElement extruder ns
  | .bools bs => .bool <$> binding.presentElement extruder bs
  | .strings texts => .string <$> binding.element extruder texts
  | .choices ordinals => .int <$> binding.element extruder ordinals
  | .points points => do
      let (x, y) ← binding.element extruder points
      pure (.string (pointText x y))
  | .amounts amounts => do
      let amount ← binding.presentElement extruder amounts
      binding.amountValue layers extruder amount
  | scalar => binding.readScalar layers extruder scalar

/-- The value that a binding has. -/
def read
    (binding : Binding)
    (layers : Layers)
    (state : State) :
    Except Fault Value := do
  let setting ← binding.setting layers state
  binding.readSetting layers state.extruder setting

/-- Whether a binding stands for a whole vector. -/
def isWholeVector
    (binding : Binding)
    (layers : Layers)
    (state : State) :
    Except Fault Bool :=
  match binding.index with
  | some _ => .ok false
  | none => (·.isVector) <$> binding.setting layers state

end Binding

end GcodeTemplate
