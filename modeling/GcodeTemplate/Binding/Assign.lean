import GcodeTemplate.Binding

/-!
# Assignments

An assignment replaces the setting of a binding by one of the same kind.
Writing an element is strict: the index has to be in the vector.  An assignment
that fails changes nothing, because the new setting is made before it is put
into its layer.
-/

namespace GcodeTemplate

/-- A value and the span of the expression that it comes from. -/
structure Sourced where
  value : Value
  span : Span

namespace Sourced

/-- A value that has to be a number. -/
def number (cause : Cause) (source : Sourced) : Except Fault Value :=
  if source.value.isNumeric then
    .ok source.value
  else
    .error ⟨cause, source.span⟩

/-- A value that has to be an integer. -/
def whole (cause : Cause) (source : Sourced) : Except Fault Int64 :=
  match source.value with
  | .int n => .ok n
  | _ => .error ⟨cause, source.span⟩

/-- A value that has to be a string. -/
def string (cause : Cause) (source : Sourced) : Except Fault String :=
  match source.value with
  | .string s => .ok s
  | _ => .error ⟨cause, source.span⟩

/-- A value that has to be a boolean. -/
def truth (cause : Cause) (source : Sourced) : Except Fault Bool :=
  match source.value with
  | .bool b => .ok b
  | _ => .error ⟨cause, source.span⟩

/-- A value to assign as a double. -/
def toFloat (source : Sourced) : Except Fault Float :=
  (·.toFloat) <$> number .notNumeric source

/-- A value to assign as an integer, without its fraction. -/
def toInt (source : Sourced) : Except Fault Int64 :=
  (·.truncated) <$> number .notNumeric source

/-- A value to assign as a boolean. -/
def toBool (source : Sourced) : Except Fault Bool :=
  truth .notBoolean source

end Sourced

namespace Setting

/-- A scalar with another value. -/
def withScalar
    (setting : Setting)
    (span : Span)
    (source : Sourced) :
    Except Fault Setting :=
  match setting with
  | float _ => (float ∘ some) <$> source.toFloat
  | percent _ => (percent ∘ some) <$> source.toFloat
  | int _ => (int ∘ some) <$> source.toInt
  | bool _ => (bool ∘ some) <$> source.toBool
  | string _ => .ok (string source.value.text)
  | _ => .error ⟨.unsupportedScalarTarget, span⟩

/-- A vector with another value in one place, which has to be in the vector. -/
def withElement
    (setting : Setting)
    (index : Option Nat)
    (span : Span)
    (source : Sourced) :
    Except Fault Setting :=
  match index with
  | none => .error ⟨.vectorTargetWithoutIndex, span⟩
  | some index =>
      if setting.size = 0 then
        .error ⟨.emptyVector, span⟩
      else if setting.size ≤ index then
        .error ⟨.indexOutOfRange, span⟩
      else
        match setting with
        | floats xs => (fun x => floats (xs.set index (some x))) <$> source.toFloat
        | percents xs => (fun x => percents (xs.set index (some x))) <$> source.toFloat
        | ints ns => (fun n => ints (ns.set index (some n))) <$> source.toInt
        | bools bs => (fun b => bools (bs.set index (some b))) <$> source.toBool
        | strings texts => .ok (strings (texts.set index source.value.text))
        | _ => .error ⟨.unsupportedVectorTarget, span⟩

/-- A vector with other elements, one for each item. -/
def withItems
    (setting : Setting)
    (span : Span)
    (items : List Sourced) :
    Except Fault Setting :=
  match setting with
  | floats _ => floats <$> items.mapM fun item => some <$> item.toFloat
  | percents _ => percents <$> items.mapM fun item => some <$> item.toFloat
  | ints _ => ints <$> items.mapM fun item => some <$> item.toInt
  | bools _ => bools <$> items.mapM fun item => some <$> item.toBool
  | strings _ => .ok (strings (items.map (·.value.text)))
  | _ => .error ⟨.unsupportedVectorTarget, span⟩

end Setting

/-- The bytes of a string in a vector. -/
def stringBytes : Nat :=
  24

/--
The bytes of a number in a vector, with the mark that tells it from a nil.  Booleans
count as numbers: too many of them would have addresses, but fit into no memory.
-/
def numberBytes : Nat :=
  16

/-- The least number of elements of some bytes each that go beyond the range of addresses. -/
def elementLimit (bytes : Nat) : Nat :=
  (1 <<< 63 - 1) / bytes + 1

/-- How many equal elements are asked for, and where that is said. -/
structure Count where
  number : Nat
  span : Span

namespace Count

/-- The count that a value stands for. -/
def ofValue (source : Sourced) : Except Fault Count :=
  match source.value with
  | .int n =>
      if n < 0 then
        .error ⟨.negativeCount, source.span⟩
      else
        .ok ⟨n.toInt.toNat, source.span⟩
  | _ => .error ⟨.countNotWhole, source.span⟩

/-- That many copies of an element, which takes some bytes. -/
def copies {α : Type} (count : Count) (bytes : Nat) (element : α) : Except Fault (List α) :=
  if elementLimit bytes ≤ count.number then
    .error ⟨.countTooLarge, count.span⟩
  else
    .ok (List.replicate count.number element)

end Count

/-- A vector with equal elements. -/
def Setting.withCopies
    (setting : Setting)
    (span : Span)
    (count : Count)
    (source : Sourced) :
    Except Fault Setting :=
  match setting with
  | .floats _ => do .floats <$> count.copies numberBytes (some (← source.toFloat))
  | .percents _ => do .percents <$> count.copies numberBytes (some (← source.toFloat))
  | .ints _ => do .ints <$> count.copies numberBytes (some (← source.toInt))
  | .bools _ => do .bools <$> count.copies numberBytes (some (← source.toBool))
  | .strings _ => .strings <$> count.copies stringBytes source.value.text
  | _ => .error ⟨.unsupportedVectorTarget, span⟩

namespace Binding

/-- The setting of a binding that may be written. -/
def target
    (binding : Binding)
    (layers : Layers)
    (state : State) :
    Except Fault Setting :=
  if binding.scope.isWritable then
    binding.setting layers state
  else
    .error ⟨.readOnlyVariable, binding.span⟩

/-- Replace the setting of a binding by what is made of it. -/
def update
    (binding : Binding)
    (layers : Layers)
    (state : State)
    (change : Setting → Except Fault Setting) :
    Except Fault State := do
  let setting ← binding.target layers state
  let changed ← change setting
  pure (state.store binding.scope binding.key changed)

/-- A scalar with another value, or a vector with another value in one place. -/
def changedByScalar
    (binding : Binding)
    (source : Sourced)
    (setting : Setting) :
    Except Fault Setting :=
  if setting.isVector then
    setting.withElement binding.index binding.span source
  else
    setting.withScalar binding.span source

/-- Assign a scalar. -/
def assignScalar
    (binding : Binding)
    (source : Sourced)
    (layers : Layers)
    (state : State) :
    Except Fault State :=
  binding.update layers state (binding.changedByScalar source)

/-- Assign a list; a scalar or an element takes a list of one item. -/
def assignList
    (binding : Binding)
    (items : List Sourced)
    (layers : Layers)
    (state : State) :
    Except Fault State :=
  binding.update layers state fun setting =>
    if ! setting.isVector || binding.index.isSome then
      match items with
      | [item] => binding.changedByScalar item setting
      | _ => .error ⟨.vectorForScalar, binding.span⟩
    else
      setting.withItems binding.span items

/-- Assign a number of equal elements to a vector, also if it has an index. -/
def assignCopies
    (binding : Binding)
    (count value : Sourced)
    (layers : Layers)
    (state : State) :
    Except Fault State :=
  binding.update layers state fun setting =>
    if setting.isVector then do
      let count ← Count.ofValue count
      setting.withCopies binding.span count value
    else
      .error ⟨.vectorForScalar, value.span⟩

/-- Assign a whole vector without nils of the same kind. -/
def assignVector
    (binding : Binding)
    (source : Binding)
    (layers : Layers)
    (state : State) :
    Except Fault State := do
  let copied ← source.setting layers state
  if source.index.isSome || ! copied.isVector then
    .error ⟨.scalarForWholeVector, binding.span⟩
  else if copied.hasNil then
    .error ⟨.nilInSource, source.span⟩
  else
    binding.update layers state fun setting =>
      if setting.kind = copied.kind then
        .ok copied
      else
        let cause :=
          if setting.isVector then
            .incompatibleVectors setting.kind.element
          else
            .incompatibleVectors .point
        .error ⟨cause, binding.span⟩

end Binding

end GcodeTemplate
