import GcodeTemplate.Binding.Assign

/-!
# Variables of a template

A declaration makes a variable of a name that stands for nothing yet.  Local
variables live as long as the evaluation, global ones as long as what the
caller shares among evaluations.  A new variable holds booleans, integers,
doubles or strings, and nothing of it is nil.
-/

namespace GcodeTemplate

namespace Setting

/-- The setting of a new scalar. -/
def ofValue (source : Sourced) : Except Fault Setting :=
  match source.value with
  | .bool b => .ok (bool (some b))
  | .int n => .ok (int (some n))
  | .double x => .ok (float (some x))
  | .string s => .ok (string s)
  | .empty => .error ⟨.emptyInitialValue, source.span⟩

/--
The vector without elements of the kind that can hold all of some values: one
string makes it a vector of strings, and one double makes numbers a vector of
floats.  Booleans and numbers do not mix.
-/
def vectorFor? (values : List Value) : Option Setting :=
  if values.any (·.isString) then
    some (strings [])
  else if values.any (·.isBool) then
    if values.any (·.isNumeric) then none else some (bools [])
  else if values.any (·.isDouble) then
    some (floats [])
  else
    some (ints [])

/-- The setting of a new vector with an element for each item. -/
def ofItems (span : Span) (items : List Sourced) : Except Fault Setting :=
  match items with
  | [] => .error ⟨.emptyInitializer, span⟩
  | first :: rest =>
      match vectorFor? (items.map (·.value)) with
      | some vector => vector.withItems span items
      | none =>
          let last := rest.getLast?.getD first
          .error ⟨.mixedInitializer, first.span.cover last.span⟩

/-- The setting of a new vector with equal elements. -/
def ofCopies (count : Count) (source : Sourced) : Except Fault Setting :=
  match source.value with
  | .bool b => bools <$> count.copies numberBytes (some b)
  | .int n => ints <$> count.copies numberBytes (some n)
  | .double x => floats <$> count.copies numberBytes (some x)
  | .string s => strings <$> count.copies stringBytes s
  | .empty => .error ⟨.emptyInitialValue, source.span⟩

/-- The setting of a new vector with the elements of another one. -/
def ofVector (span : Span) (source : Setting) : Except Fault Setting :=
  if source.hasNil then
    .error ⟨.nilInSource, span⟩
  else
    match source with
    | floats xs | percents xs => .ok (floats xs)
    | ints ns => .ok (ints ns)
    | strings texts => .ok (strings texts)
    | bools bs => .ok (bools bs)
    | _ => .error ⟨.unsupportedCopy, span⟩

end Setting

/-- The layer of the variables that outlive an evaluation, or of those that do not. -/
def Scope.ofVariable (isGlobal : Bool) : Scope :=
  if isGlobal then .globalVariable else .localVariable

namespace State

/-- Why a name may not be declared as a variable. -/
def obstacle?
    (state : State)
    (layers : Layers)
    (isGlobal : Bool)
    (name : String) :
    Option Cause :=
  if (layers.find? name).isSome then
    some .definedReadOnly
  else if state.outputs.any (·.contains name) then
    some .definedAsOutput
  else if isGlobal then
    if state.globals?.isNone then
      some .globalsUnavailable
    else if state.locals.contains name then
      some .definedAsLocal
    else
      none
  else if state.globals?.any (·.contains name) then
    some .definedAsGlobal
  else
    none

/--
The variable that a declaration of a name assigns to, if there is one already;
otherwise a new one may be made.
-/
def declared?
    (isGlobal : Bool)
    (name : String)
    (span : Span)
    (layers : Layers)
    (state : State) :
    Except Fault (Option Binding) :=
  let scope := Scope.ofVariable isGlobal
  match state.obstacle? layers isGlobal name with
  | some cause => .error ⟨cause, span⟩
  | none =>
      if (settingIn layers state scope name).isSome then
        .ok (some ⟨name, scope, none, span⟩)
      else
        .ok none

/-- Make a new variable. -/
def storeVariable
    (state : State)
    (isGlobal : Bool)
    (name : String)
    (setting : Setting) :
    State :=
  state.store (Scope.ofVariable isGlobal) name setting

end State

end GcodeTemplate
