import GcodeTemplate.Definitions
import GcodeTemplate.Diagnostic
import GcodeTemplate.Dictionary
import GcodeTemplate.Random

/-!
# The context of an evaluation

Names are looked up in layers.  Three of them are read-only for the whole
evaluation: the overrides of the caller, the process layer and the external
layer.  Three can be written: the outputs of the caller, the global variables
of a series of evaluations, and the local variables of this one.  The first
layer with a name wins.
-/

namespace GcodeTemplate

/-- The layer that a name was found in. -/
inductive Scope where
  | override
  | process
  | external
  | output
  | globalVariable
  | localVariable
deriving DecidableEq, Repr

/-- Whether templates may write to a layer. -/
def Scope.isWritable : Scope → Bool
  | output | globalVariable | localVariable => true
  | _ => false

/-- What stays as it is during an evaluation. -/
structure Layers where
  overrides : Option Dictionary := none
  process : Dictionary
  external : Option Dictionary := none
  definitions : Definitions := .empty
  explain : Explainer := .silent

/-- What a caller shares among a series of evaluations. -/
structure Shared where
  /-- Where random numbers come from. -/
  random : Option RandomSource
  /-- The global variables. -/
  globals : Option Dictionary

namespace Shared

/-- A generator with a given seed, and no global variables yet. -/
def ofSeed (seed : Nat) : Shared :=
  ⟨some (.ofSeed seed), some ∅⟩

/-- The global variable of a name. -/
def global? (shared : Shared) (name : String) : Option Setting :=
  shared.globals.bind (·.get? name)

end Shared

/-- What an evaluation may change. -/
structure State where
  outputs : Option Dictionary := none
  shared : Option Shared := none
  locals : Dictionary := ∅
  /-- The extruder whose element a vector without an index stands for. -/
  extruder : Nat := 0
  /-- In how many blocks that are not taken the evaluation is. -/
  suppressed : Nat := 0

namespace Layers

/-- The first read-only layer with a name, and what it has there. -/
def find? (layers : Layers) (name : String) : Option (Setting × Scope) :=
  let overridden := (layers.overrides.bind (·.get? name)).map (·, Scope.override)
  let processed := (layers.process.get? name).map (·, Scope.process)
  let external := (layers.external.bind (·.get? name)).map (·, Scope.external)
  overridden <|> processed <|> external

/-- The setting of a name in the read-only layers. -/
def get? (layers : Layers) (name : String) : Option Setting :=
  (layers.find? name).map (·.1)

end Layers

namespace State

/-- Whether the evaluation is in a block that is not taken. -/
def isSkipping (state : State) : Bool :=
  state.suppressed != 0

/-- The dictionary of global variables, if there is one. -/
def globals? (state : State) : Option Dictionary :=
  state.shared.bind (·.globals)

/-- The generator of random numbers, if there is one. -/
def random? (state : State) : Option RandomSource :=
  state.shared.bind (·.random)

/-- The first layer that can be written with a name, and what it has there. -/
def find? (state : State) (name : String) : Option (Setting × Scope) :=
  let output := (state.outputs.bind (·.get? name)).map (·, Scope.output)
  let globally := (state.globals?.bind (·.get? name)).map (·, Scope.globalVariable)
  let locally := (state.locals.get? name).map (·, Scope.localVariable)
  output <|> globally <|> locally

/-- Put a setting into a layer that can be written and is there. -/
def store
    (state : State)
    (scope : Scope)
    (name : String)
    (setting : Setting) :
    State :=
  match scope with
  | .output =>
      { state with outputs := state.outputs.map (·.insert name setting) }
  | .globalVariable =>
      let insert (shared : Shared) : Shared :=
        { shared with globals := shared.globals.map (·.insert name setting) }
      { state with shared := state.shared.map insert }
  | .localVariable =>
      { state with locals := state.locals.insert name setting }
  | _ => state

/-- Put another generator in place of the one that is there. -/
def withRandom (state : State) (random : RandomSource) : State :=
  { state with
    shared := state.shared.map fun shared => { shared with random := some random } }

end State

/-- What a name stands for, in the read-only layers or else in the others. -/
def lookUp (layers : Layers) (state : State) (name : String) : Option (Setting × Scope) :=
  layers.find? name <|> state.find? name

/-- The setting of a name in one layer. -/
def settingIn
    (layers : Layers)
    (state : State)
    (scope : Scope)
    (name : String) :
    Option Setting :=
  match scope with
  | .override => layers.overrides.bind (·.get? name)
  | .process => layers.process.get? name
  | .external => layers.external.bind (·.get? name)
  | .output => state.outputs.bind (·.get? name)
  | .globalVariable => state.globals?.bind (·.get? name)
  | .localVariable => state.locals.get? name

end GcodeTemplate
