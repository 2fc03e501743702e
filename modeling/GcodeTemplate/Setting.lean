import GcodeTemplate.Number.Shortest

/-!
# Settings

A setting is one named value of the surrounding print, printer or filament
configuration.  It is a scalar or a vector with one element per extruder.
Numbers and truth values may be unset; an unset value is called nil.
-/

namespace GcodeTemplate

/-- A number that is meant absolutely or as a percentage of another setting. -/
structure Amount where
  value : Float
  percent : Bool
deriving BEq

/-- What the elements of a setting are. -/
inductive Element where
  | float
  | int
  | string
  | percent
  | amount
  | bool
  | choice
  | point
deriving DecidableEq, Repr

/-- The name of an element kind as it is shown to users. -/
def Element.name : Element → String
  | .float => "float"
  | .int => "int"
  | .string => "string"
  | .percent => "percent"
  | .amount => "float or percent"
  | .bool => "bool"
  | .choice => "enum"
  | .point => "point"

/--
A setting.  A scalar choice has its name beside its ordinal; a vector of
choices keeps the ordinals only.  Comparison with `==` compares numbers as
numbers, so an undefined number makes a setting unequal to itself.
-/
inductive Setting where
  | float (value : Option Float)
  | int (value : Option Int64)
  | string (value : String)
  | percent (value : Option Float)
  | amount (value : Option Amount)
  | bool (value : Option Bool)
  | choice (name : String) (ordinal : Int64)
  | point (x y : Float)
  | floats (values : List (Option Float))
  | ints (values : List (Option Int64))
  | strings (values : List String)
  | percents (values : List (Option Float))
  | amounts (values : List (Option Amount))
  | bools (values : List (Option Bool))
  | choices (ordinals : List Int64)
  | points (values : List (Float × Float))
deriving BEq

namespace Setting

/-- What kind of elements a setting has, and whether it is a vector of them. -/
structure Kind where
  element : Element
  isVector : Bool
deriving DecidableEq, Repr

/-- The kind of a setting. -/
def kind : Setting → Kind
  | float _ => ⟨.float, false⟩
  | int _ => ⟨.int, false⟩
  | string _ => ⟨.string, false⟩
  | percent _ => ⟨.percent, false⟩
  | amount _ => ⟨.amount, false⟩
  | bool _ => ⟨.bool, false⟩
  | choice _ _ => ⟨.choice, false⟩
  | point _ _ => ⟨.point, false⟩
  | floats _ => ⟨.float, true⟩
  | ints _ => ⟨.int, true⟩
  | strings _ => ⟨.string, true⟩
  | percents _ => ⟨.percent, true⟩
  | amounts _ => ⟨.amount, true⟩
  | bools _ => ⟨.bool, true⟩
  | choices _ => ⟨.choice, true⟩
  | points _ => ⟨.point, true⟩

/-- Whether a setting has one element per extruder. -/
def isVector (setting : Setting) : Bool :=
  setting.kind.isVector

/-- The number of elements of a vector; a scalar counts as one. -/
def size : Setting → Nat
  | floats values => values.length
  | ints values => values.length
  | strings values => values.length
  | percents values => values.length
  | amounts values => values.length
  | bools values => values.length
  | choices ordinals => ordinals.length
  | points values => values.length
  | _ => 1

/-- Whether a scalar is unset.  A vector as a whole never is. -/
def isNil : Setting → Bool
  | float value => value.isNone
  | int value => value.isNone
  | percent value => value.isNone
  | amount value => value.isNone
  | bool value => value.isNone
  | _ => false

/-- For each element of a vector whether it is unset; nothing for a scalar. -/
def nils : Setting → List Bool
  | floats values => values.map (·.isNone)
  | ints values => values.map (·.isNone)
  | percents values => values.map (·.isNone)
  | amounts values => values.map (·.isNone)
  | bools values => values.map (·.isNone)
  | _ => []

/-- Whether the element of a vector at `index` is there and unset. -/
def isNilAt (setting : Setting) (index : Nat) : Bool :=
  setting.nils[index]?.getD false

/-- Whether any element of a vector is unset. -/
def hasNil (setting : Setting) : Bool :=
  setting.nils.any id

/-- The number that a scalar stands for; a percentage counts as it is written. -/
def float? : Setting → Option Float
  | float value => value
  | percent value => value
  | int value => value.map fun n => Float.ofInt n.toInt
  | amount value => value.map (·.value)
  | bool value => value.map fun b => if b then 1.0 else 0.0
  | _ => none

/-- The whole number that a scalar stands for; a choice counts as its ordinal. -/
def int? : Setting → Option Int64
  | int value => value
  | choice _ ordinal => some ordinal
  | bool value => value.map fun b => if b then 1 else 0
  | _ => none

/-- The truth value of a scalar. -/
def bool? : Setting → Option Bool
  | bool value => value
  | _ => none

end Setting

end GcodeTemplate
