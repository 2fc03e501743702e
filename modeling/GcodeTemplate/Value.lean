import GcodeTemplate.Number.Whole
import GcodeTemplate.Setting.Serial

/-!
# Values

The values of expressions.  The empty value is what an expression has that is
not evaluated because it stands in a branch that was not taken.
-/

namespace GcodeTemplate

/-- The value of an expression. -/
inductive Value where
  | empty
  | bool (b : Bool)
  | int (n : Int64)
  | double (x : Float)
  | string (s : String)

namespace Value

instance : Inhabited Value :=
  ⟨empty⟩

/-- Whether a value is the empty one. -/
def isEmpty : Value → Bool
  | empty => true
  | _ => false

/-- Whether a value is a number. -/
def isNumeric : Value → Bool
  | int _ | double _ => true
  | _ => false

/-- Whether a value is a double. -/
def isDouble : Value → Bool
  | double _ => true
  | _ => false

/-- Whether a value is a truth value. -/
def isBool : Value → Bool
  | bool _ => true
  | _ => false

/-- Whether a value is a string. -/
def isString : Value → Bool
  | string _ => true
  | _ => false

/-- The name of the kind of a value. -/
def kindName : Value → String
  | empty => "empty"
  | bool _ => "bool"
  | int _ => "int"
  | double _ => "double"
  | string _ => "string"

/-- The text of a value, as a template prints it. -/
def text : Value → String
  | empty => ""
  | bool b => if b then "true" else "false"
  | int n => .ofList (Setting.intText n)
  | double x => .ofList (Number.shortestText x)
  | string s => s

/-- The number that a value stands for; what is no number counts as zero. -/
def toFloat : Value → Float
  | int n => Float.ofInt n.toInt
  | double x => x
  | _ => 0.0

/-- The number that a value stands for, without its fraction. -/
def truncated : Value → Int64
  | int n => n
  | double x => Number.Rounding.towardZero.toInt64 x
  | _ => 0

/-- The number that a value stands for, rounded with halves away from zero. -/
def rounded : Value → Int64
  | int n => n
  | double x => Number.Rounding.halfAway.toInt64 x
  | _ => 0

end Value

end GcodeTemplate
