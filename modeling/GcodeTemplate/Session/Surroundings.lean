import GcodeTemplate.Dictionary
import GcodeTemplate.Text.Blank
import GcodeTemplate.Text.Width
import GcodeTemplate.Number.Decimal

/-!
# Settings from the surroundings of the program

The time, the name of the user, and the environment variables that are meant
for templates.
-/

namespace GcodeTemplate

/-- A time of day on a calendar date. -/
structure CivilTime where
  year : Nat
  month : Nat
  day : Nat
  hour : Nat
  minute : Nat
  second : Nat
deriving DecidableEq, Repr

namespace CivilTime

/-- A number with at least `width` digits. -/
def padded (width number : Nat) : List Char :=
  Text.padZeros width [] (Number.wholeText number)

/-- A time as digits, the date in front of a hyphen and the time of day behind it. -/
def stamp (time : CivilTime) : String :=
  .ofList
    (padded 4 time.year ++ padded 2 time.month ++ padded 2 time.day ++ '-' ::
      (padded 2 time.hour ++ padded 2 time.minute ++ padded 2 time.second))

/-- The settings that tell a time. -/
def settings (time : CivilTime) : List (String × Setting) :=
  let number (n : Nat) : Setting := .int (some (.ofNat n))
  [("timestamp", .string time.stamp), ("year", number time.year),
    ("month", number time.month), ("day", number time.day),
    ("hour", number time.hour), ("minute", number time.minute),
    ("second", number time.second)]

end CivilTime

/-- The variables of an environment and their values. -/
abbrev Environment : Type :=
  List (String × String)

namespace Environment

/-- How the variables begin that are meant for templates. -/
def mark : List Char :=
  ['S', 'L', 'I', 'C', '3', 'R', '_']

/-- The variables that are meant for templates, each with the first word of its value. -/
def settings (environment : Environment) : List (String × Setting) :=
  (environment.filter fun (name, _) => mark.isPrefixOf name.toList).map
    fun (name, value) => (name, .string (Text.firstWord value))

/-- The name of the user. -/
def user (environment : Environment) : String :=
  (environment.lookup "USER" <|> environment.lookup "USERNAME").getD "unknown"

end Environment

namespace Dictionary

/-- Put the variables in that are meant for templates. -/
def importEnvironment (dictionary : Dictionary) (environment : Environment) : Dictionary :=
  dictionary.insertAll environment.settings

/-- Set the time. -/
def setTime (dictionary : Dictionary) (time : CivilTime) : Dictionary :=
  dictionary.insertAll time.settings

/-- Set the name of the user. -/
def setUser (dictionary : Dictionary) (environment : Environment) : Dictionary :=
  dictionary.insert "user" (.string environment.user)

end Dictionary

end GcodeTemplate
