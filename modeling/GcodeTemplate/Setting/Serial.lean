import GcodeTemplate.Setting
import GcodeTemplate.Text.Blank

/-!
# Serialized settings

The text form of settings in configuration files, which the bracket form of a
template inserts.  Elements of a vector are joined by commas.  Elements of a
vector of strings are joined by semicolons and quoted where that is needed to
tell them apart.
-/

namespace GcodeTemplate.Setting

open Number Text

/-- The text of an unset value. -/
def nilText : List Char :=
  ['n', 'i', 'l']

/-- The text of a value that may be unset. -/
def orNil {α : Type} (text : α → List Char) : Option α → List Char
  | none => nilText
  | some value => text value

/-- The text of a percentage. -/
def percentText (x : Float) : List Char :=
  shortestText x ++ ['%']

/-- The text of a number that may be a percentage. -/
def amountText (amount : Amount) : List Char :=
  if amount.percent then percentText amount.value else shortestText amount.value

/-- The text of a truth value. -/
def boolText (b : Bool) : List Char :=
  if b then ['1'] else ['0']

/-- The text of a 64-bit integer. -/
def intText (n : Int64) : List Char :=
  wholeText n.toInt

/-- A backslash and the characters that end a line are written as escapes. -/
def escape : List Char → List Char
  | [] => []
  | '\\' :: rest => '\\' :: '\\' :: escape rest
  | '\n' :: rest => '\\' :: 'n' :: escape rest
  | '\r' :: rest => '\\' :: 'r' :: escape rest
  | c :: rest => c :: escape rest

/-- Inside of quotes a quote is written as an escape too. -/
def escapeQuoted : List Char → List Char
  | [] => []
  | '"' :: rest => '\\' :: '"' :: escapeQuoted rest
  | '\\' :: rest => '\\' :: '\\' :: escapeQuoted rest
  | '\n' :: rest => '\\' :: 'n' :: escapeQuoted rest
  | '\r' :: rest => '\\' :: 'r' :: escapeQuoted rest
  | c :: rest => c :: escapeQuoted rest

/-- The characters that force an element of a vector of strings into quotes. -/
def forcesQuotes (c : Char) : Bool :=
  c == ';' || c == '"' || c == '\\' || c == '\n' || c == '\r' || isBlank c

/-- An element of a vector of strings, in quotes if it is empty or has to be. -/
def quoteIfNeeded (text : List Char) : List Char :=
  if text.isEmpty || text.any forcesQuotes then
    '"' :: (escapeQuoted text ++ ['"'])
  else
    text

/-- Join texts with a separator between each two of them. -/
def joinWith (separator : Char) : List (List Char) → List Char
  | [] => []
  | [text] => text
  | text :: rest => text ++ separator :: joinWith separator rest

/-- The text of a scalar; nothing for a vector. -/
def scalarText : Setting → List Char
  | float value => orNil shortestText value
  | int value => orNil intText value
  | string value => escape value.toList
  | percent value => orNil percentText value
  | amount value => orNil amountText value
  | bool value => orNil boolText value
  | choice name _ => name.toList
  | point x y => shortestText x ++ ',' :: shortestText y
  | _ => []

/-- The text of each element of a vector; a scalar counts as one element. -/
def elementTexts : Setting → List (List Char)
  | floats values => values.map (orNil shortestText)
  | ints values => values.map (orNil intText)
  | strings values => values.map (·.toList)
  | percents values => values.map (orNil percentText)
  | amounts values => values.map (orNil amountText)
  | bools values => values.map (orNil boolText)
  | choices ordinals => ordinals.map intText
  | points values =>
      values.map fun (x, y) => shortestText x ++ 'x' :: shortestText y
  | scalar => [scalar.scalarText]

/-- The text of a whole setting. -/
def serialized : Setting → List Char
  | strings values => joinWith ';' (values.map fun s => quoteIfNeeded s.toList)
  | setting => joinWith ',' setting.elementTexts

/-- The text of a whole setting as a string. -/
def serialize (setting : Setting) : String :=
  .ofList setting.serialized

/-- The text of each element as a string. -/
def serializeElements (setting : Setting) : List String :=
  setting.elementTexts.map .ofList

end GcodeTemplate.Setting
