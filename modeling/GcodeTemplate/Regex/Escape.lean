import GcodeTemplate.Regex.Reader
import GcodeTemplate.Regex.Written

/-!
# Escapes in regular expressions

What a backslash stands for together with what follows it.
-/

namespace GcodeTemplate.Regex

/-- What an escape stands for. -/
inductive Escape where
  | literal (literal : Literal)
  | letter (negated : Bool) (letters : LetterClass)
  | property (negated : Bool) (query : PropertyQuery)
  | assertion (assertion : Assertion)

namespace Escape

/-- An escape as a part of a regular expression. -/
def written : Escape → Written
  | literal char => .literal char
  | letter negated letters => .letter negated letters
  | property negated query => .property negated query
  | assertion condition => .assertion condition

/-- An escape as a part of a set in brackets, where conditions have no place. -/
def setItem? : Escape → Option SetItem
  | literal char => some (.literal char)
  | letter negated letters => some (.letter negated letters)
  | property negated query => some (.property negated query)
  | assertion _ => none

/-- An escape as an end of a range. -/
def literal? : Escape → Option Literal
  | literal char => some char
  | _ => none

end Escape

namespace Reader

/-- Whether a character is a hexadecimal digit. -/
def isHex (c : Char) : Bool :=
  isDecimal c || ('a' ≤ c && c ≤ 'f') || ('A' ≤ c && c ≤ 'F')

/-- The value of a hexadecimal digit. -/
def hexValue (c : Char) : Nat :=
  if isDecimal c then
    c.toNat - '0'.toNat
  else
    c.toLower.toNat - 'a'.toNat + 10

/-- The character whose code point is given by hexadecimal digits. -/
def hexChar (digits : List Char) : Reader Char := do
  let code := digits.foldl (fun value c => 16 * value + hexValue c) 0
  check (! digits.isEmpty && decide code.isValidChar)
  pure (Char.ofNat code)

/-- A given number of hexadecimal digits. -/
def hexDigits : Nat → Reader (List Char)
  | 0 => pure []
  | count + 1 => do
      let c ← takeAndSkip
      check (isHex c)
      let rest ← hexDigits count
      pure (c :: rest)

/-- A character given by its code point, in braces or by a fixed number of digits. -/
def hexEscape (count : Nat) : Reader Literal := do
  skip
  if (← next) == '{' then
    let _ ← takeAndSkip
    let digits ← collect (takeIf isHex)
    check ((← takeAndSkip) == '}')
    let c ← hexChar digits
    pure ⟨c, false⟩
  else
    let digits ← hexDigits count
    let c ← hexChar digits
    pure ⟨c, count == 2⟩

/-- The parts of a text in front of and behind a separator, where it stands first. -/
def splitAt? (separator : List Char) : List Char → Option (List Char × List Char)
  | [] => none
  | c :: rest =>
      if separator.isPrefixOf (c :: rest) then
        some ([], (c :: rest).drop separator.length)
      else
        (splitAt? separator rest).map fun (front, behind) => (c :: front, behind)

/-- The query in a pair of braces, and whether it asks for the opposite. -/
def queryOf (text : List Char) : Bool × PropertyQuery :=
  let valued (parts : List Char × List Char) : PropertyQuery :=
    .valued (.ofList parts.1) (.ofList parts.2)
  match splitAt? ['!', '='] text with
  | some parts => (true, valued parts)
  | none =>
      match splitAt? [':'] text <|> splitAt? ['='] text with
      | some parts => (false, valued parts)
      | none => (false, .named (.ofList text))

/-- A property of characters, by one letter or in braces. -/
def propertyEscape (negated : Bool) : Reader Escape := do
  skip
  if (← next) == '{' then
    let _ ← takeAndSkip
    let text ← collect (takeIf (· != '}'))
    check ((← take) == '}')
    let (opposite, query) := queryOf text
    pure (.property (negated != opposite) query)
  else
    let c ← takeAndSkip
    check (c != '\\')
    pure (.property negated (.named c.toString))

/-- Whether a character may stand in the name of a condition. -/
def isConditionChar (c : Char) : Bool :=
  c.isAlpha || c == '-'

/-- The condition behind `\b`; braces with anything but a name belong to a repetition. -/
def wordBoundary : Reader Assertion := do
  let before ← get
  if (← next?) == some '{' then
    let _ ← takeAndSkip
    if isConditionChar (← next) then
      let name ← collect (takeIf isConditionChar)
      check ((← take) == '}')
      match String.ofList name with
      | "start" => pure .wordStart
      | "end" => pure .wordEnd
      | "start-half" => pure .wordStartHalf
      | "end-half" => pure .wordEndHalf
      | _ => none
    else
      modify fun _ => before
      pure .wordBoundary
  else
    pure .wordBoundary

/-- Whether a character of ASCII stands for itself behind a backslash. -/
def isPlainEscape (c : Char) : Bool :=
  c.toNat < 0x80 && ! c.isAlphanum && c != '<' && c != '>'

/-- What stands behind a backslash. -/
def escape : Reader Escape := do
  let c ← take
  let plain (char : Char) : Reader Escape := pure (.literal ⟨char, false⟩)
  match c with
  | 'x' => .literal <$> hexEscape 2
  | 'u' => .literal <$> hexEscape 4
  | 'U' => .literal <$> hexEscape 8
  | 'p' => propertyEscape false
  | 'P' => propertyEscape true
  | 'd' => pure (.letter false .digit)
  | 'D' => pure (.letter true .digit)
  | 's' => pure (.letter false .space)
  | 'S' => pure (.letter true .space)
  | 'w' => pure (.letter false .word)
  | 'W' => pure (.letter true .word)
  | 'a' => plain '\x07'
  | 'f' => plain '\x0C'
  | 't' => plain '\t'
  | 'n' => plain '\n'
  | 'r' => plain '\r'
  | 'v' => plain '\x0B'
  | 'A' => pure (.assertion .textStart)
  | 'z' => pure (.assertion .textEnd)
  | 'b' => .assertion <$> wordBoundary
  | 'B' => pure (.assertion .notWordBoundary)
  | '<' => pure (.assertion .wordStart)
  | '>' => pure (.assertion .wordEnd)
  | c =>
      check (isPlainEscape c)
      plain c

end Reader

end GcodeTemplate.Regex
