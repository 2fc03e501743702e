import GcodeTemplate.Regex.Escape

/-!
# Sets in brackets

A set lists characters, ranges, classes and further sets.  Operators between
sets are applied from the left, and their operands are all that stands between
two of them.
-/

namespace GcodeTemplate.Regex

namespace AsciiClass

/-- The class with a given name. -/
def ofName? : String → Option AsciiClass
  | "alnum" => some alnum
  | "alpha" => some alpha
  | "ascii" => some ascii
  | "blank" => some blank
  | "cntrl" => some cntrl
  | "digit" => some digit
  | "graph" => some graph
  | "lower" => some lower
  | "print" => some print
  | "punct" => some punct
  | "space" => some space
  | "upper" => some upper
  | "word" => some word
  | "xdigit" => some xdigit
  | _ => none

end AsciiClass

namespace Reader

/-- A class of ASCII characters, by a name between colons in brackets. -/
def asciiClass : Reader SetItem := do
  check (← eat ['[', ':'])
  let negated ← eat ['^']
  let name := (← get).rest.takeWhile (· != ':')
  modify fun input => { input with rest := input.rest.drop name.length }
  check (← eat [':', ']'])
  let letters ← AsciiClass.ofName? (.ofList name)
  pure (.ascii negated letters)

/-- A character of a set, or what an escape stands for. -/
def setAtom : Reader Escape := do
  let c ← take
  if c == '\\' then
    escape
  else
    pure (.literal ⟨c, false⟩)

/--
The character behind the next one.  Where they do not count, blanks are passed
over, and so is the sign that begins a comment, but not what the comment says.
-/
def charAfterNext? (input : Input) : Option Char :=
  let behind := input.rest.drop 1
  if input.extended then
    let found :=
      match behind.dropWhile Text.isBlank with
      | '#' :: comment => comment.dropWhile Text.isBlank
      | other => other
    (found.head?) <|> behind.head?
  else
    behind.head?

/-- A character, a range of characters, or what an escape stands for. -/
def setRange : Reader SetItem := do
  let first ← setAtom
  skip
  let c ← next
  let following := charAfterNext? (← get)
  if c != '-' || following == some ']' || following == some '-' then
    first.setItem?
  else
    let _ ← takeAndSkip
    let last ← setAtom
    let firstLiteral ← first.literal?
    let lastLiteral ← last.literal?
    check (firstLiteral.char ≤ lastLiteral.char)
    pure (.range firstLiteral lastLiteral)

/-- An operator between sets. -/
def setOperator? : Reader (Option SetOperator) := do
  if ← eat ['&', '&'] then
    pure (some .intersection)
  else if ← eat ['-', '-'] then
    pure (some .difference)
  else if ← eat ['~', '~'] then
    pure (some .symmetricDifference)
  else
    pure none

/-- What comes first in brackets: a sign of negation, and characters that have no meaning there. -/
def setOpening : Reader (Bool × List SetItem) := do
  let _ ← takeAndSkip
  let negated ← Option.isSome <$> takeIf (· == '^')
  let hyphens ← collect (takeIf (· == '-'))
  let closing ← if hyphens.isEmpty then takeIf (· == ']') else pure none
  let _ ← next
  let plain (c : Char) : SetItem := .literal ⟨c, false⟩
  pure (negated, (hyphens ++ closing.toList).map plain)

/-- The set that is complete when its last operand is. -/
def completeSet (left : Option (SetOperator × WrittenSet)) (items : List SetItem) : WrittenSet :=
  let last := WrittenSet.union items.reverse
  match left with
  | none => last
  | some (operator, first) => .combine operator first last

/--
The rest of a set in brackets, and the bracket behind it.  Given are the operand
in front of the last operator, and the items behind it from the last one on.
-/
def setRest
    (left : Option (SetOperator × WrittenSet))
    (items : List SetItem) :
    Nat → Reader WrittenSet
  | 0 => none
  | bound + 1 => do
      skip
      let c ← next
      if c == ']' then
        let _ ← take
        pure (completeSet left items)
      else if c == '[' then
        match ← attempt asciiClass with
        | some item => setRest left (item :: items) bound
        | none =>
            let (negated, opening) ← setOpening
            let inner ← setRest none opening.reverse bound
            setRest left (.nested negated inner :: items) bound
      else
        match ← setOperator? with
        | some operator => setRest (some (operator, completeSet left items)) [] bound
        | none =>
            let item ← setRange
            setRest left (item :: items) bound

/-- A set in brackets. -/
def bracketedSet : Reader Written := do
  let input ← get
  let (negated, opening) ← setOpening
  let inner ← setRest none opening.reverse (input.rest.length + 1)
  pure (.set negated inner)

end Reader

end GcodeTemplate.Regex
