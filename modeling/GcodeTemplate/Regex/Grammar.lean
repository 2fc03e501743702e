import GcodeTemplate.Regex.SetReader
import GcodeTemplate.Unicode.Property

/-!
# The grammar of regular expressions

A regular expression is a choice between sequences of parts.  A part is a
character, a class, a condition or a group, and may be repeated.

The syntax is the one that the `regex` library documents for texts of Unicode,
with its limit on nesting.
-/

namespace GcodeTemplate.Regex

/-- What opens with a parenthesis. -/
inductive Opening where
  /-- A change of flags for what follows. -/
  | flags (change : FlagChange)
  /-- A group that is captured or not, with a change of flags inside of it. -/
  | group (captured : Bool) (change : FlagChange)

namespace Flag

/-- The flag that a letter stands for. -/
def ofChar? : Char → Option Flag
  | 'i' => some insensitive
  | 'm' => some multiLine
  | 's' => some dotAll
  | 'U' => some swapGreed
  | 'u' => some unicode
  | 'R' => some crlf
  | 'x' => some extended
  | _ => none

end Flag

namespace Reader

/-- Letters of flags, each of them once. -/
def flagLetters (letters : List Char) : Reader (List Flag) := do
  let flags ← letters.mapM fun c => (Flag.ofChar? c : Reader Flag)
  check flags.Nodup
  pure flags

/-- The flags up to a colon or a parenthesis; those behind a hyphen are switched off. -/
def flagChange : Reader FlagChange := do
  let letters := (← get).rest.takeWhile fun c => c != ':' && c != ')'
  modify fun input => { input with rest := input.rest.drop letters.length }
  let on := letters.takeWhile (· != '-')
  let off := letters.drop (on.length + 1)
  check (! (letters.contains '-' && off.isEmpty))
  let _ ← flagLetters (on ++ off)
  pure ⟨← flagLetters on, ← flagLetters off⟩

/-- Whether a character may stand in the name of a group. -/
def isNameChar (isFirst : Bool) (c : Char) : Bool :=
  c == '_' || Unicode.alphabetic.contains c ||
    ! isFirst && (c == '.' || c == '[' || c == ']' || Unicode.numeric.contains c)

/-- The name of a group, and the sign behind it.  No other group has the same name. -/
def groupName : Reader Unit := do
  let input ← get
  let name := input.rest.takeWhile (· != '>')
  check (! name.isEmpty && (name.take 1).all (isNameChar true) &&
    (name.drop 1).all (isNameChar false))
  check (! input.names.contains name)
  modify fun input =>
    { input with rest := input.rest.drop name.length, names := name :: input.names }
  let _ ← take

/-- What opens with a parenthesis.  Conditions on the surroundings are not supported. -/
def opening : Reader Opening := do
  let _ ← takeAndSkip
  let input ← get
  let looksAround :=
    [['?', '='], ['?', '!'], ['?', '<', '='], ['?', '<', '!']].any (·.isPrefixOf input.rest)
  check (! looksAround)
  if (← eat ['?', 'P', '<']) || (← eat ['?', '<']) then
    groupName
    pure (.group true {})
  else if ← eat ['?'] then
    let change ← flagChange
    if (← take) == ')' then
      check (change != {})
      pure (.flags change)
    else
      pure (.group false change)
  else
    pure (.group true {})

/-- The counts in braces: the least one, and the greatest one unless there is none. -/
def bounds : Reader (Nat × Option Nat) := do
  let _ ← takeAndSkip
  let least ← decimal
  if (← takeIf (· == ',')).isNone then
    pure (least, some least)
  else if (← next) == '}' then
    pure (least, none)
  else
    let most ← decimal
    check (least ≤ most)
    pure (least, some most)

/-- The counts that an operator of repetition stands for. -/
def repetition (operator : Char) : Reader (Nat × Option Nat) := do
  match operator with
  | '{' => do
      let counts ← bounds
      check ((← takeAndSkip) == '}')
      pure counts
  | '?' => take *> pure (0, some 1)
  | '*' => take *> pure (0, none)
  | _ => take *> pure (1, none)

/-- A part that is neither a group nor a set in brackets. -/
def primitive : Reader Written := do
  match ← take with
  | '\\' => (·.written) <$> escape
  | '.' => pure .dot
  | '^' => pure (.assertion .lineStart)
  | '$' => pure (.assertion .lineEnd)
  | c => pure (.literal ⟨c, false⟩)

/-- Whether a character is an operator of repetition. -/
def isRepetition (c : Char) : Bool :=
  c == '?' || c == '*' || c == '+' || c == '{'

/-- The last part, repeated as the operator says that comes next. -/
def repeatLast (operator : Char) (parts : List Written) : Reader (List Written) := do
  match parts with
  | [] => none
  | part :: others => do
      check part.isRepeatable
      let (least, most) ← repetition operator
      let reluctant ← eat ['?']
      pure (.repeated reluctant least most part :: others)

/-- Change whether blanks and comments count. -/
def setExtended (extended : Bool) : Reader Unit :=
  modify fun input => { input with extended := extended }

/--
The rest of a choice, up to its end or a parenthesis that closes it.  Given are
the choices that are complete, and the parts of the current one, from the last
one on.
-/
def choiceRest (complete parts : List Written) : Nat → Reader Written
  | 0 => none
  | bound + 1 => do
      skip
      let finished := Written.ofSequence parts.reverse
      match ← next? with
      | none | some ')' => pure (.ofAlternatives (finished :: complete).reverse)
      | some '|' => do
          let _ ← take
          choiceRest (finished :: complete) [] bound
      | some '[' => do
          let part ← bracketedSet
          choiceRest complete (part :: parts) bound
      | some '(' => do
          let outside := (← get).extended
          match ← opening with
          | .flags change => do
              setExtended (change.apply .extended outside)
              choiceRest complete (.flags change :: parts) bound
          | .group captured change => do
              setExtended (change.apply .extended outside)
              let body ← choiceRest [] [] bound
              setExtended outside
              check ((← take) == ')')
              choiceRest complete (.group captured change body :: parts) bound
      | some c =>
          if isRepetition c then do
            let repeated ← repeatLast c parts
            choiceRest complete repeated bound
          else do
            let part ← primitive
            choiceRest complete (part :: parts) bound

end Reader

namespace Written

/-- Read a whole regular expression. -/
def read? (source : String) : Option Written := do
  let chars := source.toList
  let (written, left) ← Reader.choiceRest [] [] (chars.length + 1) { rest := chars }
  if left.rest.isEmpty && written.depth ≤ depthLimit then
    some written
  else
    none

end Written

end GcodeTemplate.Regex
