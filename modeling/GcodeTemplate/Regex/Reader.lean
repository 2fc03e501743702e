import GcodeTemplate.Text.Blank

/-!
# Reading regular expressions

A reader takes characters from the front of a regular expression, or fails.
Where blanks and comments do not count, a reader has to skip them itself.
-/

namespace GcodeTemplate.Regex

/-- What is left to read. -/
structure Input where
  rest : List Char
  /-- Whether blanks and comments do not count here. -/
  extended : Bool := false
  /-- The names of groups that have been read. -/
  names : List (List Char) := []

/-- Reads something from an input, or fails. -/
abbrev Reader : Type → Type :=
  StateT Input Option

namespace Reader

variable {α : Type}

/-- The next character, without taking it. -/
def next? : Reader (Option Char) := do
  let input ← get
  pure input.rest.head?

/-- The next character, without taking it; there has to be one. -/
def next : Reader Char := do
  let input ← get
  input.rest.head?

/-- Take the next character. -/
def take : Reader Char := do
  match (← get).rest with
  | [] => none
  | c :: rest =>
      modify fun input => { input with rest := rest }
      pure c

/-- Fail unless a condition holds. -/
def check (condition : Bool) : Reader Unit :=
  if condition then pure () else none

/-- Take a text if it comes next, and tell whether it did. -/
def eat (text : List Char) : Reader Bool := do
  if text.isPrefixOf (← get).rest then
    modify fun input => { input with rest := input.rest.drop text.length }
    pure true
  else
    pure false

/-- Run a reader; if it fails, answer `none` and take nothing. -/
def attempt (reader : Reader α) : Reader (Option α) :=
  fun input =>
    match reader input with
    | none => some (none, input)
    | some (a, left) => some (some a, left)

/-- Repeat a reader until it answers `none`, at most a given number of times. -/
def collectUpTo (reader : Reader (Option α)) : Nat → Reader (List α)
  | 0 => none
  | bound + 1 => do
      match ← reader with
      | none => pure []
      | some a => do
          let rest ← collectUpTo reader bound
          pure (a :: rest)

/--
Repeat a reader until it answers `none`.  Every other answer takes a character,
so there cannot be more rounds than characters and one.
-/
def collect (reader : Reader (Option α)) : Reader (List α) := do
  let input ← get
  collectUpTo reader (input.rest.length + 1)

/-- What is left behind blanks and comments; a comment ends with its line. -/
def withoutBlanks : (inComment : Bool) → List Char → List Char
  | _, [] => []
  | true, c :: rest => withoutBlanks (c != '\n') rest
  | false, c :: rest =>
      if Text.isBlank c then
        withoutBlanks false rest
      else if c == '#' then
        withoutBlanks true rest
      else
        c :: rest

/-- Skip blanks and comments if they do not count. -/
def skip : Reader Unit :=
  modify fun input =>
    if input.extended then
      { input with rest := withoutBlanks false input.rest }
    else
      input

/-- Take the next character, and skip what does not count behind it. -/
def takeAndSkip : Reader Char := do
  let c ← take
  skip
  pure c

/-- Take the next character if it passes a test, and skip what does not count behind it. -/
def takeIf (test : Char → Bool) : Reader (Option Char) := do
  match ← next? with
  | some c => if test c then some <$> takeAndSkip else pure none
  | none => pure none

/-- Skip blanks even where they count. -/
def skipBlanks : Reader Unit :=
  modify fun input => { input with rest := input.rest.dropWhile Text.isBlank }

/-- Whether a character is a decimal digit. -/
def isDecimal (c : Char) : Bool :=
  '0' ≤ c && c ≤ '9'

/-- A number below `2 ^ 32` with blanks around it. -/
def decimal : Reader Nat := do
  skipBlanks
  let digits ← collect (takeIf isDecimal)
  let _ ← collect (takeIf Text.isBlank)
  let value := digits.foldl (fun value c => 10 * value + (c.toNat - '0'.toNat)) 0
  check (! digits.isEmpty && value < UInt32.size)
  pure value

end Reader

end GcodeTemplate.Regex
