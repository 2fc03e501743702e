import GcodeTemplate.Diagnostic.Cause
import GcodeTemplate.Diagnostic.Span
import GcodeTemplate.Text.Width

/-!
# Diagnostics

A fault is a cause at a position of the template.  A diagnostic is what the
user gets to see of it: the line with the position, and a mark below it.
-/

namespace GcodeTemplate

/-- A failure at a known position. -/
structure Fault where
  cause : Cause
  span : Span
deriving DecidableEq, Repr

/-- A position of a source, as the characters before it and those after it. -/
structure Place where
  before : List Char
  after : List Char

namespace Place

/-- The last boundary of characters that is at most `offset` bytes into a source. -/
def ofOffset : (offset : Nat) → List Char → Place
  | _, [] => ⟨[], []⟩
  | offset, c :: rest =>
      if c.utf8Size ≤ offset then
        let place := ofOffset (offset - c.utf8Size) rest
        ⟨c :: place.before, place.after⟩
      else
        ⟨[], c :: rest⟩

/-- The number of the line with a place, counted from one. -/
def line (place : Place) : Nat :=
  place.before.count '\n' + 1

/-- The characters of its line that stand before a place. -/
def lineBefore (place : Place) : List Char :=
  (place.before.reverse.takeWhile (· != '\n')).reverse

/-- The column of a place in its line, in characters from zero. -/
def column (place : Place) : Nat :=
  place.lineBefore.length

/-- The line with a place, without its end. -/
def lineText (place : Place) : List Char :=
  place.lineBefore ++ place.after.takeWhile (· != '\n')

end Place

/-- A failure as it is shown to the user. -/
structure Diagnostic where
  kind : ErrorKind
  /-- The line of the failure, counted from one. -/
  line : Nat
  /-- The column of the failure in characters, counted from zero. -/
  column : Nat
  cause : String
  message : String
deriving DecidableEq, Repr

namespace Fault

/-- What stands between the line number and the cause in a message. -/
def separator (fault : Fault) : String :=
  match fault.cause with
  | .expected _ => ". "
  | _ => ": "

/-- The diagnostic of a fault in a source. -/
def diagnostic
    (fault : Fault)
    (source : String)
    (explain : Explainer := .silent) :
    Diagnostic :=
  let place := Place.ofOffset fault.span.start source.toList
  let line := .ofList (Number.digits place.line)
  let mark := .ofList (List.replicate place.column ' ' ++ ['^', '\n'])
  { kind := fault.cause.kind
    line := place.line
    column := place.column
    cause := fault.cause.text explain
    message :=
      "Parsing error at line " ++ line ++ fault.separator ++
        fault.cause.text explain ++ "\n" ++ .ofList place.lineText ++ "\n" ++ mark }

end Fault

end GcodeTemplate
