import GcodeTemplate.Diagnostic
import GcodeTemplate.Token.Lexeme

/-!
# Parsers

A parser reads something from a cursor in a template and moves the cursor
behind it, or reports a fault.  The cursor keeps account of the nesting: what
is nested costs a fixed number of units while it is read, an operator of a
chain one unit until the chain ends, and the units that may be spent at a time
are limited.
-/

namespace GcodeTemplate

open Text

/-- A position in a template. -/
structure Cursor where
  /-- The characters behind the cursor. -/
  rest : List Char
  /-- The number of bytes in front of the cursor. -/
  position : Nat := 0
  /-- Where the last token that was read ended. -/
  previousStop : Nat := 0
  /-- The units of nesting that are spent. -/
  depth : Nat := 0

/-- The cursor at the start of a source. -/
def Cursor.start (source : String) : Cursor :=
  { rest := source.toList }

/-- The nesting that a template may use. -/
def maximalNesting : Nat :=
  64

/-- The units that one level of nesting costs. -/
def nestingCost : Nat :=
  8

/-- The units that may be spent at a time. -/
def maximalDepth : Nat :=
  maximalNesting * nestingCost

/-- Reads something at a cursor. -/
def Parser (α : Type) : Type :=
  Cursor → Except Fault (α × Cursor)

namespace Parser

instance : Monad Parser where
  pure a := fun cursor => .ok (a, cursor)
  bind parser next := fun cursor =>
    match parser cursor with
    | .error fault => .error fault
    | .ok (a, moved) => next a moved

/-- Report a fault. -/
def fail {α : Type} (cause : Cause) (span : Span) : Parser α :=
  fun _ => .error ⟨cause, span⟩

/-- Report that something else was expected. -/
def failExpecting {α : Type} (expectation : Expectation) (span : Span) : Parser α :=
  fail (.expected expectation) span

/-- The cursor. -/
def cursor : Parser Cursor :=
  fun cursor => .ok (cursor, cursor)

/-- Move the cursor. -/
def moveTo (target : Cursor) : Parser Unit :=
  fun _ => .ok ((), target)

/-- Run a parser; if it fails, answer `none` and stay where it started. -/
def attempt {α : Type} (parser : Parser α) : Parser (Option α) :=
  fun cursor =>
    match parser cursor with
    | .error _ => .ok (none, cursor)
    | .ok (a, moved) => .ok (some a, moved)

/-- Run a parser; if it answers `none`, stay where it started. -/
def restoring {α : Type} (parser : Parser (Option α)) : Parser (Option α) :=
  fun cursor =>
    match parser cursor with
    | .ok (none, _) => .ok (none, cursor)
    | outcome => outcome

/-- How a loop goes on: with another round, or not at all. -/
inductive Step (σ β : Type) where
  | again (state : σ)
  | done (result : β)

/--
Rounds of a loop, at most a given number of them.  The number is chosen so
large that it is never used up.
-/
def rounds {σ β : Type} (step : σ → Parser (Step σ β)) : Nat → σ → Parser β
  | 0, _ => fun cursor => .error ⟨.nestedTooDeeply, .point cursor.position⟩
  | bound + 1, state => do
      match ← step state with
      | .done result => pure result
      | .again next => rounds step bound next

/--
Repeat a step until it is done.  A step that asks for another round has read at
least one character, so there cannot be more rounds than characters and one.
-/
def iterate {σ β : Type} (step : σ → Parser (Step σ β)) (state : σ) : Parser β :=
  fun cursor => rounds step (cursor.rest.length + 1) state cursor

/-- Repeat a parser until it answers `none`, and collect the other answers. -/
def many {α : Type} (parser : Parser (Option α)) : Parser (List α) :=
  iterate (fun collected => do
    match ← parser with
    | none => pure (.done collected.reverse)
    | some a => pure (.again (a :: collected))) []

/-- The token behind the cursor, and its span; the blanks in front are skipped. -/
def lexemeAt (cursor : Cursor) : Except Fault (Lexeme × Span) :=
  let start := cursor.position + (cursor.rest.takeWhile isAsciiBlank).length
  match Lexeme.read (cursor.rest.dropWhile isAsciiBlank) with
  | .error flaw =>
      let offset := start + flaw.lead
      .error ⟨flaw.cause, ⟨offset, offset + flaw.width⟩⟩
  | .ok lexeme => .ok (lexeme, ⟨start, start + byteWidth lexeme.text⟩)

/-- The next token and its span, without moving. -/
def peek : Parser (Token × Span) :=
  fun cursor =>
    match lexemeAt cursor with
    | .error fault => .error fault
    | .ok (lexeme, span) => .ok ((lexeme.token, span), cursor)

/-- The next token and its span. -/
def advance : Parser (Token × Span) :=
  fun cursor =>
    match lexemeAt cursor with
    | .error fault => .error fault
    | .ok (lexeme, span) =>
        .ok ((lexeme.token, span),
          { cursor with
            rest := lexeme.rest
            position := span.stop
            previousStop := span.stop })

/-- Read the next token if it passes a test, and tell whether it did. -/
def eatIf (test : Token → Bool) : Parser Bool := do
  let (token, _) ← peek
  if test token then
    let _ ← advance
    pure true
  else
    pure false

/-- Read a sign if it comes next, and tell whether it did. -/
def eat (symbol : Symbol) : Parser Bool :=
  eatIf (·.isSymbol symbol)

/-- Read a word if it comes next, and tell whether it did. -/
def eatWord (name : String) : Parser Bool :=
  eatIf (·.isWord name)

/-- Read a sign that has to come next. -/
def expect (symbol : Symbol) (expectation : Expectation) : Parser Unit := do
  let (token, span) ← peek
  if token.isSymbol symbol then
    let _ ← advance
    pure ()
  else
    failExpecting expectation span

/-- The span from a position to the end of the last token that was read. -/
def spanFrom (start : Nat) : Parser Span :=
  fun cursor => .ok (⟨start, max cursor.previousStop start⟩, cursor)

/-- Spend units of nesting. -/
def charge (cost : Nat) (span : Span) : Parser Unit :=
  fun cursor =>
    if maximalDepth < cursor.depth + cost then
      .error ⟨.nestedTooDeeply, span⟩
    else
      .ok ((), { cursor with depth := cursor.depth + cost })

/-- Give spent units of nesting back. -/
def release (cost : Nat) : Parser Unit :=
  fun cursor => .ok ((), { cursor with depth := cursor.depth - cost })

/-- Read something one level deeper. -/
def nested {α : Type} (span : Span) (parser : Parser α) : Parser α := do
  charge nestingCost span
  let a ← parser
  release nestingCost
  pure a

end Parser

end GcodeTemplate
