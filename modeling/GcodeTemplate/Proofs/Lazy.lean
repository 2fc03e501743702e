import GcodeTemplate.Piece.Render

/-!
# Lazy evaluation

The meaning of templates without blocks that are not taken.  Of a conditional
only the branch that is chosen is evaluated; of an if block the conditions up to
the first one that holds, and only the body of that branch.  What an evaluation
works on has no place to count blocks.  The functions on single values and
variables are those of the evaluation itself.
-/

namespace GcodeTemplate

/-- What an evaluation may change, without a count of blocks. -/
structure Memory where
  outputs : Option Dictionary := none
  shared : Option Shared := none
  locals : Dictionary := ∅
  extruder : Nat := 0

/-- What is left of a state if the count of blocks is forgotten. -/
def State.memory (state : State) : Memory :=
  ⟨state.outputs, state.shared, state.locals, state.extruder⟩

/-- The state with a memory that is in no block that is not taken. -/
def Memory.state (memory : Memory) : State :=
  ⟨memory.outputs, memory.shared, memory.locals, memory.extruder, 0⟩

/-- A lazy evaluation that works on the memory of a context. -/
abbrev Lazy : Type → Type :=
  Evaluation Memory

namespace Lazy

variable {α : Type}

/-- An operation of a context in which no block is entered. -/
def ofEval (evaluation : Eval α) : Lazy α :=
  fun layers memory =>
    let (result, after) := evaluation layers memory.state
    (result, after.memory)

/-- Evaluate an expression at a span, and take its value as what it has to be. -/
def expecting
    (check : Sourced → Except Fault α)
    (span : Span)
    (evaluation : Lazy Value) :
    Lazy α := do
  let value ← evaluation
  Evaluation.ofExcept (check ⟨value, span⟩)

end Lazy

open Evaluation Lazy Sourced

mutual

/-- The value of an expression; the branch of a conditional that is not chosen has none. -/
def Expr.evalLazily : Expr → Lazy Value
  | .literal _ value => pure value
  | .read _ reference => do
      let binding ← reference.bindLazily
      ofEval (Eval.read binding)
  | .unary span operator operand => do
      let value ← operand.evalLazily
      ofEval (Eval.operate (operator.apply value) span operand.span operand.span)
  | .binary span operator left right => do
      let first ← left.evalLazily
      let second ← right.evalLazily
      ofEval (Eval.operate (operator.apply first second) span left.span right.span)
  | .fullMatch _ negated subject source sourceSpan => do
      let text ← expecting (string .matchedNotString) subject.span subject.evalLazily
      let pattern ← ofEval (Eval.regex (.patternMalformed source) source sourceSpan)
      pure (.bool (pattern.accepts text != negated))
  | .conditional _ condition yes no => do
      if ← expecting (truth .notACondition) condition.span condition.evalLazily then
        yes.evalLazily
      else
        no.evalLazily
  | .call span call => call.evalLazily span

/-- The binding of a reference, with its index evaluated. -/
def Reference.bindLazily (reference : Reference Expr) : Lazy Binding :=
  match reference with
  | ⟨name, nameSpan, none, span⟩ => do
      let (scope, _) ← ofEval (Eval.resolve name nameSpan)
      pure ⟨name, scope, none, span⟩
  | ⟨name, nameSpan, some index, span⟩ => do
      let (scope, isVector) ← ofEval (Eval.resolve name nameSpan)
      let place ← expecting (place isVector) index.span index.evalLazily
      pure ⟨name, scope, place, span⟩

/-- The value of a call that stands at a span. -/
def Call.evalLazily (call : Call) (span : Span) : Lazy Value :=
  match call with
  | .minimum left right => do
      let first ← expecting (number .argumentNotNumeric) left.span left.evalLazily
      let second ← expecting (number .argumentNotNumeric) right.span right.evalLazily
      pure (Value.Extreme.least.of first second)
  | .maximum left right => do
      let first ← expecting (number .argumentNotNumeric) left.span left.evalLazily
      let second ← expecting (number .argumentNotNumeric) right.span right.evalLazily
      pure (Value.Extreme.greatest.of first second)
  | .random low high => do
      let first ← expecting (number .argumentNotNumeric) low.span low.evalLazily
      let second ← expecting (number .argumentNotNumeric) high.span high.evalLazily
      ofEval (Eval.draw span first second)
  | .changeFilament filament => do
      let value ← expecting (number .argumentNotNumeric) filament.span filament.evalLazily
      ofEval (Eval.changeFilament filament.span value)
  | .digits zeros value width none => do
      let value ← expecting (number .argumentNotNumeric) value.span value.evalLazily
      let width ← expecting (whole .widthNotWhole) width.span width.evalLazily
      pure (.string (value.columnText zeros width none))
  | .digits zeros value width (some places) => do
      let value ← expecting (number .argumentNotNumeric) value.span value.evalLazily
      let width ← expecting (whole .widthNotWhole) width.span width.evalLazily
      let places ← expecting (whole .placesNotWhole) places.span places.evalLazily
      pure (.string (value.columnText zeros width (some places)))
  | .round rounding argument => do
      let value ← argument.evalLazily
      ofEval (Eval.operate (value.toInt rounding) span argument.span argument.span)
  | .isNil reference => do
      let binding ← reference.bindLazily
      .bool <$> ofEval (Eval.inspect binding.isNil)
  | .isEmpty reference => do
      let binding ← reference.bindLazily
      let size ← ofEval
        (Eval.inspect (binding.vectorSize reference.index.isSome .emptyOfScalar))
      pure (.bool (size == 0))
  | .size reference => do
      let binding ← reference.bindLazily
      let size ← ofEval
        (Eval.inspect (binding.vectorSize reference.index.isSome .sizeOfScalar))
      pure (.int (.ofNat size))
  | .oneOf subject candidates => do
      let value ← subject.evalLazily
      .bool <$> Candidate.anyAcceptsLazily ⟨value, subject.span⟩ candidates
  | .interpolate abscissa table => do
      let x ← expecting (number .abscissaNotNumeric) abscissa.span abscissa.evalLazily
      let knots ← Table.evalLazily table
      .double <$> ofExcept (knots.interpolate x.toFloat abscissa.span)

/-- Whether a candidate accepts a subject; none is evaluated after one that does. -/
def Candidate.anyAcceptsLazily (subject : Sourced) : List (Candidate Expr) → Lazy Bool
  | [] => pure false
  | candidate :: rest => do
      let text ← ofExcept (string .subjectNotString subject)
      if ← candidate.acceptsLazily text then
        pure true
      else
        Candidate.anyAcceptsLazily subject rest

/-- Whether a candidate accepts a text. -/
def Candidate.acceptsLazily (candidate : Candidate Expr) (text : String) : Lazy Bool :=
  match candidate with
  | .text expr => do
      let expected ← expecting (string .patternNotString) expr.span expr.evalLazily
      pure ((Pattern.literal expected).accepts text)
  | .pattern expr => do
      let source ← expecting (string .patternNotString) expr.span expr.evalLazily
      let pattern ← ofEval (Eval.regex .patternRejected source expr.span)
      pure (pattern.accepts text)
  | .regex source span => do
      let pattern ← ofEval (Eval.regex (.patternMalformed source) source span)
      pure (pattern.accepts text)

/-- The points of a table. -/
def Table.evalLazily : List (Expr × Expr) → Lazy Table
  | [] => pure []
  | (x, y) :: rest => do
      let abscissa ← expecting (number .knotAbscissaNotNumeric) x.span x.evalLazily
      let ordinate ← expecting (number .knotOrdinateNotNumeric) y.span y.evalLazily
      let knots ← Table.evalLazily rest
      pure (⟨abscissa.toFloat, ordinate.toFloat, x.span⟩ :: knots)

end

/-- The value of an expression that has to be a condition. -/
def Expr.evalConditionLazily (expr : Expr) : Lazy Bool :=
  expecting (truth .notACondition) expr.span expr.evalLazily

namespace Sourced

/-- The values of expressions; an expression without a value is left out. -/
def ofExprsLazily : List Expr → Lazy (List Sourced)
  | [] => pure []
  | expr :: rest => do
      let value ← expr.evalLazily
      let others ← ofExprsLazily rest
      pure (if value.isEmpty then others else ⟨value, expr.span⟩ :: others)

/-- The value of an expression, with its span. -/
def ofExprLazily (expr : Expr) : Lazy Sourced := do
  let value ← expr.evalLazily
  pure ⟨value, expr.span⟩

end Sourced

namespace Initializer

/-- Assign to a variable. -/
def assignToLazily (target : Binding) : Initializer → Lazy Unit
  | list _ items => do
      let sources ← Sourced.ofExprsLazily items
      ofEval (Eval.change (target.assignList sources))
  | fill _ count value => do
      let number ← Sourced.ofExprLazily count
      let source ← Sourced.ofExprLazily value
      ofEval (Eval.change (target.assignCopies number source))
  | reference referred => do
      let source ← referred.bindLazily
      if ← ofEval (Eval.inspect target.isWholeVector) then
        ofEval (Eval.change (target.assignVector source))
      else
        let value ← ofEval (Sourced.ofBinding source)
        ofEval (Eval.change (target.assignScalar value))
  | expression expr => do
      let source ← Sourced.ofExprLazily expr
      ofEval (Eval.change (target.assignScalar source))

/-- Assign to a variable by a declaration, which must not mistake its kind. -/
def redeclareLazily (target : Binding) (initializer : Initializer) : Lazy Unit := do
  let isVector ← (·.isVector) <$> ofEval (Eval.setting target)
  match initializer, isVector with
  | expression expr, true => fail .scalarForVector expr.span
  | fill span _ _, false => fail .vectorForScalar span
  | _, _ => initializer.assignToLazily target

/-- The setting of a new variable, whose name stands at a span. -/
def newSettingLazily (nameSpan : Span) : Initializer → Lazy Setting
  | list _ items => do
      let sources ← Sourced.ofExprsLazily items
      ofExcept (Setting.ofItems nameSpan sources)
  | fill _ count value => do
      let number ← Sourced.ofExprLazily count
      let source ← Sourced.ofExprLazily value
      let count ← ofExcept (Count.ofValue number)
      ofExcept (Setting.ofCopies count source)
  | reference referred => do
      let source ← referred.bindLazily
      if ← ofEval (Eval.inspect source.isWholeVector) then
        let vector ← ofEval (Eval.setting source)
        ofExcept (Setting.ofVector source.span vector)
      else
        let value ← ofEval (Sourced.ofBinding source)
        ofExcept (Setting.ofValue value)
  | expression expr => do
      let source ← Sourced.ofExprLazily expr
      ofExcept (Setting.ofValue source)

end Initializer

/-- Declare a variable; one that is there already is assigned to. -/
def Declaration.runLazily (declaration : Declaration) : Lazy Unit := do
  let ⟨isGlobal, name, nameSpan, initializer⟩ := declaration
  match ← ofEval (Eval.inspect (State.declared? isGlobal name nameSpan)) with
  | some existing => initializer.redeclareLazily existing
  | none =>
      let setting ← initializer.newSettingLazily nameSpan
      ofEval (Eval.change fun _ state => .ok (state.storeVariable isGlobal name setting))

/-- The text that a bracket inserts. -/
def Bracket.textLazily (bracket : Bracket) : Lazy String :=
  fun layers memory =>
    match bracket.index with
    | none =>
        (plainText bracket.name bracket.nameSpan layers memory.extruder, memory)
    | some (index, indexSpan) =>
        (indexedText bracket.name bracket.nameSpan index indexSpan layers, memory)

/-- What the pieces of a template work on if no blocks are counted. -/
structure Draft where
  memory : Memory
  /-- The text that has been put out so far. -/
  output : String

/-- A lazy evaluation that works on a draft. -/
abbrev LazyRendering : Type → Type :=
  Evaluation Draft

namespace LazyRendering

variable {α : Type}

/-- Evaluate what puts no text out. -/
def quietly (evaluation : Lazy α) : LazyRendering α :=
  fun layers draft =>
    let (result, memory) := evaluation layers draft.memory
    (result, { draft with memory := memory })

/-- Put a text out. -/
def write (text : String) : LazyRendering Unit :=
  fun _ draft => (.ok (), { draft with output := draft.output ++ text })

end LazyRendering

open LazyRendering

mutual

/-- Render a piece. -/
def Piece.renderLazily : Piece → LazyRendering Unit
  | .text text => write text
  | .bracket bracket => do
      let text ← quietly bracket.textLazily
      write text
  | .expression expr => do
      let value ← quietly expr.evalLazily
      write value.text
  | .assign target initializer => quietly do
      let binding ← target.bindLazily
      initializer.assignToLazily binding
  | .declare declaration => quietly declaration.runLazily
  | .choose branches none => do
      let _ ← Branch.renderFirst branches
      pure ()
  | .choose branches (some otherwise) => do
      if ← Branch.renderFirst branches then
        pure ()
      else
        Piece.renderAllLazily otherwise

/-- Render pieces one after the other. -/
def Piece.renderAllLazily : List Piece → LazyRendering Unit
  | [] => pure ()
  | piece :: rest => do
      piece.renderLazily
      Piece.renderAllLazily rest

/-- Render the first branch whose condition holds; the result is whether there is one. -/
def Branch.renderFirst : List (Branch Piece) → LazyRendering Bool
  | [] => pure false
  | ⟨condition, body⟩ :: rest => do
      if ← quietly condition.evalConditionLazily then
        Piece.renderAllLazily body
        pure true
      else
        Branch.renderFirst rest

end

end GcodeTemplate
