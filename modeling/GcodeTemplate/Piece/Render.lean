import GcodeTemplate.Bracket.Expand
import GcodeTemplate.Expr.Eval

/-!
# Rendering the pieces of a template

A piece puts text out or changes variables.  Every branch of an if block is gone
through, but those that are not taken as blocks in which nothing is done; after
one that is taken no condition is evaluated any more.
-/

namespace GcodeTemplate

open Eval

/-- The values of expressions; an expression without a value is left out. -/
def Sourced.ofExprs : List Expr → Eval (List Sourced)
  | [] => pure []
  | expr :: rest => do
      let value ← expr.eval
      let others ← ofExprs rest
      pure (if value.isEmpty then others else ⟨value, expr.span⟩ :: others)

/-- The value of an expression, with its span. -/
def Sourced.ofExpr (expr : Expr) : Eval Sourced := do
  let value ← expr.eval
  pure ⟨value, expr.span⟩

/-- The value that a reference reads, with its span. -/
def Sourced.ofBinding (source : Binding) : Eval Sourced := do
  let value ← read source
  pure ⟨value, source.span⟩

namespace Initializer

/-- Assign to a variable. -/
def assignTo (target : Binding) : Initializer → Eval Unit
  | list _ items => do
      let sources ← Sourced.ofExprs items
      change (target.assignList sources)
  | fill _ count value => do
      let number ← Sourced.ofExpr count
      let source ← Sourced.ofExpr value
      change (target.assignCopies number source)
  | reference referred => do
      let source ← referred.bind
      if ← inspect target.isWholeVector then
        change (target.assignVector source)
      else
        let value ← Sourced.ofBinding source
        change (target.assignScalar value)
  | expression expr => do
      let source ← Sourced.ofExpr expr
      change (target.assignScalar source)

/-- Assign to a variable by a declaration, which must not mistake its kind. -/
def redeclare (target : Binding) (initializer : Initializer) : Eval Unit := do
  let isVector ← (·.isVector) <$> setting target
  match initializer, isVector with
  | expression expr, true => Evaluation.fail .scalarForVector expr.span
  | fill span _ _, false => Evaluation.fail .vectorForScalar span
  | _, _ => initializer.assignTo target

/-- The setting of a new variable, whose name stands at a span. -/
def newSetting (nameSpan : Span) : Initializer → Eval Setting
  | list _ items => do
      let sources ← Sourced.ofExprs items
      Evaluation.ofExcept (Setting.ofItems nameSpan sources)
  | fill _ count value => do
      let number ← Sourced.ofExpr count
      let source ← Sourced.ofExpr value
      let count ← Evaluation.ofExcept (Count.ofValue number)
      Evaluation.ofExcept (Setting.ofCopies count source)
  | reference referred => do
      let source ← referred.bind
      if ← inspect source.isWholeVector then
        let vector ← setting source
        Evaluation.ofExcept (Setting.ofVector source.span vector)
      else
        let value ← Sourced.ofBinding source
        Evaluation.ofExcept (Setting.ofValue value)
  | expression expr => do
      let source ← Sourced.ofExpr expr
      Evaluation.ofExcept (Setting.ofValue source)

end Initializer

/-- Declare a variable; one that is there already is assigned to. -/
def Declaration.run (declaration : Declaration) : Eval Unit := do
  let ⟨isGlobal, name, nameSpan, initializer⟩ := declaration
  match ← inspect (State.declared? isGlobal name nameSpan) with
  | some existing => initializer.redeclare existing
  | none =>
      let setting ← initializer.newSetting nameSpan
      change fun _ state => .ok (state.storeVariable isGlobal name setting)

open Rendering

/-- Whether the condition of a branch holds; in a block that is not taken it does not. -/
def Expr.holds (condition : Expr) : Rendering Bool :=
  fun layers page =>
    if page.state.isSkipping then
      (.ok false, page)
    else
      quietly condition.evalCondition layers page

mutual

/-- Render a piece. -/
def Piece.render : Piece → Rendering Unit
  | .text text => unlessSkipping (write text)
  | .bracket bracket => unlessSkipping do
      let text ← quietly (inspect bracket.text)
      write text
  | .expression expr => unlessSkipping do
      let value ← quietly expr.eval
      write value.text
  | .assign target initializer => unlessSkipping <| quietly do
      let binding ← target.bind
      initializer.assignTo binding
  | .declare declaration => unlessSkipping (quietly declaration.run)
  | .choose branches none => do
      let _ ← Branch.renderTaken false branches
  | .choose branches (some otherwise) => do
      let taken ← Branch.renderTaken false branches
      within (! taken) (Piece.renderAll otherwise)

/-- Render pieces one after the other. -/
def Piece.renderAll : List Piece → Rendering Unit
  | [] => pure ()
  | piece :: rest => do
      piece.render
      Piece.renderAll rest

/--
Render the first branch whose condition holds, unless one was taken before; the
result is whether one has been taken.
-/
def Branch.renderTaken (taken : Bool) : List (Branch Piece) → Rendering Bool
  | [] => pure taken
  | ⟨condition, body⟩ :: rest => do
      let active ← within (! taken) condition.holds
      within active (Piece.renderAll body)
      Branch.renderTaken (taken || active) rest

end

end GcodeTemplate
