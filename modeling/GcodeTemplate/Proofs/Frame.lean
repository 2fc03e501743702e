import GcodeTemplate.Proofs.Effects

/-!
# What expressions leave as it is

The value of an expression may depend on every variable, but its evaluation
changes none.  It can go over to another extruder and draw random numbers; the
outputs, the global and the local variables stay as they are, and every block
that was entered is left again, also after a fault.
-/

namespace GcodeTemplate

namespace State

/-- Nothing differs between two states but the extruder and the generator of random numbers. -/
structure SameFrame (before after : State) : Prop where
  outputs : after.outputs = before.outputs
  globals : after.shared.map (·.globals) = before.shared.map (·.globals)
  locals : after.locals = before.locals
  suppressed : after.suppressed = before.suppressed

namespace SameFrame

instance : IsPreorder State SameFrame where
  refl _ := ⟨rfl, rfl, rfl, rfl⟩
  trans _ _ _ first second :=
    ⟨second.outputs.trans first.outputs,
      second.globals.trans first.globals,
      second.locals.trans first.locals,
      second.suppressed.trans first.suppressed⟩

theorem globals?_eq
    {before after : State}
    (same : SameFrame before after) :
    after.globals? = before.globals? := by
  have join (state : State) :
      state.globals? = (state.shared.map (·.globals)).join := by
    cases equality : state.shared <;> simp [State.globals?, equality]
  rw [join, join, same.globals]

/-- All layers have the same settings. -/
theorem settingIn_eq
    {before after : State}
    (same : SameFrame before after)
    (layers : Layers)
    (scope : Scope)
    (name : String) :
    settingIn layers after scope name = settingIn layers before scope name := by
  cases scope <;>
    simp [settingIn, same.outputs, same.globals?_eq, same.locals]

/-- Whatever prevents a declaration prevents it in both states. -/
theorem obstacle?_eq
    {before after : State}
    (same : SameFrame before after)
    (layers : Layers)
    (isGlobal : Bool)
    (name : String) :
    after.obstacle? layers isGlobal name = before.obstacle? layers isGlobal name := by
  simp [State.obstacle?, same.outputs, same.globals?_eq, same.locals]

theorem ofRandom
    (state : State)
    (random : RandomSource) :
    SameFrame state (state.withRandom random) where
  outputs := rfl
  globals := by cases shared : state.shared <;> simp [withRandom, shared]
  locals := rfl
  suppressed := rfl

theorem ofExtruder
    (state : State)
    (extruder : Nat) :
    SameFrame state { state with extruder := extruder } :=
  ⟨rfl, rfl, rfl, rfl⟩

end SameFrame

/-- What holds inside of a block holds around it as well. -/
theorem SameFrame.ofBlock
    {state after : State}
    {active : Bool}
    (same : SameFrame (state.enter active) after) :
    SameFrame state (after.leave state active) where
  outputs := by
    simpa [enter_eq, leave_eq] using same.outputs
  globals := by
    simpa [enter_eq, leave_eq] using same.globals
  locals := by
    simpa [enter_eq, leave_eq] using same.locals
  suppressed :=
    suppressed_leave same.suppressed

end State

namespace Eval

open Evaluation
open State (SameFrame)

variable {layers : Layers}

/-- Drawing a number puts at most another generator in place of the one that was there. -/
theorem keepsFrame_draw
    (span : Span)
    (low high : Value) :
    (draw span low high).Keeps SameFrame layers := by
  intro state
  unfold draw
  split
  · exact refl state
  · split
    · exact refl state
    · exact SameFrame.ofRandom state _

theorem keepsFrame_changeFilament
    (span : Span)
    (filament : Value) :
    (changeFilament span filament).Keeps SameFrame layers := by
  intro state
  unfold changeFilament
  dsimp only
  split
  · exact refl state
  · exact SameFrame.ofExtruder state _

end Eval

open Evaluation Eval
open State (SameFrame)

variable {layers : Layers}

/-- All calls leave the variables alone, and every block that is entered is left. -/
theorem State.permits_sameFrame (layers : Layers) :
    State.Permits layers SameFrame fun _ => True where
  switch span filament _ := keepsFrame_changeFilament span filament
  draw span low high _ := keepsFrame_draw span low high
  block := SameFrame.ofBlock

/-- An expression changes no variable, and leaves every block that it enters. -/
theorem Expr.eval_keepsFrame (expr : Expr) :
    expr.eval.Keeps SameFrame layers :=
  expr.eval_keeps (State.permits_sameFrame layers) fun _ _ => trivial

/-- So does the binding of a variable, whose index is an expression. -/
theorem Reference.bind_keepsFrame (reference : Reference Expr) :
    reference.bind.Keeps SameFrame layers :=
  reference.bind_keeps (State.permits_sameFrame layers) fun _ _ => trivial

theorem Expr.evalCondition_keepsFrame (expr : Expr) :
    expr.evalCondition.Keeps SameFrame layers :=
  keeps_expecting _ _ expr.eval_keepsFrame

end GcodeTemplate
