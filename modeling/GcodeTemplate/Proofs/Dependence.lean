import GcodeTemplate.Proofs.Agreement
import GcodeTemplate.Proofs.SideBySide

/-!
# What evaluations depend on

Two runs of an expression in contexts that agree on its names come to the same result,
step by step: both find the same bindings, read the same values, draw the same numbers
and go over to the same extruders.
-/

namespace GcodeTemplate

open Evaluation Eval

namespace Twins

variable {twins : Twins} {σ α β : Type} {relation : σ → σ → Prop}

theorem respects_pure (a : α) :
    twins.Respects relation (pure a) :=
  runsAlike_pure a

theorem respects_fail (cause : Cause) (span : Span) :
    twins.Respects relation (fail cause span : Evaluation σ α) :=
  runsAlike_fail cause span

/-- What follows has to be looked at for those results only that there can be. -/
theorem Respects.bind
    {first : Evaluation σ α}
    {next : α → Evaluation σ β}
    (firstRespects : twins.Respects relation first)
    (nextRespects : ∀ a state after, first twins.layers state = (.ok a, after) →
      twins.Respects relation (next a)) :
    twins.Respects relation (first >>= next) :=
  RunsAlike.bind firstRespects nextRespects

theorem Respects.map
    {evaluation : Evaluation σ α}
    (respects : twins.Respects relation evaluation)
    (f : α → β) :
    twins.Respects relation (f <$> evaluation) :=
  RunsAlike.map respects f

namespace Coupled

variable {state there : State}

/-- What does not concern the dictionaries has to stay the same in both runs. -/
theorem ofDictionaries
    (coupled : twins.Coupled state there)
    {after thereAfter : State}
    (same : ∀ scope, after.dictionary? scope = state.dictionary? scope)
    (sameThere : ∀ scope, thereAfter.dictionary? scope = there.dictionary? scope)
    (extruder : thereAfter.extruder = after.extruder)
    (random : thereAfter.random? = after.random?)
    (suppressed : thereAfter.suppressed = after.suppressed) :
    twins.Coupled after thereAfter where
  agree := coupled.agree.ofDictionaries same sameThere extruder random suppressed
  untouched scope name outside := by
    rw [State.settingIn_of_dictionary? same]
    exact coupled.untouched scope name outside
  untouchedThere scope name outside := by
    rw [State.settingIn_of_dictionary? sameThere]
    exact coupled.untouchedThere scope name outside

/-- Both runs may write the same setting under a name that is mentioned. -/
theorem store
    (coupled : twins.Coupled state there)
    {key : String}
    (mentioned : key ∈ twins.names)
    (scope : Scope)
    (setting : Setting) :
    twins.Coupled (state.store scope key setting) (there.store scope key setting) where
  agree := coupled.agree.store scope key setting
  untouched target name outside := by
    have different : key ≠ name := fun same => outside (same ▸ mentioned)
    rw [State.settingIn_store_of_ne different]
    exact coupled.untouched target name outside
  untouchedThere target name outside := by
    have different : key ≠ name := fun same => outside (same ▸ mentioned)
    rw [State.settingIn_store_of_ne different]
    exact coupled.untouchedThere target name outside

theorem enter
    (coupled : twins.Coupled state there)
    (active : Bool) :
    twins.Coupled (state.enter active) (there.enter active) := by
  have suppressed := coupled.agree.suppressed
  have suppresses := coupled.agree.suppresses_eq active
  refine coupled.ofDictionaries (State.dictionary?_enter state active)
    (State.dictionary?_enter there active) ?_ ?_ ?_ <;>
    rw [State.enter_eq, State.enter_eq]
  · exact coupled.agree.extruder
  · exact coupled.agree.random
  · simp only [suppressed, suppresses]

theorem leave
    {before beforeThere : State}
    (coupled : twins.Coupled state there)
    (begun : twins.Coupled before beforeThere)
    (active : Bool) :
    twins.Coupled (state.leave before active) (there.leave beforeThere active) := by
  have suppressed := coupled.agree.suppressed
  have suppresses := begun.agree.suppresses_eq active
  refine coupled.ofDictionaries (State.dictionary?_leave state before active)
    (State.dictionary?_leave there beforeThere active) ?_ ?_ ?_ <;>
    rw [State.leave_eq, State.leave_eq]
  · exact coupled.agree.extruder
  · exact coupled.agree.random
  · simp only [suppressed, suppresses]

end Coupled

/-! ## Steps on a state -/

theorem respects_inspect
    {look : Layers → State → Except Fault α}
    (same : ∀ state there, AgreeOn twins.names twins.layers twins.other state there →
      look twins.other there = look twins.layers state) :
    twins.Respects twins.Coupled (inspect look) := by
  intro state there coupled
  exact ⟨same state there coupled.agree, coupled⟩

/-- A change that puts a setting under a mentioned name, which it makes of what is the same. -/
theorem respects_change
    {step : Layers → State → Except Fault State}
    (made : Layers → State → Except Fault Setting)
    {scope : Scope}
    {key : String}
    (mentioned : key ∈ twins.names)
    (writes : ∀ layers state, step layers state = state.store scope key <$> made layers state)
    (same : ∀ state there, AgreeOn twins.names twins.layers twins.other state there →
      made twins.other there = made twins.layers state) :
    twins.Respects twins.Coupled (change step) := by
  intro state there coupled
  simp only [change, writes, same state there coupled.agree]
  cases made twins.layers state with
  | error fault =>
      exact ⟨rfl, coupled⟩
  | ok setting =>
      exact ⟨rfl, coupled.store mentioned scope setting⟩

theorem respects_changeFilament
    (span : Span)
    (filament : Value) :
    twins.Respects twins.Coupled (changeFilament span filament) := by
  apply runsAlike_changeFilament
  intro state there extruder coupled
  refine coupled.ofDictionaries ?_ ?_ rfl coupled.agree.random coupled.agree.suppressed <;>
    exact fun scope => by cases scope <;> rfl

theorem respects_draw
    (span : Span)
    (low high : Value) :
    twins.Respects twins.Coupled (draw span low high) := by
  apply runsAlike_draw
  · exact fun _ _ coupled => coupled.agree.random
  · intro state there source after coupled present presentThere
    apply coupled.ofDictionaries (State.dictionary?_withRandom state after)
      (State.dictionary?_withRandom there after) coupled.agree.extruder ?_
      coupled.agree.suppressed
    rw [State.random?_withRandom present, State.random?_withRandom presentThere]

/-- The states that the two runs can be in at the same time are coupled. -/
theorem couples (twins : Twins) :
    State.Couples twins.layers twins.other twins.names twins.Coupled where
  suppressed coupled := coupled.agree.suppressed
  settings coupled mentioned scope := coupled.agree.settings scope _ mentioned
  read coupled mentioned := read_eq coupled.agree mentioned
  enter active coupled := coupled.enter active
  leave active coupled begun := coupled.leave begun active
  switch := respects_changeFilament
  draw := respects_draw

end Twins

/-! ## Expressions -/

open Twins

variable {twins : Twins}

/-- What comes after a binding may rely on its name. -/
theorem Reference.respects_bind_then
    {α : Type}
    {reference : Reference Expr}
    {next : Binding → Eval α}
    (bound : twins.Respects twins.Coupled reference.bind)
    (mentioned : reference.name ∈ twins.names)
    (respects : ∀ binding : Binding, binding.key ∈ twins.names →
      twins.Respects twins.Coupled (next binding)) :
    twins.Respects twins.Coupled (reference.bind >>= next) :=
  Reference.runsAlike_bind_then bound mentioned respects

/-- An expression depends on the names in it only. -/
theorem Expr.eval_respects
    (expr : Expr)
    (mentioned : ∀ name ∈ expr.names, name ∈ twins.names) :
    twins.Respects twins.Coupled expr.eval :=
  expr.eval_runsAlike twins.couples mentioned

/-- So does the binding of a variable. -/
theorem Reference.bind_respects
    (reference : Reference Expr)
    (mentioned : ∀ name ∈ reference.names, name ∈ twins.names) :
    twins.Respects twins.Coupled reference.bind :=
  reference.bind_runsAlike twins.couples mentioned

theorem Expr.evalCondition_respects
    (expr : Expr)
    (mentioned : ∀ name ∈ expr.names, name ∈ twins.names) :
    twins.Respects twins.Coupled expr.evalCondition :=
  expr.evalCondition_runsAlike twins.couples mentioned

end GcodeTemplate
