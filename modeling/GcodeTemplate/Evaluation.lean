import GcodeTemplate.Variable

/-!
# Evaluations

An evaluation reads the layers of a context and works on a state.  What it has
changed before a fault stays changed.  Expressions work on the state of the
context alone; the pieces of a template work on a page, which is that state and
the text that has been put out so far.
-/

namespace GcodeTemplate

/-- An evaluation that works on a `σ` and has an `α` as its result. -/
def Evaluation (σ α : Type) : Type :=
  Layers → σ → Except Fault α × σ

namespace Evaluation

variable {σ α β : Type}

instance : Monad (Evaluation σ) where
  pure a := fun _ state => (.ok a, state)
  bind first next := fun layers state =>
    match first layers state with
    | (.error fault, after) => (.error fault, after)
    | (.ok a, after) => next a layers after

@[simp]
theorem pure_apply (a : α) (layers : Layers) (state : σ) :
    (pure a : Evaluation σ α) layers state = (.ok a, state) :=
  rfl

/-- After a fault nothing more is evaluated. -/
theorem bind_of_error
    {first : Evaluation σ α}
    {next : α → Evaluation σ β}
    {layers : Layers}
    {state after : σ}
    {fault : Fault}
    (h : first layers state = (.error fault, after)) :
    (first >>= next) layers state = (.error fault, after) := by
  simp [bind, h]

/-- What follows goes on in the state that was left. -/
theorem bind_of_ok
    {first : Evaluation σ α}
    {next : α → Evaluation σ β}
    {layers : Layers}
    {state after : σ}
    {a : α}
    (h : first layers state = (.ok a, after)) :
    (first >>= next) layers state = next a layers after := by
  simp [bind, h]

/-- A sequence that has a result has gone through a state in between. -/
theorem bind_eq_ok
    {first : Evaluation σ α}
    {next : α → Evaluation σ β}
    {layers : Layers}
    {state after : σ}
    {b : β}
    (run : (first >>= next) layers state = (.ok b, after)) :
    ∃ a between, first layers state = (.ok a, between) ∧
      next a layers between = (.ok b, after) := by
  cases outcome : first layers state with
  | mk result between =>
      cases result with
      | error fault =>
          nomatch (bind_of_error outcome).symm.trans run
      | ok a =>
          exact ⟨a, between, rfl, (bind_of_ok outcome).symm.trans run⟩

instance : LawfulMonad (Evaluation σ) :=
  LawfulMonad.mk' _
    (fun evaluation => by
      funext layers state
      simp only [Functor.map]
      rcases evaluation layers state with ⟨_ | _, _⟩ <;> rfl)
    (fun _ _ => rfl)
    (fun evaluation next further => by
      funext layers state
      simp only [bind]
      rcases evaluation layers state with ⟨_ | _, _⟩ <;> rfl)

/-- Stop with a fault. -/
def fail (cause : Cause) (span : Span) : Evaluation σ α :=
  fun _ state => (.error ⟨cause, span⟩, state)

/-- Take over a result that was found without the state. -/
def ofExcept (result : Except Fault α) : Evaluation σ α :=
  fun _ state => (result, state)

/-- The layers of the context. -/
def layers : Evaluation σ Layers :=
  fun layers state => (.ok layers, state)

/-- The state. -/
def get : Evaluation σ σ :=
  fun _ state => (.ok state, state)

/-- Put another state in place of the state. -/
def set (state : σ) : Evaluation σ Unit :=
  fun _ _ => (.ok (), state)

end Evaluation

/-- An evaluation that works on the state of a context. -/
abbrev Eval : Type → Type :=
  Evaluation State

namespace State

/-- Whether a block is not taken: the one around it is not, or itself is inactive. -/
def suppresses (state : State) (active : Bool) : Bool :=
  state.isSkipping || ! active

/-- Enter a block. -/
def enter (state : State) (active : Bool) : State :=
  if state.suppresses active then
    { state with suppressed := state.suppressed + 1 }
  else
    state

/-- Leave a block that was entered in the state `before`. -/
def leave (state before : State) (active : Bool) : State :=
  if before.suppresses active then
    { state with suppressed := state.suppressed - 1 }
  else
    state

/-- Only the count of blocks changes on entering one. -/
theorem enter_eq (state : State) (active : Bool) :
    state.enter active =
      { state with
        suppressed := state.suppressed + if state.suppresses active then 1 else 0 } := by
  unfold enter
  split <;> rfl

/-- Only the count of blocks changes on leaving one. -/
theorem leave_eq (state before : State) (active : Bool) :
    state.leave before active =
      { state with
        suppressed := state.suppressed - if before.suppresses active then 1 else 0 } := by
  unfold leave
  split <;> rfl

/-- A block that leaves the count of blocks alone leaves it alone all around. -/
theorem suppressed_leave
    {state after : State}
    {active : Bool}
    (same : after.suppressed = (state.enter active).suppressed) :
    (after.leave state active).suppressed = state.suppressed := by
  simp [enter_eq, leave_eq] at same ⊢
  omega

end State

namespace Eval

variable {α : Type}

/-- Evaluate inside of a block, and leave it also after a fault. -/
def within (active : Bool) (body : Eval α) : Eval α :=
  fun layers state =>
    let (result, after) := body layers (state.enter active)
    (result, after.leave state active)

/-- In a block that is not taken nothing is evaluated, and the value is empty. -/
def unlessSkipping (evaluation : Eval Value) : Eval Value :=
  fun layers state =>
    if state.isSkipping then
      (.ok .empty, state)
    else
      evaluation layers state

/-- Look at the context without changing it. -/
def inspect (look : Layers → State → Except Fault α) : Eval α :=
  fun layers state => (look layers state, state)

/-- Change the state of the context, unless that fails. -/
def change (step : Layers → State → Except Fault State) : Eval Unit :=
  fun layers state =>
    match step layers state with
    | .error fault => (.error fault, state)
    | .ok changed => (.ok (), changed)

/-- The value of a binding. -/
def read (binding : Binding) : Eval Value :=
  inspect binding.read

/-- The setting of a binding. -/
def setting (binding : Binding) : Eval Setting :=
  inspect binding.setting

end Eval

/-- What the pieces of a template work on. -/
structure Page where
  state : State
  /-- The text that has been put out so far. -/
  output : String

/-- An evaluation that works on a page. -/
abbrev Rendering : Type → Type :=
  Evaluation Page

namespace Rendering

variable {α : Type}

/-- Evaluate what puts no text out. -/
def quietly (evaluation : Eval α) : Rendering α :=
  fun layers page =>
    let (result, state) := evaluation layers page.state
    (result, { page with state := state })

/-- Put a text out. -/
def write (text : String) : Rendering Unit :=
  fun _ page => (.ok (), { page with output := page.output ++ text })

/-- Render inside of a block, and leave it also after a fault. -/
def within (active : Bool) (body : Rendering α) : Rendering α :=
  fun layers page =>
    let (result, after) := body layers { page with state := page.state.enter active }
    (result, { after with state := after.state.leave page.state active })

/-- In a block that is not taken nothing is done. -/
def unlessSkipping (rendering : Rendering Unit) : Rendering Unit :=
  fun layers page =>
    if page.state.isSkipping then
      (.ok (), page)
    else
      rendering layers page

end Rendering

end GcodeTemplate
