import GcodeTemplate.Proofs.Rendering

/-!
# The moments of a rendering

A rendering can be recorded: besides its result there is then the list of the
states that it went through, one after every piece and every condition, and one
on entering and on leaving every block.  The record ends where the rendering
ends, at a fault or with the last piece.  What relates every state of a record to
the next one relates all earlier moments to all later ones if it is transitive.
-/

namespace GcodeTemplate

open Evaluation Rendering
open State (SameFrame Writes)

/-! ## Recording -/

/-- A rendering and the states that it goes through after the first one. -/
def Recording (α : Type) : Type :=
  Layers → Page → (Except Fault α × Page) × List State

namespace Recording

variable {α β : Type}

instance : Monad Recording where
  pure a := fun _ page => ((.ok a, page), [])
  bind first next := fun layers page =>
    match first layers page with
    | ((.error fault, after), record) => ((.error fault, after), record)
    | ((.ok a, after), record) =>
        let (outcome, further) := next a layers after
        (outcome, record ++ further)

/-- A step, after which the state is recorded. -/
def ofRendering (rendering : Rendering α) : Recording α :=
  fun layers page =>
    let outcome := rendering layers page
    (outcome, [outcome.2.state])

/-- Record what goes on inside of a block, from its entry until it has been left. -/
def within (active : Bool) (body : Recording α) : Recording α :=
  fun layers page =>
    let entered := page.state.enter active
    let ((result, after), record) := body layers { page with state := entered }
    let left := after.state.leave page.state active
    ((result, { after with state := left }), entered :: (record ++ [left]))

end Recording

open Recording

mutual

/-- Record the rendering of a piece. -/
def Piece.record : Piece → Recording Unit
  | .choose branches none => do
      let _ ← Branch.recordTaken false branches
      pure ()
  | .choose branches (some otherwise) => do
      let taken ← Branch.recordTaken false branches
      within (! taken) (Piece.recordAll otherwise)
  | piece => ofRendering piece.render

/-- Record the rendering of pieces one after the other. -/
def Piece.recordAll : List Piece → Recording Unit
  | [] => pure ()
  | piece :: rest => do
      piece.record
      Piece.recordAll rest

/-- Record the rendering of the branches of an if block. -/
def Branch.recordTaken (taken : Bool) : List (Branch Piece) → Recording Bool
  | [] => pure taken
  | ⟨condition, body⟩ :: rest => do
      let active ← within (! taken) (ofRendering condition.holds)
      within active (Piece.recordAll body)
      Branch.recordTaken (taken || active) rest

end

/-! ## Records -/

/-- A record leads from one state to another one if every state in it is one step further. -/
inductive State.Leads (step : State → State → Prop) :
    State → List State → State → Prop where
  | done (state : State) :
      Leads step state [] state
  | onward {first next last : State} {record : List State} :
      step first next → Leads step next record last → Leads step first (next :: record) last

namespace State.Leads

variable
  {step : State → State → Prop}
  {first between last : State}
  {record further : List State}

theorem single (stepped : step first last) :
    Leads step first [last] last :=
  .onward stepped (.done last)

theorem append
    (start : Leads step first record between)
    (goesOn : Leads step between further last) :
    Leads step first (record ++ further) last := by
  induction start with
  | done state =>
      exact goesOn
  | onward stepped _ ih =>
      exact .onward stepped (ih goesOn)

/-- A record ends in the last state. -/
theorem getLast?_eq (leads : Leads step first record last) :
    (first :: record).getLast? = some last := by
  induction leads with
  | done state =>
      rfl
  | onward _ _ ih =>
      rw [List.getLast?_cons_cons]
      exact ih

/-- The states of a record are related to each other as the steps between them are. -/
theorem pairwise
    [IsTrans State step]
    (leads : Leads step first record last) :
    (first :: record).Pairwise step := by
  induction leads with
  | done state =>
      exact List.pairwise_singleton step state
  | onward stepped _ ih =>
      refine List.pairwise_cons.2 ⟨?_, ih⟩
      intro state member
      rcases List.mem_cons.1 member with rfl | later
      · exact stepped
      · exact IsTrans.trans _ _ _ stepped ((List.pairwise_cons.1 ih).1 state later)

end State.Leads

/--
A recording has the result of a rendering, and its record leads to the state that
the rendering leaves.
-/
def Recording.Records
    {α : Type}
    (step : State → State → Prop)
    (layers : Layers)
    (recording : Recording α)
    (rendering : Rendering α) : Prop :=
  ∀ page, (recording layers page).1 = rendering layers page ∧
    State.Leads step page.state (recording layers page).2 (rendering layers page).2.state

namespace Recording

variable {α β : Type} {step : State → State → Prop} {layers : Layers}

theorem records_pure (a : α) :
    Records step layers (pure a) (pure a) := by
  intro page
  exact ⟨rfl, .done page.state⟩

theorem records_ofRendering
    {rendering : Rendering α}
    (keeps : rendering.Keeps (Page.Lift step) layers) :
    Records step layers (ofRendering rendering) rendering := by
  intro page
  exact ⟨rfl, .single (keeps page)⟩

/-- One rendering after the other has the one record after the other. -/
theorem Records.bind
    {first : Recording α}
    {rendering : Rendering α}
    {next : α → Recording β}
    {following : α → Rendering β}
    (firstRecords : Records step layers first rendering)
    (nextRecords : ∀ a, Records step layers (next a) (following a)) :
    Records step layers (first >>= next) (rendering >>= following) := by
  intro page
  rcases firstRecords page with ⟨same, leads⟩
  cases outcome : first layers page with
  | mk result record =>
      rw [outcome] at same leads
      rcases result with ⟨result, after⟩
      have rendered : rendering layers page = (result, after) := same.symm
      rw [rendered] at leads
      cases result with
      | error fault =>
          rw [bind_of_error rendered]
          simp only [Bind.bind, outcome]
          exact ⟨trivial, leads⟩
      | ok a =>
          rw [bind_of_ok rendered]
          simp only [Bind.bind, outcome]
          exact ⟨(nextRecords a after).1, leads.append (nextRecords a after).2⟩

end Recording

/-- A relation between states that allows every single step of a rendering. -/
structure State.AllowsSteps (layers : Layers) (step : State → State → Prop) : Prop where
  frame {before after : State} :
    SameFrame before after → step before after
  write {scope : Scope} {name : String} {before after : State} :
    Writes layers scope name before after → step before after
  enter (state : State) (active : Bool) :
    step state (state.enter active)
  leave (state before : State) (active : Bool) :
    step state (state.leave before active)

/-- What is said about the settings in the layers alone holds around blocks if it does inside. -/
theorem State.AllowsSteps.ofSettings
    {layers : Layers}
    {step : State → State → Prop}
    (unchanged : ∀ before after,
      (∀ scope name, settingIn layers after scope name = settingIn layers before scope name) →
        step before after)
    (write : ∀ scope name before after,
      Writes layers scope name before after → step before after) :
    AllowsSteps layers step where
  frame same :=
    unchanged _ _ (same.settingIn_eq layers)
  write written :=
    write _ _ _ _ written
  enter state active := by
    apply unchanged
    intro scope name
    rw [enter_eq]
    cases scope <;> rfl
  leave state before active := by
    apply unchanged
    intro scope name
    rw [leave_eq]
    cases scope <;> rfl

namespace State.AllowsSteps

variable
  {α : Type}
  {layers : Layers}
  {step : State → State → Prop}

/-- A block may be entered and left at any moment. -/
theorem records_within
    (allows : AllowsSteps layers step)
    {body : Recording α}
    {rendering : Rendering α}
    (active : Bool)
    (records : Records step layers body rendering) :
    Records step layers (Recording.within active body) (Rendering.within active rendering) := by
  intro page
  rcases records { page with state := page.state.enter active } with ⟨same, leads⟩
  simp only [Recording.within, Rendering.within, ← same]
  rw [← same] at leads
  exact ⟨trivial, .onward (allows.enter _ _) (leads.append (.single (allows.leave _ _ _)))⟩

theorem toAllows
    [IsPreorder State step]
    (allows : AllowsSteps layers step) :
    Allows layers step where
  frame := allows.frame
  write := allows.write
  block inside :=
    IsTrans.trans _ _ _ (allows.enter _ _) (IsTrans.trans _ _ _ inside (allows.leave _ _ _))

mutual

/-- Recording a piece renders it, and the record leads from its first state to its last one. -/
theorem records_render
    [IsPreorder State step]
    (allows : AllowsSteps layers step)
    (piece : Piece) :
    Records step layers piece.record piece.render := by
  match piece with
  | .text text =>
      exact records_ofRendering (allows.toAllows.keeps_render _)
  | .bracket bracket =>
      exact records_ofRendering (allows.toAllows.keeps_render _)
  | .expression expr =>
      exact records_ofRendering (allows.toAllows.keeps_render _)
  | .assign target initializer =>
      exact records_ofRendering (allows.toAllows.keeps_render _)
  | .declare declaration =>
      exact records_ofRendering (allows.toAllows.keeps_render _)
  | .choose branches none =>
      rw [Piece.record, Piece.render]
      exact (allows.records_renderTaken false branches).bind fun taken =>
        records_pure ()
  | .choose branches (some otherwise) =>
      rw [Piece.record, Piece.render]
      exact (allows.records_renderTaken false branches).bind fun taken =>
        allows.records_within _ (allows.records_renderAll otherwise)

theorem records_renderAll
    [IsPreorder State step]
    (allows : AllowsSteps layers step)
    (pieces : List Piece) :
    Records step layers (Piece.recordAll pieces) (Piece.renderAll pieces) := by
  match pieces with
  | [] =>
      rw [Piece.recordAll, Piece.renderAll]
      exact records_pure ()
  | piece :: rest =>
      rw [Piece.recordAll, Piece.renderAll]
      exact (allows.records_render piece).bind fun _ =>
        allows.records_renderAll rest

theorem records_renderTaken
    [IsPreorder State step]
    (allows : AllowsSteps layers step)
    (taken : Bool)
    (branches : List (Branch Piece)) :
    Records step layers (Branch.recordTaken taken branches)
      (Branch.renderTaken taken branches) := by
  match branches with
  | [] =>
      rw [Branch.recordTaken, Branch.renderTaken]
      exact records_pure taken
  | ⟨condition, body⟩ :: rest =>
      rw [Branch.recordTaken, Branch.renderTaken]
      have asked := records_ofRendering (allows.toAllows.keeps_holds condition)
      have bodyRecords := allows.records_renderAll body
      exact (allows.records_within (! taken) asked).bind fun active =>
        (allows.records_within active bodyRecords).bind fun _ =>
          allows.records_renderTaken (taken || active) rest

end

end State.AllowsSteps

end GcodeTemplate
