import GcodeTemplate.Proofs.Statement

/-!
# What a statement changes

An assignment that is carried out changes at most the variable that its target is
bound to, a declaration at most the variable of its name.  One that fails changes
no variable at all; only the extruder and the generator of random numbers may
have moved on with the expressions that were evaluated before the fault.
-/

namespace GcodeTemplate

open Evaluation Eval Rendering
open State (SameFrame Writes)

namespace State

theorem SameFrame.dictionary?_eq
    {before after : State}
    (same : SameFrame before after)
    (scope : Scope) :
    after.dictionary? scope = before.dictionary? scope := by
  cases scope <;>
    simp [dictionary?, same.outputs, same.globals?_eq, same.locals]

/--
All that two states may differ in, apart from the extruder and the generator of
random numbers, is the setting of one name in one layer.
-/
structure SameBut
    (layers : Layers)
    (scope : Scope)
    (name : String)
    (before after : State) : Prop where
  settings (other : Scope) (key : String) :
    ¬ (other = scope ∧ key = name) →
      settingIn layers after other key = settingIn layers before other key
  dictionaries (other : Scope) :
    (after.dictionary? other).isSome = (before.dictionary? other).isSome
  suppressed : after.suppressed = before.suppressed

theorem SameBut.ofWrite
    {layers : Layers}
    {scope : Scope}
    {name : String}
    {before ready after : State}
    (same : SameFrame before ready)
    (written : Writes layers scope name ready after) :
    SameBut layers scope name before after where
  settings other key elsewhere :=
    (written.settingIn_eq elsewhere).trans (same.settingIn_eq layers other key)
  dictionaries other := by
    rcases written.exists_store with ⟨_, setting, rfl⟩
    rw [dictionary?_store, ← same.dictionary?_eq]
    split <;> simp
  suppressed :=
    written.suppressed_eq.trans same.suppressed

end State

open State (SameBut)

/-- Outside of blocks that are not taken a statement is evaluated, and puts no text out. -/
theorem Rendering.unlessSkipping_quietly
    {layers : Layers}
    {evaluation : Eval Unit}
    {page : Page}
    (active : page.state.suppressed = 0) :
    unlessSkipping (quietly evaluation) layers page =
      ((evaluation layers page.state).1,
        ⟨(evaluation layers page.state).2, page.output⟩) := by
  simp [unlessSkipping, quietly, State.isSkipping, active]

/--
A statement that fails has changed no variable.  An assignment that succeeds has
changed at most the variable that its target is bound to, in a layer that can be
written; a declaration that succeeds at most the variable of its name, which is
there afterwards.
-/
theorem statement_atomic_and_local
    (layers : Layers)
    (page : Page)
    (active : page.state.suppressed = 0) :
    (∀ target initializer,
      match (Piece.assign target initializer).render layers page with
      | (.error _, after) =>
          SameFrame page.state after.state ∧ after.output = page.output
      | (.ok (), after) =>
          after.output = page.output ∧
            ∃ binding, (target.bind layers page.state).1 = .ok binding ∧
              binding.key = target.name ∧
              binding.scope.isWritable ∧
              SameBut layers binding.scope binding.key page.state after.state) ∧
    (∀ declaration : Declaration,
      match (Piece.declare declaration).render layers page with
      | (.error _, after) =>
          SameFrame page.state after.state ∧ after.output = page.output
      | (.ok (), after) =>
          after.output = page.output ∧
            (settingIn layers after.state (Scope.ofVariable declaration.isGlobal)
              declaration.name).isSome ∧
            SameBut layers (Scope.ofVariable declaration.isGlobal) declaration.name
              page.state after.state) := by
  constructor
  · intro target initializer
    rw [Piece.render, unlessSkipping_quietly active]
    have atomic := target.assign_atomic initializer layers page.state
    cases outcome : (target.bind >>= initializer.assignTo) layers page.state with
    | mk result after =>
        cases result with
        | error fault =>
            exact ⟨atomic.failed outcome, rfl⟩
        | ok _ =>
            rcases atomic.succeeded outcome with ⟨ready, same, binding, bound, written⟩
            have named : binding.key = target.name :=
              (Reference.bind_eq_ok (Prod.ext bound rfl)).1
            exact ⟨rfl, binding, bound, named, written.isWritable, .ofWrite same written⟩
  · intro declaration
    rw [Piece.render, unlessSkipping_quietly active]
    have atomic := declaration.run_atomic layers page.state
    cases outcome : declaration.run layers page.state with
    | mk result after =>
        cases result with
        | error fault =>
            exact ⟨atomic.failed outcome, rfl⟩
        | ok _ =>
            rcases atomic.succeeded outcome with ⟨ready, same, written⟩
            exact ⟨rfl, written.settingIn_isSome, .ofWrite same written⟩

/-- A list with one item of the wrong kind leaves the output as it was. -/
theorem output_unchanged_by_faulty_list :
    let speeds : Reference Expr := ⟨"speeds", {}, none, {}⟩
    let items : List Expr := [.literal {} (.int 2), .literal {} (.string "fast")]
    let page : Page := ⟨{ outputs := some (.ofList [("speeds", .ints [some 1])]) }, ""⟩
    let assigned := (Piece.assign speeds (.list {} items)).render { process := ∅ } page
    let declaration : Declaration := ⟨false, "x", {}, .list {} items⟩
    let declared := (Piece.declare declaration).render { process := ∅ } page
    page.state.suppressed = 0 ∧
      SameFrame page.state assigned.2.state ∧
      SameBut { process := ∅ } .localVariable "x" page.state declared.2.state := by
  intro speeds items page assigned declaration declared
  rcases statement_atomic_and_local { process := ∅ } page rfl with ⟨assigns, declares⟩
  have failed := assigns speeds (.list {} items)
  have succeeded := declares declaration
  exact ⟨rfl, failed.1, succeeded.2.2⟩

end GcodeTemplate
