import GcodeTemplate.Proofs.LazyExpressions

/-!
# Templates outside of blocks that are not taken

A rendering goes through all branches of an if block and counts the blocks that
it does not take; lazy evaluation goes only where it has to.  Begun outside of
all blocks that are not taken, both have the same result, put the same text out
and leave the same variables, extruder and generator of random numbers.
-/

namespace GcodeTemplate

open Evaluation Eval
open State (SameFrame SameDepth)

variable {layers : Layers}

/-! ## Statements -/

namespace Sourced

theorem ofExprs_refines (exprs : List Expr) :
    (ofExprs exprs).Refines Memory.state layers (ofExprsLazily exprs) := by
  induction exprs with
  | nil =>
      exact refines_pure []
  | cons expr rest ih =>
      exact expr.eval_refines.bind fun value =>
        ih.bind fun others =>
          refines_pure _

theorem ofExpr_refines (expr : Expr) :
    (ofExpr expr).Refines Memory.state layers (ofExprLazily expr) :=
  expr.eval_refines.bind fun _ =>
    refines_pure _

theorem ofBinding_refines (source : Binding) :
    (ofBinding source).Refines Memory.state layers (Lazy.ofEval (ofBinding source)) :=
  refines_of_frame (ofBinding_keepsFrame source)

end Sourced

/-- A change that leaves the count of blocks alone can do without it. -/
theorem Eval.refines_change
    {step : Layers → State → Except Fault State}
    (sameDepth : ∀ before after, step layers before = .ok after → SameDepth before after) :
    (change step).Refines Memory.state layers (Lazy.ofEval (change step)) := by
  apply refines_ofEval
  intro state
  unfold change
  split
  next =>
    exact refl state
  next after stepped =>
    exact sameDepth state after stepped

namespace Initializer

theorem assignTo_refines
    (target : Binding)
    (initializer : Initializer) :
    (initializer.assignTo target).Refines Memory.state layers
      (initializer.assignToLazily target) := by
  cases initializer with
  | list span items =>
      apply (Sourced.ofExprs_refines items).bind
      intro sources
      exact refines_change fun _ _ assigned =>
        (Binding.assignList_writes assigned).suppressed_eq
  | fill span count value =>
      apply (Sourced.ofExpr_refines count).bind
      intro number
      apply (Sourced.ofExpr_refines value).bind
      intro source
      exact refines_change fun _ _ assigned =>
        (Binding.assignCopies_writes assigned).suppressed_eq
  | reference referred =>
      apply referred.bind_refines.bind
      intro source
      apply (refines_inspect target.isWholeVector).bind
      intro whole
      cases whole with
      | true =>
          exact refines_change fun _ _ assigned =>
            (Binding.assignVector_writes assigned).suppressed_eq
      | false =>
          apply (Sourced.ofBinding_refines source).bind
          intro value
          exact refines_change fun _ _ assigned =>
            (Binding.assignScalar_writes assigned).suppressed_eq
  | expression expr =>
      apply (Sourced.ofExpr_refines expr).bind
      intro source
      exact refines_change fun _ _ assigned =>
        (Binding.assignScalar_writes assigned).suppressed_eq

theorem redeclare_refines
    (target : Binding)
    (initializer : Initializer) :
    (initializer.redeclare target).Refines Memory.state layers
      (initializer.redeclareLazily target) := by
  apply ((refines_inspect target.setting).map _).bind
  intro isVector
  cases initializer <;> cases isVector
  case expression.true => exact refines_fail _ _
  case fill.false => exact refines_fail _ _
  all_goals exact assignTo_refines target _

theorem newSetting_refines
    (nameSpan : Span)
    (initializer : Initializer) :
    (initializer.newSetting nameSpan).Refines Memory.state layers
      (initializer.newSettingLazily nameSpan) := by
  cases initializer with
  | list span items =>
      exact (Sourced.ofExprs_refines items).bind fun sources =>
        refines_ofExcept _
  | fill span count value =>
      exact (Sourced.ofExpr_refines count).bind fun number =>
        (Sourced.ofExpr_refines value).bind fun source =>
          (refines_ofExcept _).bind fun count =>
            refines_ofExcept _
  | reference referred =>
      apply referred.bind_refines.bind
      intro source
      apply (refines_inspect source.isWholeVector).bind
      intro whole
      cases whole with
      | true =>
          exact (refines_inspect source.setting).bind fun vector =>
            refines_ofExcept _
      | false =>
          exact (Sourced.ofBinding_refines source).bind fun value =>
            refines_ofExcept _
  | expression expr =>
      exact (Sourced.ofExpr_refines expr).bind fun source =>
        refines_ofExcept _

end Initializer

theorem Declaration.run_refines (declaration : Declaration) :
    declaration.run.Refines Memory.state layers declaration.runLazily := by
  rcases declaration with ⟨isGlobal, name, nameSpan, initializer⟩
  apply (refines_inspect _).bind
  intro existing
  cases existing with
  | some binding =>
      exact initializer.redeclare_refines binding
  | none =>
      apply (initializer.newSetting_refines nameSpan).bind
      intro setting
      apply refines_change
      intro before after stored
      cases stored
      exact State.suppressed_store before _ name setting

theorem Bracket.text_refines (bracket : Bracket) :
    (inspect bracket.text).Refines Memory.state layers bracket.textLazily := by
  intro memory
  rcases bracket with ⟨name, nameSpan, index, span⟩
  cases index <;> rfl

/-! ## Renderings -/

/-- The page with a draft, whose text is put out after what was there `before`. -/
def Draft.page (before : String) (draft : Draft) : Page :=
  ⟨draft.memory.state, before ++ draft.output⟩

open Rendering

namespace Rendering

variable {α : Type} {before : String}

theorem refines_quietly
    {evaluation : Eval α}
    {plain : Lazy α}
    (refines : evaluation.Refines Memory.state layers plain) :
    (quietly evaluation).Refines (Draft.page before) layers
      (LazyRendering.quietly plain) := by
  intro draft
  have same := refines draft.memory
  simp [quietly, LazyRendering.quietly, Draft.page, same]

theorem refines_write (text : String) :
    (write text).Refines (Draft.page before) layers (LazyRendering.write text) := by
  intro draft
  simp [write, LazyRendering.write, Draft.page, String.append_assoc]

theorem refines_unlessSkipping
    {rendering : Rendering Unit}
    {plain : LazyRendering Unit}
    (refines : rendering.Refines (Draft.page before) layers plain) :
    (unlessSkipping rendering).Refines (Draft.page before) layers plain := by
  intro draft
  show rendering layers (draft.page before) = _
  exact refines draft

theorem refines_within_true
    {body : Rendering α}
    {plain : LazyRendering α}
    (refines : body.Refines (Draft.page before) layers plain) :
    (within true body).Refines (Draft.page before) layers plain := by
  intro draft
  have active : (draft.page before).state.suppressed = 0 := rfl
  have inside := refines draft
  simp only [within, State.enter, State.leave, State.suppresses_of_active active,
    Bool.not_true, Bool.false_eq_true, if_false]
  exact inside

/-- Pieces in an inactive block do nothing. -/
theorem within_false
    (pieces : List Piece)
    (page : Page) :
    within false (Piece.renderAll pieces) layers page = (.ok (), page) :=
  within_of_silent page.state.suppresses_false (Piece.renderAll_of_isSkipping pieces)

end Rendering

theorem Expr.holds_refines
    (condition : Expr)
    {before : String} :
    condition.holds.Refines (Draft.page before) layers
      (LazyRendering.quietly condition.evalConditionLazily) := by
  intro draft
  show quietly condition.evalCondition layers (draft.page before) = _
  exact refines_quietly condition.evalCondition_refines draft

/-- After a branch that is taken the other ones make no difference. -/
theorem Branch.renderTaken_true
    (branches : List (Branch Piece))
    (page : Page) :
    Branch.renderTaken true branches layers page = (.ok true, page) := by
  induction branches with
  | nil =>
      rw [Branch.renderTaken]
      rfl
  | cons branch rest ih =>
      rcases branch with ⟨condition, body⟩
      have asked : within (! true) condition.holds layers page = (.ok false, page) :=
        within_of_silent page.state.suppresses_false fun _ inside =>
          condition.holds_of_isSkipping inside
      rw [Branch.renderTaken, bind_of_ok asked, bind_of_ok (Rendering.within_false body page)]
      exact ih

mutual

/-- A piece refines its lazy rendering. -/
theorem Piece.render_refines
    (piece : Piece)
    (before : String) :
    piece.render.Refines (Draft.page before) layers piece.renderLazily := by
  match piece with
  | .text text =>
      rw [Piece.render, Piece.renderLazily]
      exact refines_unlessSkipping (refines_write text)
  | .bracket bracket =>
      rw [Piece.render, Piece.renderLazily]
      have looked : (inspect bracket.text).Refines Memory.state layers bracket.textLazily :=
        bracket.text_refines
      exact refines_unlessSkipping ((refines_quietly looked).bind fun text =>
        refines_write text)
  | .expression expr =>
      rw [Piece.render, Piece.renderLazily]
      have evaluated : expr.eval.Refines Memory.state layers expr.evalLazily :=
        expr.eval_refines
      exact refines_unlessSkipping ((refines_quietly evaluated).bind fun value =>
        refines_write value.text)
  | .assign target initializer =>
      rw [Piece.render, Piece.renderLazily]
      have assigned :
          (target.bind >>= initializer.assignTo).Refines Memory.state layers
            (target.bindLazily >>= initializer.assignToLazily) :=
        target.bind_refines.bind fun binding =>
          initializer.assignTo_refines binding
      exact refines_unlessSkipping (refines_quietly assigned)
  | .declare declaration =>
      rw [Piece.render, Piece.renderLazily]
      exact refines_unlessSkipping (refines_quietly declaration.run_refines)
  | .choose branches none =>
      rw [Piece.render, Piece.renderLazily]
      exact (Branch.renderTaken_refines branches before).bind fun taken =>
        refines_pure ()
  | .choose branches (some otherwise) =>
      rw [Piece.render, Piece.renderLazily]
      apply (Branch.renderTaken_refines branches before).bind
      intro taken
      cases taken with
      | true =>
          intro draft
          exact Rendering.within_false otherwise (draft.page before)
      | false =>
          exact refines_within_true (Piece.renderAll_refines otherwise before)

theorem Piece.renderAll_refines
    (pieces : List Piece)
    (before : String) :
    (Piece.renderAll pieces).Refines (Draft.page before) layers
      (Piece.renderAllLazily pieces) := by
  match pieces with
  | [] =>
      rw [Piece.renderAll, Piece.renderAllLazily]
      exact refines_pure ()
  | piece :: rest =>
      rw [Piece.renderAll, Piece.renderAllLazily]
      exact (piece.render_refines before).bind fun _ =>
        Piece.renderAll_refines rest before

/-- Going through all branches amounts to going to the first one whose condition holds. -/
theorem Branch.renderTaken_refines
    (branches : List (Branch Piece))
    (before : String) :
    (Branch.renderTaken false branches).Refines (Draft.page before) layers
      (Branch.renderFirst branches) := by
  match branches with
  | [] =>
      rw [Branch.renderTaken, Branch.renderFirst]
      exact refines_pure false
  | ⟨condition, body⟩ :: rest =>
      rw [Branch.renderTaken, Branch.renderFirst]
      apply (refines_within_true condition.holds_refines).bind
      intro active
      cases active with
      | true =>
          apply (refines_within_true (Piece.renderAll_refines body before)).bind
          intro _ draft
          exact Branch.renderTaken_true rest (draft.page before)
      | false =>
          intro draft
          rw [bind_of_ok (Rendering.within_false body (draft.page before))]
          exact Branch.renderTaken_refines rest before draft

end

/--
Begun outside of all blocks that are not taken, after whatever text, a rendering
has the result of lazy rendering, appends the same text and leaves the same
outputs, variables, extruder and generator of random numbers.
-/
theorem rendering_refines_lazy_rendering
    (layers : Layers)
    (pieces : List Piece)
    (page : Page)
    (active : page.state.suppressed = 0) :
    let (result, draft) := Piece.renderAllLazily pieces layers ⟨page.state.memory, ""⟩
    Piece.renderAll pieces layers page =
      (result, ⟨draft.memory.state, page.output ++ draft.output⟩) := by
  have begun : Draft.page page.output ⟨page.state.memory, ""⟩ = page := by
    simp [Draft.page, State.state_memory active]
  have refines : (Piece.renderAll pieces).Refines (Draft.page page.output) layers
      (Piece.renderAllLazily pieces) :=
    Piece.renderAll_refines pieces page.output
  have same := refines ⟨page.state.memory, ""⟩
  rw [begun] at same
  exact same

/-- Behind a branch that is taken neither a condition nor a body makes a fault. -/
theorem rendering_behind_taken_branch :
    let unknown : Expr := .read {} ⟨"unknown", {}, none, {}⟩
    let pieces : List Piece :=
      [.choose
        [⟨.literal {} (.bool true), [.text "S200"]⟩, ⟨unknown, [.expression unknown]⟩]
        (some [.declare ⟨false, "x", {}, .expression unknown⟩])]
    let page : Page := ⟨{}, "M104 "⟩
    page.state.suppressed = 0 ∧
      Piece.renderAll pieces { process := ∅ } page = (.ok (), ⟨{}, "M104 S200"⟩) := by
  intro unknown pieces page
  exact ⟨rfl, rendering_refines_lazy_rendering { process := ∅ } pieces page rfl⟩

end GcodeTemplate
