import GcodeTemplate.Proofs.Rendering

/-!
# Blocks that are not taken

The count of blocks that are not taken goes up when such a block is entered and
down when it is left, with a fault or without.  So every evaluation leaves the
count that it found.  While the count is not zero nothing is evaluated at all:
whatever stands in a block that is not taken, it has no effect and no fault.
-/

namespace GcodeTemplate

open Evaluation
open State (SameFrame Writes)

namespace State

/-- Two states are in as many blocks that are not taken. -/
def SameDepth (before after : State) : Prop :=
  after.suppressed = before.suppressed

instance : IsPreorder State SameDepth where
  refl _ := rfl
  trans _ _ _ first second := Eq.trans second first

/-- No step of a rendering changes the count of blocks for good. -/
theorem allows_sameDepth (layers : Layers) : Allows layers SameDepth where
  frame := SameFrame.suppressed
  write := Writes.suppressed_eq
  block := suppressed_leave

theorem isSkipping_iff {state : State} :
    state.isSkipping ↔ 0 < state.suppressed := by
  simp [isSkipping, Nat.pos_iff_ne_zero]

/-- In a block that is not taken no other one is. -/
theorem isSkipping_enter
    {state : State}
    {active : Bool}
    (suppresses : state.suppresses active) :
    (state.enter active).isSkipping := by
  simp [isSkipping_iff, enter_eq, suppresses]

theorem suppresses_of_isSkipping
    {state : State}
    (skipping : state.isSkipping)
    (active : Bool) :
    state.suppresses active := by
  simp [suppresses, skipping]

theorem leave_enter
    (state : State)
    (active : Bool) :
    (state.enter active).leave state active = state := by
  simp [enter_eq, leave_eq]

/-- Without calls that have effects nothing changes at all. -/
theorem permits_eq (layers : Layers) :
    Permits layers Eq fun _ => False where
  switch _ _ := False.elim
  draw _ _ _ := False.elim
  block := by
    rintro state _ active rfl
    exact (leave_enter state active).symm

end State

variable {layers : Layers}

/-- Where all blocks are taken an evaluation goes ahead. -/
theorem Eval.unlessSkipping_of_active
    (evaluation : Eval Value)
    {state : State}
    (active : state.suppressed = 0) :
    Eval.unlessSkipping evaluation layers state = evaluation layers state := by
  rw [Eval.unlessSkipping, if_neg (by simp [State.isSkipping, active])]

/-- In a block that is not taken every expression is empty, and does nothing. -/
theorem Expr.eval_of_isSkipping
    (expr : Expr)
    {state : State}
    (skipping : state.isSkipping) :
    expr.eval layers state = (.ok .empty, state) := by
  rw [Expr.eval.eq_def, Eval.unlessSkipping, if_pos skipping]

theorem Expr.holds_of_isSkipping
    (condition : Expr)
    {page : Page}
    (skipping : page.state.isSkipping) :
    condition.holds layers page = (.ok false, page) := by
  rw [Expr.holds, if_pos skipping]

namespace Rendering

variable {α : Type}

theorem unlessSkipping_of_isSkipping
    (rendering : Rendering Unit)
    {page : Page}
    (skipping : page.state.isSkipping) :
    unlessSkipping rendering layers page = (.ok (), page) := by
  rw [unlessSkipping, if_pos skipping]

/-- A block in which nothing happens is not noticed from outside. -/
theorem within_of_silent
    {body : Rendering α}
    {active : Bool}
    {page : Page}
    {a : α}
    (suppresses : page.state.suppresses active)
    (silent : ∀ page : Page, page.state.isSkipping → body layers page = (.ok a, page)) :
    within active body layers page = (.ok a, page) := by
  have inside := silent { page with state := page.state.enter active }
    (State.isSkipping_enter suppresses)
  simp [within, inside, State.leave_enter]

end Rendering

open Rendering State

mutual

/-- In a block that is not taken a piece does nothing. -/
theorem Piece.render_of_isSkipping
    (piece : Piece)
    (page : Page)
    (skipping : page.state.isSkipping) :
    piece.render layers page = (.ok (), page) := by
  match piece with
  | .text text =>
      rw [Piece.render]
      exact unlessSkipping_of_isSkipping _ skipping
  | .bracket bracket =>
      rw [Piece.render]
      exact unlessSkipping_of_isSkipping _ skipping
  | .expression expr =>
      rw [Piece.render]
      exact unlessSkipping_of_isSkipping _ skipping
  | .assign target initializer =>
      rw [Piece.render]
      exact unlessSkipping_of_isSkipping _ skipping
  | .declare declaration =>
      rw [Piece.render]
      exact unlessSkipping_of_isSkipping _ skipping
  | .choose branches none =>
      rw [Piece.render, bind_of_ok (Branch.renderTaken_of_isSkipping false branches page skipping)]
      rfl
  | .choose branches (some otherwise) =>
      rw [Piece.render, bind_of_ok (Branch.renderTaken_of_isSkipping false branches page skipping)]
      exact within_of_silent (suppresses_of_isSkipping skipping _)
        (Piece.renderAll_of_isSkipping otherwise)

theorem Piece.renderAll_of_isSkipping
    (pieces : List Piece)
    (page : Page)
    (skipping : page.state.isSkipping) :
    Piece.renderAll pieces layers page = (.ok (), page) := by
  match pieces with
  | [] =>
      rw [Piece.renderAll]
      rfl
  | piece :: rest =>
      rw [Piece.renderAll, bind_of_ok (piece.render_of_isSkipping page skipping)]
      exact Piece.renderAll_of_isSkipping rest page skipping

/-- No branch of an if block is taken there. -/
theorem Branch.renderTaken_of_isSkipping
    (taken : Bool)
    (branches : List (Branch Piece))
    (page : Page)
    (skipping : page.state.isSkipping) :
    Branch.renderTaken taken branches layers page = (.ok taken, page) := by
  match branches with
  | [] =>
      rw [Branch.renderTaken]
      rfl
  | ⟨condition, body⟩ :: rest =>
      have asked :
          within (! taken) condition.holds layers page = (.ok false, page) :=
        within_of_silent (suppresses_of_isSkipping skipping _) fun _ inside =>
          condition.holds_of_isSkipping inside
      have passed :
          within false (Piece.renderAll body) layers page = (.ok (), page) :=
        within_of_silent (suppresses_of_isSkipping skipping _)
          (Piece.renderAll_of_isSkipping body)
      rw [Branch.renderTaken, bind_of_ok asked, bind_of_ok passed, Bool.or_false]
      exact Branch.renderTaken_of_isSkipping taken rest page skipping

end

/--
Every rendering and every expression leaves the count of blocks that are not
taken as it was, whatever the result; and while the count is not zero neither of
them has an effect or a fault.
-/
theorem suppression_balanced_and_silent (layers : Layers) :
    (∀ pieces page,
      (Piece.renderAll pieces layers page).2.state.suppressed = page.state.suppressed) ∧
    (∀ expr state,
      (Expr.eval expr layers state).2.suppressed = state.suppressed) ∧
    (∀ pieces page, 0 < page.state.suppressed →
      Piece.renderAll pieces layers page = (.ok (), page)) ∧
    (∀ expr state, 0 < state.suppressed →
      Expr.eval expr layers state = (.ok .empty, state)) := by
  refine ⟨?_, ?_, ?_, ?_⟩
  · intro pieces page
    exact (allows_sameDepth layers).keeps_renderAll pieces page
  · intro expr state
    exact (expr.eval_keepsFrame state).suppressed
  · intro pieces page deep
    exact Piece.renderAll_of_isSkipping pieces page (isSkipping_iff.2 deep)
  · intro expr state deep
    exact expr.eval_of_isSkipping (isSkipping_iff.2 deep)

/-- An unknown name is no fault in a block that is not taken, wherever it stands. -/
theorem unknown_name_silent_in_untaken_block :
    let unknown : Expr := .read {} ⟨"unknown", {}, none, {}⟩
    let pieces : List Piece :=
      [.text "M104",
        .expression (.call {} (.changeFilament unknown)),
        .assign ⟨"unknown", {}, none, {}⟩ (.list {} []),
        .choose [⟨unknown, [.expression unknown]⟩] none]
    let page : Page := ⟨{ suppressed := 1 }, "G28"⟩
    0 < page.state.suppressed ∧
      Piece.renderAll pieces { process := ∅ } page = (.ok (), page) ∧
      Expr.eval unknown { process := ∅ } page.state = (.ok .empty, page.state) := by
  intro unknown pieces page
  rcases suppression_balanced_and_silent { process := ∅ } with ⟨_, _, silent, empty⟩
  exact ⟨by decide, silent pieces page (by decide), empty unknown page.state (by decide)⟩

end GcodeTemplate
