import GcodeTemplate.Proofs.Statement

/-!
# Relations that renderings keep

A rendering goes on in steps that either leave all variables alone or write to
one of them, inside of blocks that it enters and leaves.  A preorder between
states that allows such steps holds between the first and the last state of
every rendering, whatever the pieces are and however it ends.
-/

namespace GcodeTemplate

open Evaluation Eval Rendering
open State (SameFrame Writes)

/-- A relation between states that allows what the steps of a rendering do. -/
structure State.Allows (layers : Layers) (relation : State → State → Prop) : Prop where
  frame {before after : State} :
    SameFrame before after → relation before after
  write {scope : Scope} {name : String} {before after : State} :
    Writes layers scope name before after → relation before after
  block {before after : State} {active : Bool} :
    relation (before.enter active) after → relation before (after.leave before active)

/-- Two pages whose states stand in a relation. -/
def Page.Lift (relation : State → State → Prop) (before after : Page) : Prop :=
  relation before.state after.state

section

variable {relation : State → State → Prop} [IsPreorder State relation]

instance : IsPreorder Page (Page.Lift relation) where
  refl page := refl page.state
  trans first second third := IsTrans.trans first.state second.state third.state

end

variable
  {α : Type}
  {layers : Layers}
  {relation : State → State → Prop}

namespace Rendering

theorem keeps_quietly
    {evaluation : Eval α}
    (keeps : evaluation.Keeps relation layers) :
    (quietly evaluation).Keeps (Page.Lift relation) layers := by
  intro page
  show relation page.state (evaluation layers page.state).2
  exact keeps page.state

theorem keeps_write
    [IsPreorder State relation]
    (text : String) :
    (write text).Keeps (Page.Lift relation) layers := by
  intro page
  exact refl page.state

theorem keeps_unlessSkipping
    [IsPreorder State relation]
    {rendering : Rendering Unit}
    (keeps : rendering.Keeps (Page.Lift relation) layers) :
    (unlessSkipping rendering).Keeps (Page.Lift relation) layers := by
  intro page
  unfold unlessSkipping
  split
  · exact refl page
  · exact keeps page

end Rendering

namespace State.Allows

theorem keeps_of_frame
    (allows : Allows layers relation)
    {evaluation : Eval α}
    (quiet : evaluation.Keeps SameFrame layers) :
    evaluation.Keeps relation layers := by
  intro state
  exact allows.frame (quiet state)

theorem keeps_within
    (allows : Allows layers relation)
    {body : Rendering α}
    (active : Bool)
    (keeps : body.Keeps (Page.Lift relation) layers) :
    (Rendering.within active body).Keeps (Page.Lift relation) layers := by
  intro page
  apply allows.block
  exact keeps { page with state := page.state.enter active }

variable [IsPreorder State relation]

section Steps

variable (allows : Allows layers relation)

include allows

/-- An atomic statement is allowed, whether it fails or makes its write. -/
theorem of_atomic
    {write : State → State → Prop}
    {evaluation : Eval Unit}
    {state : State}
    (atomic : Atomic write layers state evaluation)
    (writes : ∀ ready after, write ready after →
      ∃ scope name, Writes layers scope name ready after) :
    relation state (evaluation layers state).2 := by
  cases outcome : evaluation layers state with
  | mk result after =>
      cases result with
      | error fault =>
          exact allows.frame (atomic.failed outcome)
      | ok _ =>
          rcases atomic.succeeded outcome with ⟨ready, same, written⟩
          rcases writes ready after written with ⟨scope, name, written⟩
          exact IsTrans.trans _ _ _ (allows.frame same) (allows.write written)

theorem keeps_assign
    (target : Reference Expr)
    (initializer : Initializer) :
    (target.bind >>= initializer.assignTo).Keeps relation layers := by
  intro state
  refine allows.of_atomic (target.assign_atomic initializer layers state) ?_
  rintro ready after ⟨binding, _, written⟩
  exact ⟨_, _, written⟩

theorem keeps_declare (declaration : Declaration) :
    declaration.run.Keeps relation layers := by
  intro state
  refine allows.of_atomic (declaration.run_atomic layers state) ?_
  intro ready after written
  exact ⟨_, _, written⟩

theorem keeps_holds (condition : Expr) :
    condition.holds.Keeps (Page.Lift relation) layers := by
  intro page
  unfold Expr.holds
  split
  · exact refl page
  · exact keeps_quietly (allows.keeps_of_frame condition.evalCondition_keepsFrame) page

end Steps

mutual

/-- What its steps keep is kept by a piece. -/
theorem keeps_render
    (allows : Allows layers relation)
    (piece : Piece) :
    piece.render.Keeps (Page.Lift relation) layers := by
  match piece with
  | .text text =>
      rw [Piece.render]
      exact keeps_unlessSkipping (keeps_write text)
  | .bracket bracket =>
      rw [Piece.render]
      have looked : (inspect bracket.text).Keeps relation layers :=
        allows.keeps_of_frame (keeps_inspect bracket.text)
      exact keeps_unlessSkipping ((keeps_quietly looked).bind fun text =>
        keeps_write text)
  | .expression expr =>
      rw [Piece.render]
      have evaluated : expr.eval.Keeps relation layers :=
        allows.keeps_of_frame expr.eval_keepsFrame
      exact keeps_unlessSkipping ((keeps_quietly evaluated).bind fun value =>
        keeps_write value.text)
  | .assign target initializer =>
      rw [Piece.render]
      exact keeps_unlessSkipping (keeps_quietly (allows.keeps_assign target initializer))
  | .declare declaration =>
      rw [Piece.render]
      exact keeps_unlessSkipping (keeps_quietly (allows.keeps_declare declaration))
  | .choose branches none =>
      rw [Piece.render]
      exact (allows.keeps_renderTaken false branches).bind fun taken =>
        keeps_pure ()
  | .choose branches (some otherwise) =>
      rw [Piece.render]
      exact (allows.keeps_renderTaken false branches).bind fun taken =>
        allows.keeps_within _ (allows.keeps_renderAll otherwise)

/-- It is kept by pieces one after the other. -/
theorem keeps_renderAll
    (allows : Allows layers relation)
    (pieces : List Piece) :
    (Piece.renderAll pieces).Keeps (Page.Lift relation) layers := by
  match pieces with
  | [] =>
      rw [Piece.renderAll]
      exact keeps_pure ()
  | piece :: rest =>
      rw [Piece.renderAll]
      exact (allows.keeps_render piece).bind fun _ =>
        allows.keeps_renderAll rest

/-- It is kept by the branches of an if block, taken or not. -/
theorem keeps_renderTaken
    (allows : Allows layers relation)
    (taken : Bool)
    (branches : List (Branch Piece)) :
    (Branch.renderTaken taken branches).Keeps (Page.Lift relation) layers := by
  match branches with
  | [] =>
      rw [Branch.renderTaken]
      exact keeps_pure taken
  | ⟨condition, body⟩ :: rest =>
      rw [Branch.renderTaken]
      have asked := allows.keeps_within (! taken) (allows.keeps_holds condition)
      have bodyKeeps := allows.keeps_renderAll body
      exact asked.bind fun active =>
        (allows.keeps_within active bodyKeeps).bind fun _ =>
          allows.keeps_renderTaken (taken || active) rest

end

end State.Allows

end GcodeTemplate
