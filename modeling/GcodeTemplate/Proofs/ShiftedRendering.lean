import GcodeTemplate.Proofs.ShiftedEvaluation

/-!
# Rendering what stands further behind

Pieces whose spans are shifted, rendered on a page that has text already, change the
state in the same way and put the same text out behind what is there.
-/

namespace GcodeTemplate

open Evaluation Eval Rendering

variable {offset : Nat}

namespace Sourced

theorem ofExprs_shifts (exprs : List Expr) :
    Shifts offset id (List.map (Sourced.shift offset)) (ofExprs exprs)
      (ofExprs (exprs.map (Expr.mapSpans (Span.shift offset)))) := by
  induction exprs with
  | nil => exact shifts_pure []
  | cons expr rest ih =>
      simp only [List.map_cons, ofExprs, Expr.span_mapSpans]
      refine expr.eval_shifts.bind fun value => ih.bind fun others => ?_
      cases empty : value.isEmpty with
      | true =>
          simp only [id, empty, if_true]
          exact shifts_pure others
      | false =>
          simp only [id, empty, Bool.false_eq_true, if_false]
          exact shifts_pure (Sourced.mk value expr.span :: others)

theorem ofExpr_shifts (expr : Expr) :
    Shifts offset id (Sourced.shift offset) (ofExpr expr)
      (ofExpr (expr.mapSpans (Span.shift offset))) := by
  simp only [ofExpr, Expr.span_mapSpans]
  exact expr.eval_shifts.bind fun value => shifts_pure (Sourced.mk value expr.span)

theorem ofBinding_shifts (source : Binding) :
    Shifts offset id (Sourced.shift offset) (ofBinding source)
      (ofBinding (source.shift offset)) :=
  (shifts_look fun layers state => source.read_shift offset layers state).bind fun value =>
    shifts_pure (Sourced.mk value source.span)

end Sourced

namespace Initializer

theorem assignTo_shifts (target : Binding) (initializer : Initializer) :
    Shifts offset id id (initializer.assignTo target)
      ((initializer.mapSpans (Span.shift offset)).assignTo (target.shift offset)) := by
  cases initializer with
  | list span items =>
      refine (Sourced.ofExprs_shifts items).bind fun sources => ?_
      exact shifts_change fun layers state =>
        target.assignList_shift offset layers state sources
  | fill span count value =>
      refine (Sourced.ofExpr_shifts count).bind fun number => ?_
      refine (Sourced.ofExpr_shifts value).bind fun source => ?_
      exact shifts_change fun layers state =>
        target.assignCopies_shift offset layers state source number
  | reference referred =>
      refine referred.bind_shifts.bind fun source => ?_
      refine (shifts_look fun layers state =>
        target.isWholeVector_shift offset layers state).bind fun whole => ?_
      cases whole with
      | true =>
          exact shifts_change fun layers state =>
            target.assignVector_shift offset layers state source
      | false =>
          refine (Sourced.ofBinding_shifts source).bind fun value => ?_
          exact shifts_change fun layers state =>
            target.assignScalar_shift offset layers state value
  | expression expr =>
      refine (Sourced.ofExpr_shifts expr).bind fun source => ?_
      exact shifts_change fun layers state =>
        target.assignScalar_shift offset layers state source

theorem redeclare_shifts (target : Binding) (initializer : Initializer) :
    Shifts offset id id (initializer.redeclare target)
      ((initializer.mapSpans (Span.shift offset)).redeclare (target.shift offset)) := by
  have looked :
      Shifts offset id id (setting target) (setting (target.shift offset)) :=
    shifts_look fun layers state => target.setting_shift offset layers state
  refine Shifts.bind (f := id) (looked.map fun _ => rfl) fun isVector => ?_
  cases initializer <;> cases isVector
  case expression.true expr =>
    simp only [mapSpans, id, Expr.span_mapSpans]
    exact shifts_fail _ _
  case fill.false => exact shifts_fail _ _
  all_goals exact assignTo_shifts target _

theorem newSetting_shifts (nameSpan : Span) (initializer : Initializer) :
    Shifts offset id id (initializer.newSetting nameSpan)
      ((initializer.mapSpans (Span.shift offset)).newSetting (nameSpan.shift offset)) := by
  cases initializer with
  | list span items =>
      refine (Sourced.ofExprs_shifts items).bind fun sources => shifts_ofExcept ?_
      rw [id_map]
      exact Setting.ofItems_shift offset nameSpan sources
  | fill span count value =>
      refine (Sourced.ofExpr_shifts count).bind fun number => ?_
      refine (Sourced.ofExpr_shifts value).bind fun source => ?_
      refine (shifts_ofExcept (Count.ofValue_shift offset number)).bind fun count => ?_
      refine shifts_ofExcept ?_
      rw [id_map]
      exact Setting.ofCopies_shift offset source count
  | reference referred =>
      refine referred.bind_shifts.bind fun source => ?_
      refine (shifts_look fun layers state =>
        source.isWholeVector_shift offset layers state).bind fun whole => ?_
      cases whole with
      | true =>
          refine (shifts_look fun layers state =>
            source.setting_shift offset layers state).bind fun vector => shifts_ofExcept ?_
          rw [id_map]
          exact Setting.ofVector_shift offset vector source.span
      | false =>
          refine (Sourced.ofBinding_shifts source).bind fun value => shifts_ofExcept ?_
          rw [id_map]
          exact Setting.ofValue_shift offset value
  | expression expr =>
      refine (Sourced.ofExpr_shifts expr).bind fun source => shifts_ofExcept ?_
      rw [id_map]
      exact Setting.ofValue_shift offset source

end Initializer

theorem Declaration.run_shifts (declaration : Declaration) :
    Shifts offset id id declaration.run
      (declaration.mapSpans (Span.shift offset)).run := by
  rcases declaration with ⟨isGlobal, name, nameSpan, initializer⟩
  refine (shifts_inspect fun layers state =>
    State.declared?_shift offset isGlobal name nameSpan layers state).bind fun existing => ?_
  cases existing with
  | some binding => exact initializer.redeclare_shifts binding
  | none =>
      refine (initializer.newSetting_shifts nameSpan).bind fun setting => ?_
      exact shifts_change fun layers state => rfl

/-- The same page with more text in front. -/
def Page.behind (before : String) (page : Page) : Page :=
  { page with output := before ++ page.output }

variable {before : String}

namespace Rendering

variable {α : Type} {f : α → α}

theorem shifts_quietly
    {evaluation there : Eval α}
    (shifts : Evaluation.Shifts offset id f evaluation there) :
    Evaluation.Shifts offset (Page.behind before) f (quietly evaluation) (quietly there) := by
  intro layers page
  have inside := shifts layers page.state
  simp only [id] at inside
  simp only [quietly, Page.behind, inside]

theorem shifts_write (text : String) :
    Evaluation.Shifts offset (Page.behind before) id (write text) (write text) := by
  intro layers page
  simp only [write, Page.behind, String.append_assoc]
  rfl

theorem shifts_within
    {body there : Rendering α}
    (active : Bool)
    (shifts : Evaluation.Shifts offset (Page.behind before) f body there) :
    Evaluation.Shifts offset (Page.behind before) f (within active body)
      (within active there) := by
  intro layers page
  have inside := shifts layers { page with state := page.state.enter active }
  simp only [Page.behind] at inside
  simp only [within, Page.behind, inside]

theorem shifts_unlessSkipping
    {rendering there : Rendering Unit}
    (shifts : Evaluation.Shifts offset (Page.behind before) id rendering there) :
    Evaluation.Shifts offset (Page.behind before) id (unlessSkipping rendering)
      (unlessSkipping there) := by
  intro layers page
  cases skipping : page.state.isSkipping with
  | true =>
      simp only [unlessSkipping, Page.behind, skipping, if_true]
      rfl
  | false =>
      simpa only [unlessSkipping, Page.behind, skipping, Bool.false_eq_true, if_false] using
        shifts layers page

end Rendering

theorem Expr.holds_shifts (condition : Expr) :
    Shifts offset (Page.behind before) id condition.holds
      (condition.mapSpans (Span.shift offset)).holds := by
  intro layers page
  cases skipping : page.state.isSkipping with
  | true =>
      simp only [Expr.holds, Page.behind, skipping, if_true]
      rfl
  | false =>
      simpa only [Expr.holds, Page.behind, skipping, Bool.false_eq_true, if_false] using
        shifts_quietly condition.evalCondition_shifts layers page

mutual

/-- A piece that stands further behind puts the same text out. -/
theorem Piece.render_shifts (piece : Piece) :
    Shifts offset (Page.behind before) id piece.render
      (piece.mapSpans (Span.shift offset)).render := by
  match piece with
  | .text text =>
      rw [Piece.mapSpans, Piece.render]
      exact Rendering.shifts_unlessSkipping (shifts_write text)
  | .bracket bracket =>
      rw [Piece.mapSpans, Piece.render, Piece.render]
      have looked :
          Shifts offset id id (inspect bracket.text)
            (inspect (bracket.mapSpans (Span.shift offset)).text) :=
        shifts_look fun layers state => bracket.text_shift offset layers state
      exact Rendering.shifts_unlessSkipping ((shifts_quietly looked).bind fun text =>
        shifts_write text)
  | .expression expr =>
      rw [Piece.mapSpans, Piece.render, Piece.render]
      exact Rendering.shifts_unlessSkipping ((shifts_quietly expr.eval_shifts).bind fun value =>
        shifts_write value.text)
  | .assign target initializer =>
      rw [Piece.mapSpans, Piece.render, Piece.render]
      exact Rendering.shifts_unlessSkipping (shifts_quietly (target.bind_shifts.bind fun binding =>
        initializer.assignTo_shifts binding))
  | .declare declaration =>
      rw [Piece.mapSpans, Piece.render, Piece.render]
      exact Rendering.shifts_unlessSkipping (shifts_quietly declaration.run_shifts)
  | .choose branches none =>
      rw [Piece.mapSpans, Piece.render, Piece.render]
      exact (Branch.renderTaken_shifts false branches).bind fun taken => shifts_pure ()
  | .choose branches (some otherwise) =>
      rw [Piece.mapSpans, Piece.render, Piece.render]
      exact (Branch.renderTaken_shifts false branches).bind fun taken =>
        Rendering.shifts_within _ (Piece.renderAll_shifts otherwise)

/-- So do pieces one after the other. -/
theorem Piece.renderAll_shifts (pieces : List Piece) :
    Shifts offset (Page.behind before) id (Piece.renderAll pieces)
      (Piece.renderAll (Piece.mapAllSpans (Span.shift offset) pieces)) := by
  match pieces with
  | [] =>
      rw [Piece.mapAllSpans, Piece.renderAll]
      exact shifts_pure ()
  | piece :: rest =>
      rw [Piece.mapAllSpans, Piece.renderAll, Piece.renderAll]
      exact (Piece.render_shifts piece).bind fun _ => Piece.renderAll_shifts rest

/-- So do the branches of an if block, and the same one is taken. -/
theorem Branch.renderTaken_shifts (taken : Bool) (branches : List (Branch Piece)) :
    Shifts offset (Page.behind before) id (Branch.renderTaken taken branches)
      (Branch.renderTaken taken (Branch.mapAllSpans (Span.shift offset) branches)) := by
  match branches with
  | [] =>
      rw [Branch.mapAllSpans, Branch.renderTaken]
      exact shifts_pure taken
  | ⟨condition, body⟩ :: rest =>
      rw [Branch.mapAllSpans, Branch.renderTaken, Branch.renderTaken]
      refine (Rendering.shifts_within (! taken) condition.holds_shifts).bind fun active => ?_
      exact (Rendering.shifts_within active (Piece.renderAll_shifts body)).bind fun _ =>
        Branch.renderTaken_shifts (taken || active) rest

end

end GcodeTemplate
