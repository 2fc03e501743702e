import GcodeTemplate.Piece.Render
import GcodeTemplate.Proofs.PlacedEvaluation
import GcodeTemplate.Proofs.PlacedPieces
import GcodeTemplate.Proofs.Rounds

/-!
# Faults of templates

Rendering pieces that stand in a source blames nothing but parts of the source.  So
whatever is reported of a source, while it is read or later on, is placed in it.
-/

namespace GcodeTemplate

open Evaluation Eval Sourced

variable {source : List Char} {outer : Span}

/-! ## Assignments and declarations -/

namespace Sourced

theorem ofExprs_settles
    {exprs : List Expr}
    (each : ∀ expr ∈ exprs, expr.Placed source outer) :
    Settles source (fun sources => ∀ sourced ∈ sources, sourced.span.IsIn source)
      (ofExprs exprs) := by
  induction exprs with
  | nil =>
      exact settles_pure nofun
  | cons expr rest ih =>
      rw [List.forall_mem_cons] at each
      refine (expr.eval_settles outer each.1).bind fun value _ => ?_
      refine (ih each.2).bind fun others here => settles_pure ?_
      split
      · exact here
      · exact List.forall_mem_cons.2 ⟨each.1.lies.isIn, here⟩

theorem ofExpr_settles
    {expr : Expr}
    (placed : expr.Placed source outer) :
    Settles source (fun sourced => sourced.span.IsIn source) (ofExpr expr) :=
  (expr.eval_settles outer placed).bind fun _ _ => settles_pure placed.lies.isIn

theorem ofBinding_settles
    {binding : Binding}
    (isIn : binding.span.IsIn source) :
    Settles source (fun sourced => sourced.span.IsIn source) (ofBinding binding) :=
  (settles_inspect (binding.faultsIn_read isIn)).bind fun _ _ => settles_pure isIn

end Sourced

namespace Initializer

variable {initializer : Initializer} (placed : initializer.Placed source)

include placed

theorem assignTo_settles
    {target : Binding}
    (isIn : target.span.IsIn source) :
    BlamesIn source (initializer.assignTo target) := by
  cases initializer with
  | list span items =>
      refine (ofExprs_settles placed.2).bind fun sources here => ?_
      exact settles_change fun layers state => target.faultsIn_assignList isIn layers state here
  | fill span count value =>
      refine (ofExpr_settles placed.2.1).bind fun number countIn => ?_
      refine (ofExpr_settles placed.2.2).bind fun sourced valueIn => ?_
      exact settles_change fun layers state =>
        target.faultsIn_assignCopies isIn layers state countIn valueIn
  | reference referred =>
      refine (referred.bind_settles _ placed).bind fun copied here => ?_
      refine (settles_inspect fun layers state =>
        target.faultsIn_isWholeVector isIn layers state).bind fun isWhole _ => ?_
      cases isWhole with
      | true =>
          exact settles_change fun layers state =>
            target.faultsIn_assignVector isIn layers state here
      | false =>
          refine (ofBinding_settles here).bind fun value valueIn => ?_
          exact settles_change fun layers state =>
            target.faultsIn_assignScalar isIn layers state valueIn
  | expression expr =>
      refine (ofExpr_settles placed).bind fun sourced here => ?_
      exact settles_change fun layers state =>
        target.faultsIn_assignScalar isIn layers state here

theorem redeclare_settles
    {target : Binding}
    (isIn : target.span.IsIn source) :
    BlamesIn source (initializer.redeclare target) := by
  have looked : BlamesIn source ((·.isVector) <$> setting target) :=
    (settles_inspect (target.faultsIn_setting isIn)).map fun _ _ => trivial
  refine looked.bind fun isVector _ => ?_
  split
  next expr => exact settles_fail (Expr.Placed.lies placed).isIn _
  next span count value => exact settles_fail placed.1 _
  next => exact assignTo_settles placed isIn

theorem newSetting_settles
    {nameSpan : Span}
    (isIn : nameSpan.IsIn source) :
    BlamesIn source (initializer.newSetting nameSpan) := by
  cases initializer with
  | list span items =>
      refine (ofExprs_settles placed.2).bind fun sources here => ?_
      exact settles_ofExcept (Setting.faultsIn_ofItems isIn here)
  | fill span count value =>
      refine (ofExpr_settles placed.2.1).bind fun number countIn => ?_
      refine (ofExpr_settles placed.2.2).bind fun sourced valueIn => ?_
      refine (settles_ofExcept (Count.settled_ofValue countIn)).bind fun count here => ?_
      exact settles_ofExcept (Setting.faultsIn_ofCopies valueIn here)
  | reference referred =>
      refine (referred.bind_settles _ placed).bind fun copied here => ?_
      refine (settles_inspect fun layers state =>
        copied.faultsIn_isWholeVector here layers state).bind fun isWhole _ => ?_
      cases isWhole with
      | true =>
          refine (settles_inspect (copied.faultsIn_setting here)).bind fun vector _ => ?_
          exact settles_ofExcept (Setting.faultsIn_ofVector here vector)
      | false =>
          refine (ofBinding_settles here).bind fun value valueIn => ?_
          exact settles_ofExcept (Setting.faultsIn_ofValue valueIn)
  | expression expr =>
      refine (ofExpr_settles placed).bind fun sourced here => ?_
      exact settles_ofExcept (Setting.faultsIn_ofValue here)

end Initializer

theorem Declaration.run_settles
    {declaration : Declaration}
    (placed : declaration.Placed source) :
    BlamesIn source declaration.run := by
  rcases declaration with ⟨isGlobal, name, nameSpan, initializer⟩
  have isIn := placed.names.holds.isIn
  refine (settles_inspect fun layers state =>
    State.faultsIn_declared? isIn isGlobal name layers state).bind fun existing here => ?_
  cases existing with
  | some binding =>
      exact Initializer.redeclare_settles placed.initializer (here binding rfl)
  | none =>
      refine (Initializer.newSetting_settles placed.initializer isIn).bind fun setting _ => ?_
      exact settles_change fun _ _ => trivial

/-! ## Pieces -/

namespace Rendering

variable {α : Type} {good : α → Prop}

theorem settles_quietly
    {evaluation : Eval α}
    (settles : Settles source good evaluation) :
    Settles source good (quietly evaluation) :=
  fun layers page => settles layers page.state

theorem settles_write (text : String) : BlamesIn source (write text) :=
  fun _ _ => trivial

theorem settles_within
    {body : Rendering α}
    (active : Bool)
    (settles : Settles source good body) :
    Settles source good (within active body) :=
  fun layers page => settles layers { page with state := page.state.enter active }

theorem settles_unlessSkipping
    {rendering : Rendering Unit}
    (settles : BlamesIn source rendering) :
    BlamesIn source (unlessSkipping rendering) := by
  intro layers page
  unfold unlessSkipping
  split
  · exact trivial
  · exact settles layers page

end Rendering

open Rendering

theorem Expr.holds_settles
    {condition : Expr}
    (placed : condition.Placed source outer) :
    BlamesIn source condition.holds := by
  intro layers page
  unfold Expr.holds
  split
  · exact trivial
  · exact settles_quietly (Expr.evalCondition_settles placed) layers page

mutual

/-- The faults of a piece that stands in a source are placed there. -/
theorem Piece.render_settles
    (piece : Piece)
    (placed : piece.Placed source) :
    BlamesIn source piece.render := by
  match piece with
  | .text text =>
      rw [Piece.render]
      exact Rendering.settles_unlessSkipping (settles_write text)
  | .bracket bracket =>
      rw [Piece.render]
      have looked : BlamesIn source (inspect bracket.text) :=
        settles_inspect fun layers state => Bracket.faultsIn_text layers placed state
      exact Rendering.settles_unlessSkipping
        ((settles_quietly looked).bind fun text _ => settles_write text)
  | .expression expr =>
      rw [Piece.render]
      exact Rendering.settles_unlessSkipping
        ((settles_quietly (expr.eval_settles _ placed)).bind fun value _ => settles_write _)
  | .assign target initializer =>
      rw [Piece.render]
      have assigned : BlamesIn source (do
          let binding ← target.bind
          initializer.assignTo binding) :=
        (target.bind_settles _ placed.1).bind fun binding here =>
          Initializer.assignTo_settles placed.2 here
      exact Rendering.settles_unlessSkipping (settles_quietly assigned)
  | .declare declaration =>
      rw [Piece.render]
      exact Rendering.settles_unlessSkipping (settles_quietly (Declaration.run_settles placed))
  | .choose branches none =>
      rw [Piece.render]
      exact (Branch.renderTaken_settles false branches placed).bind fun _ _ =>
        settles_pure trivial
  | .choose branches (some otherwise) =>
      rw [Piece.render]
      exact (Branch.renderTaken_settles false branches placed.1).bind fun taken _ =>
        Rendering.settles_within _ (Piece.renderAll_settles otherwise placed.2)

/-- So are those of pieces one after the other. -/
theorem Piece.renderAll_settles
    (pieces : List Piece)
    (placed : Piece.AllPlaced source pieces) :
    BlamesIn source (Piece.renderAll pieces) := by
  match pieces with
  | [] =>
      rw [Piece.renderAll]
      exact settles_pure trivial
  | piece :: rest =>
      rw [Piece.renderAll]
      exact (piece.render_settles placed.1).bind fun _ _ => Piece.renderAll_settles rest placed.2

theorem Branch.renderTaken_settles
    (taken : Bool)
    (branches : List (Branch Piece))
    (placed : Branch.AllPlaced source branches) :
    BlamesIn source (Branch.renderTaken taken branches) := by
  match branches with
  | [] =>
      rw [Branch.renderTaken]
      exact settles_pure trivial
  | ⟨condition, body⟩ :: rest =>
      rw [Branch.renderTaken]
      refine (Rendering.settles_within (! taken) (Expr.holds_settles placed.1)).bind fun active _ => ?_
      refine (Rendering.settles_within active
        (Piece.renderAll_settles body placed.2.1)).bind fun _ _ => ?_
      exact Branch.renderTaken_settles (taken || active) rest placed.2.2

end

/-! ## Whole sources -/

/-- The faults of an evaluation that settles are placed in the source. -/
theorem Evaluation.Settles.fault_isIn
    {σ α : Type}
    {good : α → Prop}
    {evaluation : Evaluation σ α}
    (settles : Settles source good evaluation)
    {layers : Layers}
    {state : σ}
    {fault : Fault}
    (failed : (evaluation layers state).1 = .error fault) :
    fault.span.IsIn source := by
  have settled := settles layers state
  rw [failed] at settled
  exact settled

/--
Every position that is reported lies in the source, be it read as a template or as a
condition.  If it cannot be read, a part of it is blamed for not following the grammar.
If it can, what has been read stands in it, and so do the faults in every context.
-/
theorem positions_lie_in_source (source : String) :
    (match Piece.parse source with
      | .error fault => fault.cause.kind = .grammar ∧ fault.span.IsIn source.toList
      | .ok pieces =>
          Piece.AllPlaced source.toList pieces ∧
            ∀ layers page fault, (Piece.renderAll pieces layers page).1 = .error fault →
              fault.span.IsIn source.toList) ∧
      (match Expr.parse source with
        | .error fault => fault.cause.kind = .grammar ∧ fault.span.IsIn source.toList
        | .ok expr =>
            expr.Placed source.toList (Span.whole source.toList) ∧
              ∀ layers state fault, (expr.evalCondition layers state).1 = .error fault →
                fault.span.IsIn source.toList) := by
  constructor
  · have read := Piece.parse_places source
    split
    next fault failed =>
      rw [failed] at read
      exact ⟨read.kind, read.span⟩
    next pieces parsed =>
      rw [parsed] at read
      exact ⟨read, fun _ _ _ failed => (Piece.renderAll_settles pieces read).fault_isIn failed⟩
  · have read := Expr.parse_places source
    split
    next fault failed =>
      rw [failed] at read
      exact ⟨read.kind, read.span⟩
    next expr parsed =>
      rw [parsed] at read
      exact ⟨read, fun _ _ _ failed => (Expr.evalCondition_settles read).fault_isIn failed⟩

/-- What is behind an underscore and no number is blamed alone, behind a wide character, too. -/
theorem index_suffix_blamed_behind_wide_text :
    let layers : Layers := { process := .ofList [("v", .ints [some 60])] }
    let span : Span := ⟨5, 6⟩
    (∃ pieces, Piece.parse "é[v_x]" = .ok pieces ∧
      (Piece.renderAll pieces layers ⟨{}, ""⟩).1 = .error ⟨.invalidIndexSuffix, span⟩) ∧
      span.IsIn "é[v_x]".toList := by
  intro layers span
  have run :
      (Piece.parse "é[v_x]").toOption.any (fun pieces =>
        match (Piece.renderAll pieces layers ⟨{}, ""⟩).1 with
        | .error fault => fault == ⟨.invalidIndexSuffix, span⟩
        | .ok _ => false) = true := by
    decide +kernel
  rcases exists_of_any run with ⟨pieces, parsed, run⟩
  cases failed : (Piece.renderAll pieces layers ⟨{}, ""⟩).1 with
  | ok _ =>
      rw [failed] at run
      cases run
  | error fault =>
      rw [failed] at run
      cases beq_iff_eq.mp run
      generalize "é[v_x]" = source at parsed ⊢
      have placed := (positions_lie_in_source source).1
      rw [parsed] at placed
      exact ⟨⟨pieces, parsed, failed⟩, placed.2 _ _ _ failed⟩

end GcodeTemplate
