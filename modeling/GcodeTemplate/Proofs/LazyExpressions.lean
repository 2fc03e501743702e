import GcodeTemplate.Proofs.Lazy
import GcodeTemplate.Proofs.Suppression

/-!
# Expressions outside of blocks that are not taken

Begun outside of all blocks that are not taken, an expression has the value, the
faults and the effects of its lazy evaluation.  The operations on single values
and variables are the same on both sides; what is to be shown is that the branch
of a conditional that is not chosen makes no difference.
-/

namespace GcodeTemplate

namespace Evaluation

variable {σ τ α β : Type}

/--
Begun in what `embed` makes of a smaller state, an evaluation has the result of
a plainer one on the smaller state, and leaves what `embed` makes of what that
one leaves.
-/
def Refines
    (embed : τ → σ)
    (layers : Layers)
    (evaluation : Evaluation σ α)
    (plain : Evaluation τ α) : Prop :=
  ∀ small, evaluation layers (embed small) =
    ((plain layers small).1, embed (plain layers small).2)

variable {embed : τ → σ} {layers : Layers}

theorem refines_ofExcept (result : Except Fault α) :
    Refines embed layers (ofExcept result) (ofExcept result) := by
  intro small
  rfl

theorem refines_pure (a : α) :
    Refines embed layers (pure a) (pure a) := by
  intro small
  rfl

theorem refines_fail
    (cause : Cause)
    (span : Span) :
    Refines embed layers (fail cause span : Evaluation σ α) (fail cause span) := by
  intro small
  rfl

/-- One evaluation after the other refines what the two of them refine. -/
theorem Refines.bind
    {first : Evaluation σ α}
    {plainFirst : Evaluation τ α}
    {next : α → Evaluation σ β}
    {plainNext : α → Evaluation τ β}
    (firstRefines : Refines embed layers first plainFirst)
    (nextRefines : ∀ a, Refines embed layers (next a) (plainNext a)) :
    Refines embed layers (first >>= next) (plainFirst >>= plainNext) := by
  intro small
  have begun := firstRefines small
  cases outcome : plainFirst layers small with
  | mk result after =>
      rw [outcome] at begun
      cases result with
      | error fault =>
          rw [bind_of_error begun, bind_of_error outcome]
      | ok a =>
          rw [bind_of_ok begun, bind_of_ok outcome]
          exact nextRefines a after

theorem Refines.map
    {evaluation : Evaluation σ α}
    {plain : Evaluation τ α}
    (refines : Refines embed layers evaluation plain)
    (f : α → β) :
    Refines embed layers (f <$> evaluation) (f <$> plain) := by
  rw [map_eq_pure_bind, map_eq_pure_bind]
  exact refines.bind fun a => refines_pure (f a)

/-- What only passes the result on may be left out. -/
theorem bind_of_passing
    {first : Evaluation σ α}
    {next : α → Evaluation σ α}
    (passing : ∀ a after, next a layers after = (.ok a, after))
    (state : σ) :
    (first >>= next) layers state = first layers state := by
  cases outcome : first layers state with
  | mk result after =>
      cases result with
      | error fault =>
          exact bind_of_error outcome
      | ok a =>
          rw [bind_of_ok outcome]
          exact passing a after

end Evaluation

namespace State

theorem state_memory
    {state : State}
    (active : state.suppressed = 0) :
    state.memory.state = state := by
  cases state
  cases active
  rfl

/-- Outside of blocks that are not taken only an inactive one is not taken. -/
theorem suppresses_of_active
    {state : State}
    (active : state.suppressed = 0)
    (taken : Bool) :
    state.suppresses taken = ! taken := by
  simp [suppresses, isSkipping, active]

/-- An inactive block is not taken, wherever it stands. -/
theorem suppresses_false (state : State) :
    state.suppresses false := by
  simp [suppresses]

end State

open State (SameFrame SameDepth)

namespace Eval

open Evaluation

variable {α : Type} {layers : Layers}

/-- An operation that leaves the count of blocks alone can do without it. -/
theorem refines_ofEval
    {evaluation : Eval α}
    (keeps : evaluation.Keeps SameDepth layers) :
    evaluation.Refines Memory.state layers (Lazy.ofEval evaluation) := by
  intro memory
  have active : (evaluation layers memory.state).2.suppressed = 0 :=
    keeps memory.state
  apply Prod.ext
  · rfl
  · exact (State.state_memory active).symm

theorem refines_of_frame
    {evaluation : Eval α}
    (quiet : evaluation.Keeps SameFrame layers) :
    evaluation.Refines Memory.state layers (Lazy.ofEval evaluation) :=
  refines_ofEval ((State.allows_sameDepth layers).keeps_of_frame quiet)

theorem refines_inspect (look : Layers → State → Except Fault α) :
    (inspect look).Refines Memory.state layers (Lazy.ofEval (inspect look)) :=
  refines_of_frame (keeps_inspect look)

theorem refines_operate
    (result : Except Mismatch Value)
    (whole left right : Span) :
    (operate result whole left right).Refines Memory.state layers
      (Lazy.ofEval (operate result whole left right)) :=
  refines_of_frame (keeps_ofExcept _)

theorem refines_expecting
    {evaluation : Eval Value}
    {plain : Lazy Value}
    (check : Sourced → Except Fault α)
    (span : Span)
    (refines : evaluation.Refines Memory.state layers plain) :
    (expecting check span evaluation).Refines Memory.state layers
      (Lazy.expecting check span plain) :=
  refines.bind fun value => refines_ofExcept (check ⟨value, span⟩)

theorem refines_unlessSkipping
    {evaluation : Eval Value}
    {plain : Lazy Value}
    (refines : evaluation.Refines Memory.state layers plain) :
    (unlessSkipping evaluation).Refines Memory.state layers plain := by
  intro memory
  show evaluation layers memory.state = _
  exact refines memory

/-- A block that is taken makes no difference. -/
theorem within_true
    (body : Eval α)
    {state : State}
    (active : state.suppressed = 0) :
    within true body layers state = body layers state := by
  simp [within, State.enter, State.leave, State.suppresses_of_active active]

/-- An expression in an inactive block is empty, and does nothing. -/
theorem within_false
    (expr : Expr)
    (state : State) :
    within false expr.eval layers state = (.ok .empty, state) := by
  have inside : expr.eval layers (state.enter false) = (.ok .empty, state.enter false) :=
    expr.eval_of_isSkipping (State.isSkipping_enter state.suppresses_false)
  simp [within, inside, State.leave_enter]

/-- Of the two branches of a conditional one is evaluated, the other one makes no difference. -/
theorem refines_branches
    {yes no : Expr}
    {plainYes plainNo : Lazy Value}
    (holds : Bool)
    (yesRefines : yes.eval.Refines Memory.state layers plainYes)
    (noRefines : no.eval.Refines Memory.state layers plainNo) :
    (do
      let first ← within holds yes.eval
      let second ← within (! holds) no.eval
      pure (if holds then first else second) : Eval Value).Refines Memory.state layers
      (if holds then plainYes else plainNo) := by
  intro memory
  cases holds with
  | true =>
      have passing (first : Value) (after : State) :
          (within false no.eval >>= fun _ => pure first) layers after = (.ok first, after) :=
        bind_of_ok (within_false no after)
      exact (bind_of_passing passing memory.state).trans
        ((within_true yes.eval rfl).trans (yesRefines memory))
  | false =>
      rw [bind_of_ok (within_false yes memory.state)]
      have passing (second : Value) (after : State) :
          (pure second : Eval Value) layers after = (.ok second, after) :=
        rfl
      exact (bind_of_passing passing memory.state).trans
        ((within_true no.eval rfl).trans (noRefines memory))

end Eval

open Evaluation Eval

variable {layers : Layers}

mutual

/-- An expression refines its lazy evaluation. -/
theorem Expr.eval_refines (expr : Expr) :
    expr.eval.Refines Memory.state layers expr.evalLazily := by
  rw [Expr.eval.eq_def]
  apply refines_unlessSkipping
  cases expr with
  | literal span value =>
      rw [Expr.evalLazily]
      exact refines_pure value
  | read span reference =>
      rw [Expr.evalLazily]
      exact reference.bind_refines.bind fun binding =>
        refines_inspect binding.read
  | unary span operator operand =>
      rw [Expr.evalLazily]
      exact operand.eval_refines.bind fun value =>
        refines_operate _ _ _ _
  | binary span operator left right =>
      rw [Expr.evalLazily]
      exact left.eval_refines.bind fun first =>
        right.eval_refines.bind fun second =>
          refines_operate _ _ _ _
  | fullMatch span negated subject source sourceSpan =>
      rw [Expr.evalLazily]
      exact (refines_expecting _ _ subject.eval_refines).bind fun text =>
        (refines_of_frame (keeps_regex _ source sourceSpan)).bind fun pattern =>
          refines_pure _
  | conditional span condition yes no =>
      rw [Expr.evalLazily]
      exact (refines_expecting _ _ condition.eval_refines).bind fun holds =>
        refines_branches holds yes.eval_refines no.eval_refines
  | call span call =>
      rw [Expr.evalLazily]
      exact call.eval_refines span

/-- So does the binding of a variable. -/
theorem Reference.bind_refines (reference : Reference Expr) :
    reference.bind.Refines Memory.state layers reference.bindLazily := by
  match reference with
  | ⟨name, nameSpan, none, span⟩ =>
      rw [Reference.bind, Reference.bindLazily]
      exact (refines_inspect _).bind fun (scope, _) =>
        refines_pure _
  | ⟨name, nameSpan, some index, span⟩ =>
      rw [Reference.bind, Reference.bindLazily]
      exact (refines_inspect _).bind fun (scope, isVector) =>
        (refines_expecting _ _ index.eval_refines).bind fun place =>
          refines_pure _

/-- So does a call, argument by argument. -/
theorem Call.eval_refines (call : Call) (span : Span) :
    (call.eval span).Refines Memory.state layers (call.evalLazily span) := by
  cases call with
  | minimum left right =>
      rw [Call.eval, Call.evalLazily]
      exact (refines_expecting _ _ left.eval_refines).bind fun first =>
        (refines_expecting _ _ right.eval_refines).bind fun second =>
          refines_pure _
  | maximum left right =>
      rw [Call.eval, Call.evalLazily]
      exact (refines_expecting _ _ left.eval_refines).bind fun first =>
        (refines_expecting _ _ right.eval_refines).bind fun second =>
          refines_pure _
  | random low high =>
      rw [Call.eval, Call.evalLazily]
      exact (refines_expecting _ _ low.eval_refines).bind fun first =>
        (refines_expecting _ _ high.eval_refines).bind fun second =>
          refines_of_frame (keepsFrame_draw span first second)
  | changeFilament filament =>
      rw [Call.eval, Call.evalLazily]
      exact (refines_expecting _ _ filament.eval_refines).bind fun value =>
        refines_of_frame (keepsFrame_changeFilament filament.span value)
  | digits zeros value width places =>
      match places with
      | none =>
          rw [Call.eval, Call.evalLazily]
          exact (refines_expecting _ _ value.eval_refines).bind fun value =>
            (refines_expecting _ _ width.eval_refines).bind fun width =>
              refines_pure _
      | some places =>
          rw [Call.eval, Call.evalLazily]
          exact (refines_expecting _ _ value.eval_refines).bind fun value =>
            (refines_expecting _ _ width.eval_refines).bind fun width =>
              (refines_expecting _ _ places.eval_refines).bind fun places =>
                refines_pure _
  | round rounding argument =>
      rw [Call.eval, Call.evalLazily]
      exact argument.eval_refines.bind fun value =>
        refines_operate _ _ _ _
  | isNil reference =>
      rw [Call.eval, Call.evalLazily]
      exact reference.bind_refines.bind fun binding =>
        (refines_inspect binding.isNil).map _
  | isEmpty reference =>
      rw [Call.eval, Call.evalLazily]
      exact reference.bind_refines.bind fun binding =>
        (refines_inspect _).bind fun size =>
          refines_pure _
  | size reference =>
      rw [Call.eval, Call.evalLazily]
      exact reference.bind_refines.bind fun binding =>
        (refines_inspect _).bind fun size =>
          refines_pure _
  | oneOf subject candidates =>
      rw [Call.eval, Call.evalLazily]
      exact subject.eval_refines.bind fun value =>
        (Candidate.anyAccepts_refines ⟨value, subject.span⟩ candidates).map _
  | interpolate abscissa table =>
      rw [Call.eval, Call.evalLazily]
      exact (refines_expecting _ _ abscissa.eval_refines).bind fun x =>
        (Table.eval_refines table).bind fun knots =>
          (refines_ofExcept _).map _

theorem Candidate.anyAccepts_refines
    (subject : Sourced)
    (candidates : List (Candidate Expr)) :
    (Candidate.anyAccepts subject candidates).Refines Memory.state layers
      (Candidate.anyAcceptsLazily subject candidates) := by
  cases candidates with
  | nil =>
      rw [Candidate.anyAccepts, Candidate.anyAcceptsLazily]
      exact refines_pure false
  | cons candidate rest =>
      rw [Candidate.anyAccepts, Candidate.anyAcceptsLazily]
      refine (refines_ofExcept _).bind fun text =>
        (candidate.accepts_refines text).bind fun accepted => ?_
      cases accepted with
      | true =>
          exact refines_pure true
      | false =>
          exact Candidate.anyAccepts_refines subject rest

theorem Candidate.accepts_refines
    (candidate : Candidate Expr)
    (text : String) :
    (candidate.accepts text).Refines Memory.state layers
      (candidate.acceptsLazily text) := by
  cases candidate with
  | text expr =>
      rw [Candidate.accepts, Candidate.acceptsLazily]
      exact (refines_expecting _ _ expr.eval_refines).bind fun expected =>
        refines_pure _
  | pattern expr =>
      rw [Candidate.accepts, Candidate.acceptsLazily]
      exact (refines_expecting _ _ expr.eval_refines).bind fun source =>
        (refines_of_frame (keeps_regex _ source expr.span)).bind fun pattern =>
          refines_pure _
  | regex source span =>
      rw [Candidate.accepts, Candidate.acceptsLazily]
      exact (refines_of_frame (keeps_regex _ source span)).bind fun pattern =>
        refines_pure _

theorem Table.eval_refines (table : List (Expr × Expr)) :
    (Table.eval table).Refines Memory.state layers (Table.evalLazily table) := by
  match table with
  | [] =>
      rw [Table.eval, Table.evalLazily]
      exact refines_pure []
  | (x, y) :: rest =>
      rw [Table.eval, Table.evalLazily]
      exact (refines_expecting _ _ x.eval_refines).bind fun abscissa =>
        (refines_expecting _ _ y.eval_refines).bind fun ordinate =>
          (Table.eval_refines rest).bind fun knots =>
            refines_pure _

end

theorem Expr.evalCondition_refines (expr : Expr) :
    expr.evalCondition.Refines Memory.state layers expr.evalConditionLazily :=
  refines_expecting _ _ expr.eval_refines

end GcodeTemplate
