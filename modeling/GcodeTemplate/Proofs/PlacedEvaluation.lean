import GcodeTemplate.Proofs.FaultSpans

/-!
# Faults of expressions that stand in a source

Evaluating an expression that stands in a source either succeeds or blames a part of
the source, whatever the context is.  What evaluations hand on to others, that is
bindings and points of tables, stands in the source as well.
-/

namespace GcodeTemplate

namespace Evaluation

variable {σ α β : Type}

/-- In every context an evaluation gives a good result, or a fault that is placed in a source. -/
def Settles (source : List Char) (good : α → Prop) (evaluation : Evaluation σ α) : Prop :=
  ∀ layers state, Settled (Fault.IsIn source) good (evaluation layers state).1

/-- In every context the fault of an evaluation, if there is one, is placed in a source. -/
abbrev BlamesIn (source : List Char) (evaluation : Evaluation σ α) : Prop :=
  Settles source (fun _ => True) evaluation

variable
  {source : List Char}
  {good : α → Prop}
  {goodNext : β → Prop}
  {evaluation : Evaluation σ α}

theorem settles_pure
    {a : α}
    (holds : good a) :
    Settles source good (pure a : Evaluation σ α) :=
  fun _ _ => holds

theorem settles_fail
    {span : Span}
    (isIn : span.IsIn source)
    (cause : Cause) :
    Settles source good (fail cause span : Evaluation σ α) :=
  fun _ _ => isIn

theorem settles_ofExcept
    {result : Except Fault α}
    (settled : Settled (Fault.IsIn source) good result) :
    Settles source good (ofExcept result : Evaluation σ α) :=
  fun _ _ => settled

theorem Settles.bind
    {next : α → Evaluation σ β}
    (settles : Settles source good evaluation)
    (settlesNext : ∀ a, good a → Settles source goodNext (next a)) :
    Settles source goodNext (evaluation >>= next) := by
  intro layers state
  have settled := settles layers state
  cases outcome : evaluation layers state with
  | mk result after =>
      rw [outcome] at settled
      cases result with
      | error fault =>
          rw [bind_of_error outcome]
          exact settled
      | ok a =>
          rw [bind_of_ok outcome]
          exact settlesNext a settled layers after

theorem Settles.map
    (settles : Settles source good evaluation)
    {f : α → β}
    (implied : ∀ a, good a → goodNext (f a)) :
    Settles source goodNext (f <$> evaluation) := by
  rw [map_eq_pure_bind]
  exact settles.bind fun a holds => settles_pure (implied a holds)

end Evaluation

namespace Eval

open Evaluation

variable {α : Type} {source : List Char} {good : α → Prop}

theorem settles_inspect
    {look : Layers → State → Except Fault α}
    (settled : ∀ layers state, Settled (Fault.IsIn source) good (look layers state)) :
    Settles source good (inspect look) :=
  settled

theorem settles_change
    {step : Layers → State → Except Fault State}
    (settled : ∀ layers state, FaultsIn source (step layers state)) :
    BlamesIn source (change step) := by
  intro layers state
  have here := settled layers state
  unfold change
  cases outcome : step layers state with
  | error fault =>
      rw [outcome] at here
      exact here
  | ok changed => exact trivial

theorem settles_within
    {body : Eval α}
    (active : Bool)
    (settles : Settles source good body) :
    Settles source good (within active body) :=
  fun layers state => settles layers (state.enter active)

theorem settles_unlessSkipping
    {evaluation : Eval Value}
    (settles : BlamesIn source evaluation) :
    BlamesIn source (unlessSkipping evaluation) := by
  intro layers state
  unfold unlessSkipping
  split
  · exact trivial
  · exact settles layers state

section Given

variable {span : Span} (isIn : span.IsIn source)

include isIn

theorem settles_expecting
    {check : Sourced → Except Fault α}
    (checks : ∀ {sourced : Sourced}, sourced.span.IsIn source → FaultsIn source (check sourced))
    {evaluation : Eval Value}
    (settles : BlamesIn source evaluation) :
    BlamesIn source (expecting check span evaluation) :=
  settles.bind fun _ _ => settles_ofExcept (checks isIn)

theorem settles_operate
    (result : Except Mismatch Value)
    {left right : Span}
    (leftIn : left.IsIn source)
    (rightIn : right.IsIn source) :
    BlamesIn source (operate result span left right) := by
  cases result with
  | error mismatch => exact settles_ofExcept (mismatch.fault_isIn isIn leftIn rightIn)
  | ok value => exact settles_ofExcept trivial

theorem settles_resolve (name : String) :
    BlamesIn source (resolve name span) := by
  refine settles_inspect fun layers state => ?_
  split
  · exact trivial
  · exact isIn

theorem settles_regex (rejection : Cause) (written : String) :
    BlamesIn source (regex rejection written span) := by
  unfold regex
  split
  · exact settles_pure trivial
  · exact settles_fail isIn _

theorem settles_draw (low high : Value) :
    BlamesIn source (draw span low high) := by
  intro layers state
  rw [draw]
  split
  · exact isIn
  · split
    · exact isIn
    · exact trivial

theorem settles_changeFilament (filament : Value) :
    BlamesIn source (changeFilament span filament) := by
  intro layers state
  rw [changeFilament]
  split
  · exact isIn
  · exact trivial

end Given

end Eval

open Evaluation Eval Sourced

variable {source : List Char} {outer : Span}

mutual

/-- The faults of an expression that stands in a source are placed there. -/
theorem Expr.eval_settles
    (expr : Expr)
    (outer : Span)
    (placed : expr.Placed source outer) :
    BlamesIn source expr.eval := by
  have isIn := placed.lies.isIn
  unfold Expr.Placed at placed
  rcases placed with ⟨_, parts⟩
  rw [Expr.eval.eq_def]
  apply settles_unlessSkipping
  cases expr with
  | literal span value =>
      exact settles_pure trivial
  | read span reference =>
      exact (reference.bind_settles span parts).bind fun binding here =>
        settles_inspect (binding.faultsIn_read here)
  | unary span operator operand =>
      refine (operand.eval_settles span parts).bind fun value _ => ?_
      exact settles_operate isIn _ parts.lies.isIn parts.lies.isIn
  | binary span operator left right =>
      refine (left.eval_settles span parts.1).bind fun first _ => ?_
      refine (right.eval_settles span parts.2).bind fun second _ => ?_
      exact settles_operate isIn _ parts.1.lies.isIn parts.2.lies.isIn
  | fullMatch span negated subject written writtenSpan =>
      refine (settles_expecting parts.1.lies.isIn (fun given => faultsIn_string given _)
        (subject.eval_settles span parts.1)).bind fun text _ => ?_
      exact (settles_regex parts.2.isIn _ written).bind fun pattern _ => settles_pure trivial
  | conditional span condition yes no =>
      refine (settles_expecting parts.1.lies.isIn (fun given => faultsIn_truth given _)
        (condition.eval_settles span parts.1)).bind fun holds _ => ?_
      refine (settles_within holds (yes.eval_settles span parts.2.1)).bind fun first _ => ?_
      refine (settles_within (! holds) (no.eval_settles span parts.2.2)).bind fun second _ => ?_
      exact settles_pure trivial
  | call span call =>
      exact call.eval_settles span isIn parts

/-- So are those of a variable, and its binding stands there. -/
theorem Reference.bind_settles
    (reference : Reference Expr)
    (outer : Span)
    (placed : reference.Placed source outer) :
    Settles source (fun binding => binding.span.IsIn source) reference.bind := by
  have isIn := placed.lies.isIn
  unfold Reference.Placed at placed
  rcases placed with ⟨_, name, _, index⟩
  match reference with
  | ⟨_, nameSpan, none, span⟩ =>
      rw [Reference.bind]
      exact (settles_resolve name.isIn _).bind fun _ _ => settles_pure isIn
  | ⟨_, nameSpan, some expr, span⟩ =>
      rw [Reference.bind]
      refine (settles_resolve name.isIn _).bind fun (_, isVector) _ => ?_
      refine (settles_expecting index.lies.isIn (fun given => faultsIn_place given _)
        (expr.eval_settles span index)).bind fun place _ => ?_
      exact settles_pure isIn

/-- So are those of a call, argument by argument. -/
theorem Call.eval_settles
    (call : Call)
    (span : Span)
    (isIn : span.IsIn source)
    (placed : call.Placed source span) :
    BlamesIn source (call.eval span) := by
  have numeric {expr : Expr} {cause : Cause} (placed : expr.Placed source span)
      (settles : BlamesIn source expr.eval) :
      BlamesIn source (expecting (number cause) expr.span expr.eval) :=
    settles_expecting placed.lies.isIn (fun given => faultsIn_number given _) settles
  have integral {expr : Expr} {cause : Cause} (placed : expr.Placed source span)
      (settles : BlamesIn source expr.eval) :
      BlamesIn source (expecting (Sourced.whole cause) expr.span expr.eval) :=
    settles_expecting placed.lies.isIn (fun given => faultsIn_whole given _) settles
  match call with
  | .minimum left right =>
      rw [Call.eval]
      refine (numeric placed.1 (left.eval_settles span placed.1)).bind fun first _ => ?_
      refine (numeric placed.2 (right.eval_settles span placed.2)).bind fun second _ => ?_
      exact settles_pure trivial
  | .maximum left right =>
      rw [Call.eval]
      refine (numeric placed.1 (left.eval_settles span placed.1)).bind fun first _ => ?_
      refine (numeric placed.2 (right.eval_settles span placed.2)).bind fun second _ => ?_
      exact settles_pure trivial
  | .random low high =>
      rw [Call.eval]
      refine (numeric placed.1 (low.eval_settles span placed.1)).bind fun first _ => ?_
      refine (numeric placed.2 (high.eval_settles span placed.2)).bind fun second _ => ?_
      exact settles_draw isIn first second
  | .changeFilament filament =>
      rw [Call.eval]
      refine (numeric placed (filament.eval_settles span placed)).bind fun value _ => ?_
      exact settles_changeFilament (Expr.Placed.lies placed).isIn value
  | .digits zeros value width none =>
      rw [Call.eval]
      refine (numeric placed.1 (value.eval_settles span placed.1)).bind fun number _ => ?_
      refine (integral placed.2 (width.eval_settles span placed.2)).bind fun width _ => ?_
      exact settles_pure trivial
  | .digits zeros value width (some places) =>
      rw [Call.eval]
      refine (numeric placed.1 (value.eval_settles span placed.1)).bind fun number _ => ?_
      refine (integral placed.2.1 (width.eval_settles span placed.2.1)).bind fun width _ => ?_
      refine (integral placed.2.2 (places.eval_settles span placed.2.2)).bind fun places _ => ?_
      exact settles_pure trivial
  | .round rounding argument =>
      rw [Call.eval]
      have argumentIn := (Expr.Placed.lies placed).isIn
      refine (argument.eval_settles span placed).bind fun value _ => ?_
      exact settles_operate isIn _ argumentIn argumentIn
  | .isNil reference =>
      rw [Call.eval]
      refine (reference.bind_settles span placed).bind fun binding here => ?_
      exact (settles_inspect (binding.faultsIn_isNil here)).map fun _ _ => trivial
  | .isEmpty reference =>
      rw [Call.eval]
      refine (reference.bind_settles span placed).bind fun binding here => ?_
      exact (settles_inspect fun layers state =>
        binding.faultsIn_vectorSize here layers state _ _).bind fun size _ => settles_pure trivial
  | .size reference =>
      rw [Call.eval]
      refine (reference.bind_settles span placed).bind fun binding here => ?_
      exact (settles_inspect fun layers state =>
        binding.faultsIn_vectorSize here layers state _ _).bind fun size _ => settles_pure trivial
  | .oneOf subject candidates =>
      rw [Call.eval]
      refine (subject.eval_settles span placed.1).bind fun value _ => ?_
      exact (Candidate.anyAccepts_settles ⟨value, subject.span⟩ placed.1.lies.isIn candidates span
        placed.2).map fun _ _ => trivial
  | .interpolate abscissa table =>
      rw [Call.eval]
      refine (numeric placed.1 (abscissa.eval_settles span placed.1)).bind fun x _ => ?_
      refine (Table.eval_settles table span placed.2).bind fun knots here => ?_
      exact (settles_ofExcept (knots.faultsIn_interpolate here x.toFloat
        placed.1.lies.isIn)).map fun _ _ => trivial

theorem Candidate.anyAccepts_settles
    (subject : Sourced)
    (isIn : subject.span.IsIn source)
    (candidates : List (Candidate Expr))
    (outer : Span)
    (placed : Candidate.AllPlaced source outer candidates) :
    BlamesIn source (Candidate.anyAccepts subject candidates) := by
  match candidates with
  | [] =>
      rw [Candidate.anyAccepts]
      exact settles_pure trivial
  | candidate :: rest =>
      rw [Candidate.anyAccepts]
      refine (settles_ofExcept (faultsIn_string isIn _)).bind fun text _ => ?_
      refine (candidate.accepts_settles text outer placed.1).bind fun accepted _ => ?_
      cases accepted with
      | true => exact settles_pure trivial
      | false => exact Candidate.anyAccepts_settles subject isIn rest outer placed.2

theorem Candidate.accepts_settles
    (candidate : Candidate Expr)
    (text : String)
    (outer : Span)
    (placed : candidate.Placed source outer) :
    BlamesIn source (candidate.accepts text) := by
  unfold Candidate.Placed at placed
  match candidate with
  | .text expr =>
      rw [Candidate.accepts]
      exact (settles_expecting (Expr.Placed.lies placed).isIn
        (fun given => faultsIn_string given _)
        (expr.eval_settles outer placed)).bind fun expected _ => settles_pure trivial
  | .pattern expr =>
      have here := (Expr.Placed.lies placed).isIn
      rw [Candidate.accepts]
      refine (settles_expecting here (fun given => faultsIn_string given _)
        (expr.eval_settles outer placed)).bind fun written _ => ?_
      exact (settles_regex here _ written).bind fun pattern _ => settles_pure trivial
  | .regex written span =>
      rw [Candidate.accepts]
      exact (settles_regex placed.isIn _ written).bind fun pattern _ => settles_pure trivial

/-- The points of a table stand where their first coordinates do. -/
theorem Table.eval_settles
    (table : List (Expr × Expr))
    (outer : Span)
    (placed : Table.Placed source outer table) :
    Settles source (fun knots => ∀ knot ∈ knots, knot.span.IsIn source) (Table.eval table) := by
  match table with
  | [] =>
      rw [Table.eval]
      exact settles_pure nofun
  | (x, y) :: rest =>
      have xIn := placed.1.lies.isIn
      have yIn := placed.2.1.lies.isIn
      rw [Table.eval]
      refine (settles_expecting xIn (fun given => faultsIn_number given _)
        (x.eval_settles outer placed.1)).bind fun abscissa _ => ?_
      refine (settles_expecting yIn (fun given => faultsIn_number given _)
        (y.eval_settles outer placed.2.1)).bind fun ordinate _ => ?_
      refine (Table.eval_settles rest outer placed.2.2).bind fun knots here => settles_pure ?_
      exact List.forall_mem_cons.2 ⟨xIn, here⟩

end

theorem Expr.evalCondition_settles
    {expr : Expr}
    (placed : expr.Placed source outer) :
    BlamesIn source expr.evalCondition :=
  settles_expecting placed.lies.isIn (fun given => faultsIn_truth given _)
    (expr.eval_settles outer placed)

end GcodeTemplate
