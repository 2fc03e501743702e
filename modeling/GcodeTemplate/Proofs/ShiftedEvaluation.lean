import GcodeTemplate.Proofs.Shifting

/-!
# Evaluating what stands further behind

An expression whose spans are shifted has the same value, and leaves the same state,
or it has the same fault at a shifted span.
-/

namespace GcodeTemplate

namespace Evaluation

variable {σ α β : Type}

/--
Begun in what `embed` makes of a state, an evaluation does what another one does in
the state, with the results replaced and the spans of faults shifted.
-/
def Shifts
    (offset : Nat)
    (embed : σ → σ)
    (f : α → α)
    (evaluation there : Evaluation σ α) : Prop :=
  ∀ layers state, there layers (embed state) =
    (f <$> shiftFault offset (evaluation layers state).1, embed (evaluation layers state).2)

variable {offset : Nat} {embed : σ → σ} {f : α → α} {g : β → β}

theorem shifts_ofExcept
    {result there : Except Fault α}
    (same : there = f <$> shiftFault offset result) :
    Shifts offset embed f (ofExcept result) (ofExcept there) := by
  intro layers state
  rw [same]
  rfl

theorem shifts_pure (a : α) :
    Shifts offset embed f (pure a) (pure (f a)) := by
  intro layers state
  rfl

theorem shifts_fail (cause : Cause) (span : Span) :
    Shifts offset embed f (fail cause span) (fail cause (span.shift offset)) := by
  intro layers state
  rfl

theorem Shifts.bind
    {first firstThere : Evaluation σ α}
    {next nextThere : α → Evaluation σ β}
    (firstShifts : Shifts offset embed f first firstThere)
    (nextShifts : ∀ a, Shifts offset embed g (next a) (nextThere (f a))) :
    Shifts offset embed g (first >>= next) (firstThere >>= nextThere) := by
  intro layers state
  have begun := firstShifts layers state
  cases outcome : first layers state with
  | mk result after =>
      rw [outcome] at begun
      cases result with
      | error fault =>
          rw [bind_of_error begun, bind_of_error outcome]
          rfl
      | ok a =>
          rw [bind_of_ok begun, bind_of_ok outcome]
          exact nextShifts a layers after

theorem Shifts.map
    {evaluation there : Evaluation σ α}
    {h k : α → β}
    (shifts : Shifts offset embed f evaluation there)
    (same : ∀ a, k (f a) = g (h a)) :
    Shifts offset embed g (h <$> evaluation) (k <$> there) := by
  rw [map_eq_pure_bind, map_eq_pure_bind]
  refine shifts.bind fun a => ?_
  rw [same a]
  exact shifts_pure (h a)

end Evaluation

namespace Eval

open Evaluation

variable {α : Type} {offset : Nat} {f : α → α}

theorem shifts_inspect
    {look there : Layers → State → Except Fault α}
    (same : ∀ layers state, there layers state = f <$> shiftFault offset (look layers state)) :
    Shifts offset id f (inspect look) (inspect there) := by
  intro layers state
  exact Prod.ext (same layers state) rfl

/-- What is read of the context has no spans. -/
theorem shifts_look
    {look there : Layers → State → Except Fault α}
    (same : ∀ layers state, there layers state = shiftFault offset (look layers state)) :
    Shifts offset id id (inspect look) (inspect there) :=
  shifts_inspect fun layers state => by rw [same, id_map]

theorem shifts_change
    {step there : Layers → State → Except Fault State}
    (same : ∀ layers state, there layers state = shiftFault offset (step layers state)) :
    Shifts offset id id (change step) (change there) := by
  intro layers state
  simp only [change, id, same]
  cases step layers state <;> rfl

theorem shifts_within
    {body there : Eval α}
    (active : Bool)
    (shifts : Shifts offset id f body there) :
    Shifts offset id f (within active body) (within active there) := by
  intro layers state
  have inside := shifts layers (state.enter active)
  simp only [id] at inside
  simp only [within, id, inside]

theorem shifts_unlessSkipping
    {evaluation there : Eval Value}
    (shifts : Shifts offset id id evaluation there) :
    Shifts offset id id (unlessSkipping evaluation) (unlessSkipping there) := by
  intro layers state
  simp only [unlessSkipping, id]
  split
  · rfl
  · exact shifts layers state

/-- A check that takes a shifted value to a shifted fault. -/
theorem shifts_expecting
    {check : Sourced → Except Fault α}
    (moves : ∀ source, check (source.shift offset) = shiftFault offset (check source))
    (span : Span)
    {evaluation there : Eval Value}
    (shifts : Shifts offset id id evaluation there) :
    Shifts offset id id (expecting check span evaluation)
      (expecting check (span.shift offset) there) := by
  refine shifts.bind fun value => shifts_ofExcept ?_
  rw [id_map]
  exact moves ⟨value, span⟩

section Checks

variable {evaluation there : Eval Value} (shifts : Shifts offset id id evaluation there)

include shifts

theorem shifts_number (cause : Cause) (span : Span) :
    Shifts offset id id (expecting (Sourced.number cause) span evaluation)
      (expecting (Sourced.number cause) (span.shift offset) there) :=
  shifts_expecting (fun source => source.number_shift offset cause) span shifts

theorem shifts_whole (cause : Cause) (span : Span) :
    Shifts offset id id (expecting (Sourced.whole cause) span evaluation)
      (expecting (Sourced.whole cause) (span.shift offset) there) :=
  shifts_expecting (fun source => source.whole_shift offset cause) span shifts

theorem shifts_string (cause : Cause) (span : Span) :
    Shifts offset id id (expecting (Sourced.string cause) span evaluation)
      (expecting (Sourced.string cause) (span.shift offset) there) :=
  shifts_expecting (fun source => source.string_shift offset cause) span shifts

end Checks

theorem shifts_operate (result : Except Mismatch Value) (whole left right : Span) :
    Shifts offset id id (operate result whole left right)
      (operate result (whole.shift offset) (left.shift offset) (right.shift offset)) := by
  refine shifts_ofExcept ?_
  cases result with
  | ok value => rfl
  | error mismatch =>
      rw [id_map]
      exact congrArg Except.error (mismatch.fault_shift offset whole left right)

theorem shifts_resolve (name : String) (span : Span) :
    Shifts offset id id (resolve name span) (resolve name (span.shift offset)) := by
  refine shifts_look fun layers state => ?_
  split <;> rfl

theorem shifts_regex (rejection : Cause) (source : String) (span : Span) :
    Shifts offset id id (regex rejection source span)
      (regex rejection source (span.shift offset)) := by
  unfold regex
  split
  · exact shifts_pure _
  · exact shifts_fail _ _

theorem shifts_draw (span : Span) (low high : Value) :
    Shifts offset id id (draw span low high) (draw (span.shift offset) low high) := by
  intro layers state
  simp only [draw, id]
  split
  · rfl
  · split <;> rfl

theorem shifts_changeFilament (span : Span) (filament : Value) :
    Shifts offset id id (changeFilament span filament)
      (changeFilament (span.shift offset) filament) := by
  intro layers state
  simp only [changeFilament, id]
  split <;> rfl

end Eval

open Evaluation Eval Sourced

variable {offset : Nat}

mutual

/-- An expression that stands further behind has the same value. -/
theorem Expr.eval_shifts (expr : Expr) :
    Shifts offset id id expr.eval (expr.mapSpans (Span.shift offset)).eval := by
  rw [Expr.eval.eq_def, Expr.eval.eq_def]
  apply shifts_unlessSkipping
  cases expr with
  | literal span value =>
      exact shifts_pure value
  | read span reference =>
      exact reference.bind_shifts.bind fun binding =>
        shifts_look fun layers state => binding.read_shift offset layers state
  | unary span operator operand =>
      refine operand.eval_shifts.bind fun value => ?_
      rw [Expr.span_mapSpans]
      exact shifts_operate _ _ _ _
  | binary span operator left right =>
      refine left.eval_shifts.bind fun first => right.eval_shifts.bind fun second => ?_
      rw [Expr.span_mapSpans, Expr.span_mapSpans]
      exact shifts_operate _ _ _ _
  | fullMatch span negated subject source sourceSpan =>
      simp only [Expr.mapSpans, Expr.span_mapSpans]
      exact (shifts_string subject.eval_shifts _ _).bind fun text =>
          (shifts_regex _ source sourceSpan).bind fun pattern =>
            shifts_pure _
  | conditional span condition yes no =>
      simp only [Expr.mapSpans, Expr.span_mapSpans]
      exact (shifts_expecting (fun source => source.truth_shift offset _) _
        condition.eval_shifts).bind fun holds =>
          (shifts_within holds yes.eval_shifts).bind fun first =>
            (shifts_within (! holds) no.eval_shifts).bind fun second =>
              shifts_pure _
  | call span call =>
      exact call.eval_shifts span

/-- So has a variable the same binding. -/
theorem Reference.bind_shifts (reference : Reference Expr) :
    Shifts offset id (Binding.shift offset) reference.bind
      (reference.mapSpans (Span.shift offset)).bind := by
  match reference with
  | ⟨name, nameSpan, none, span⟩ =>
      rw [Reference.bind, Reference.mapSpans, Reference.bind]
      exact (shifts_resolve name nameSpan).bind fun (scope, _) =>
        shifts_pure (Binding.mk name scope none span)
  | ⟨name, nameSpan, some index, span⟩ =>
      rw [Reference.bind, Reference.mapSpans, Reference.bind]
      refine (shifts_resolve name nameSpan).bind fun (scope, isVector) => ?_
      simp only [Expr.span_mapSpans, id]
      exact (shifts_expecting (fun source => source.place_shift offset isVector) _
        index.eval_shifts).bind fun place =>
          shifts_pure (Binding.mk name scope place span)

/-- So has a call, argument by argument. -/
theorem Call.eval_shifts (call : Call) (span : Span) :
    Shifts offset id id (call.eval span)
      ((call.mapSpans (Span.shift offset)).eval (span.shift offset)) := by
  cases call with
  | minimum left right =>
      simp only [Call.mapSpans, Call.eval, Expr.span_mapSpans]
      exact (shifts_number left.eval_shifts _ _).bind fun first =>
        (shifts_number right.eval_shifts _ _).bind fun second => shifts_pure _
  | maximum left right =>
      simp only [Call.mapSpans, Call.eval, Expr.span_mapSpans]
      exact (shifts_number left.eval_shifts _ _).bind fun first =>
        (shifts_number right.eval_shifts _ _).bind fun second => shifts_pure _
  | random low high =>
      simp only [Call.mapSpans, Call.eval, Expr.span_mapSpans]
      exact (shifts_number low.eval_shifts _ _).bind fun first =>
        (shifts_number high.eval_shifts _ _).bind fun second => shifts_draw span first second
  | changeFilament filament =>
      simp only [Call.mapSpans, Call.eval, Expr.span_mapSpans]
      exact (shifts_number filament.eval_shifts _ _).bind fun value =>
        shifts_changeFilament filament.span value
  | digits zeros value width places =>
      match places with
      | none =>
          simp only [Call.mapSpans, Call.eval, Expr.span_mapSpans]
          exact (shifts_number value.eval_shifts _ _).bind fun value =>
            (shifts_whole width.eval_shifts _ _).bind fun width => shifts_pure _
      | some places =>
          simp only [Call.mapSpans, Call.eval, Expr.span_mapSpans]
          exact (shifts_number value.eval_shifts _ _).bind fun value =>
            (shifts_whole width.eval_shifts _ _).bind fun width =>
              (shifts_whole places.eval_shifts _ _).bind fun places => shifts_pure _
  | round rounding argument =>
      simp only [Call.mapSpans, Call.eval, Expr.span_mapSpans]
      exact argument.eval_shifts.bind fun value =>
        shifts_operate _ _ _ _
  | isNil reference =>
      simp only [Call.mapSpans, Call.eval]
      refine reference.bind_shifts.bind fun binding => ?_
      exact (shifts_look fun layers state =>
        binding.isNil_shift offset layers state).map fun _ => rfl
  | isEmpty reference =>
      simp only [Call.mapSpans, Call.eval]
      refine reference.bind_shifts.bind fun binding => Shifts.bind ?_ fun size => shifts_pure _
      refine shifts_look fun layers state => ?_
      rw [Reference.mapSpans_eq, Option.isSome_map]
      exact binding.vectorSize_shift offset layers state _ _
  | size reference =>
      simp only [Call.mapSpans, Call.eval]
      refine reference.bind_shifts.bind fun binding => Shifts.bind ?_ fun size => shifts_pure _
      refine shifts_look fun layers state => ?_
      rw [Reference.mapSpans_eq, Option.isSome_map]
      exact binding.vectorSize_shift offset layers state _ _
  | oneOf subject candidates =>
      simp only [Call.mapSpans, Call.eval, Expr.span_mapSpans]
      exact subject.eval_shifts.bind fun value =>
        (Candidate.anyAccepts_shifts ⟨value, subject.span⟩ candidates).map fun _ => rfl
  | interpolate abscissa table =>
      simp only [Call.mapSpans, Call.eval, Expr.span_mapSpans]
      refine (shifts_number abscissa.eval_shifts _ _).bind fun x =>
        (Table.eval_shifts table).bind fun knots => ?_
      refine Shifts.map (f := id) (shifts_ofExcept ?_) fun _ => rfl
      rw [id_map]
      exact Table.interpolate_shift offset knots x.toFloat abscissa.span

theorem Candidate.anyAccepts_shifts
    (subject : Sourced)
    (candidates : List (Candidate Expr)) :
    Shifts offset id id (Candidate.anyAccepts subject candidates)
      (Candidate.anyAccepts (subject.shift offset)
        (Candidate.mapAllSpans (Span.shift offset) candidates)) := by
  cases candidates with
  | nil =>
      rw [Candidate.anyAccepts, Candidate.mapAllSpans, Candidate.anyAccepts]
      exact shifts_pure false
  | cons candidate rest =>
      rw [Candidate.anyAccepts, Candidate.mapAllSpans, Candidate.anyAccepts]
      refine Shifts.bind (f := id) (shifts_ofExcept ?_) fun text =>
        (candidate.accepts_shifts text).bind fun accepted => ?_
      · rw [id_map]
        exact subject.string_shift offset _
      · cases accepted with
        | true => exact shifts_pure true
        | false => exact Candidate.anyAccepts_shifts subject rest

theorem Candidate.accepts_shifts (candidate : Candidate Expr) (text : String) :
    Shifts offset id id (candidate.accepts text)
      ((candidate.mapSpans (Span.shift offset)).accepts text) := by
  cases candidate with
  | text expr =>
      simp only [Candidate.mapSpans, Candidate.accepts, Expr.span_mapSpans]
      exact (shifts_string expr.eval_shifts _ _).bind fun expected =>
          shifts_pure _
  | pattern expr =>
      simp only [Candidate.mapSpans, Candidate.accepts, Expr.span_mapSpans]
      exact (shifts_string expr.eval_shifts _ _).bind fun source =>
          (shifts_regex _ source expr.span).bind fun pattern =>
            shifts_pure _
  | regex source span =>
      simp only [Candidate.mapSpans, Candidate.accepts]
      exact (shifts_regex _ source span).bind fun pattern =>
        shifts_pure _

theorem Table.eval_shifts (table : List (Expr × Expr)) :
    Shifts offset id (List.map (Knot.shift offset)) (Table.eval table)
      (Table.eval (Table.mapSpans (Span.shift offset) table)) := by
  match table with
  | [] =>
      rw [Table.eval, Table.mapSpans, Table.eval]
      exact shifts_pure []
  | (x, y) :: rest =>
      rw [Table.eval, Table.mapSpans, Table.eval]
      simp only [Expr.span_mapSpans]
      exact (shifts_number x.eval_shifts _ _).bind fun abscissa =>
        (shifts_number y.eval_shifts _ _).bind fun ordinate =>
          (Table.eval_shifts rest).bind fun knots =>
            shifts_pure (Knot.mk abscissa.toFloat ordinate.toFloat x.span :: knots)

end

theorem Expr.evalCondition_shifts (expr : Expr) :
    Shifts offset id id expr.evalCondition
      (expr.mapSpans (Span.shift offset)).evalCondition := by
  rw [Expr.evalCondition, Expr.evalCondition, Expr.span_mapSpans]
  exact shifts_expecting (fun source => source.truth_shift offset _) _ expr.eval_shifts

end GcodeTemplate
