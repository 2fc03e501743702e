import GcodeTemplate.Proofs.Frame

/-!
# Changes of the filament

An expression can be evaluated with a trace: besides its result there are then the
values of the filaments that it changed to, one for every call that got as far as
having a number.  The trace stops with the evaluation, at a fault or at the end, and a
branch that is not taken puts nothing into it.  So the trace tells the extruder that an
expression leaves.  Nothing else changes but the generator of random numbers, and that
one only if the expression has a call that draws.
-/

namespace GcodeTemplate

open Evaluation
open State (SameFrame)

/-- The extruder that a filament belongs to; a negative number is no filament. -/
def Value.extruder? (filament : Value) : Option Nat :=
  if filament.truncated < 0 then none else some filament.truncated.toInt.toNat

/-- The extruder after changes of the filament, of which the last one counts. -/
def extruderAfter (initial : Nat) (filaments : List Value) : Nat :=
  (filaments.filterMap Value.extruder?).getLast?.getD initial

@[simp]
theorem extruderAfter_nil (initial : Nat) : extruderAfter initial [] = initial :=
  rfl

theorem extruderAfter_append
    (initial : Nat)
    (filaments further : List Value) :
    extruderAfter initial (filaments ++ further) =
      extruderAfter (extruderAfter initial filaments) further := by
  simp only [extruderAfter, List.filterMap_append, List.getLast?_append, Option.getD_or]

/-! ## Traces -/

/-- An evaluation, and the values of the filaments that it changes to. -/
def Traced (α : Type) : Type :=
  Layers → State → (Except Fault α × State) × List Value

namespace Traced

variable {α β : Type}

instance : Monad Traced where
  pure a := fun _ state => ((.ok a, state), [])
  bind first next := fun layers state =>
    match first layers state with
    | ((.error fault, after), filaments) => ((.error fault, after), filaments)
    | ((.ok a, after), filaments) =>
        let (outcome, further) := next a layers after
        (outcome, filaments ++ further)

/-- An evaluation that changes no filament. -/
def ofEval (evaluation : Eval α) : Traced α :=
  fun layers state => (evaluation layers state, [])

/-- Evaluate an expression at a span, and take its value as what it has to be. -/
def expecting
    (check : Sourced → Except Fault α)
    (span : Span)
    (evaluation : Traced Value) :
    Traced α := do
  let value ← evaluation
  ofEval (ofExcept (check ⟨value, span⟩))

/-- Evaluate inside of a block, and leave it also after a fault. -/
def within (active : Bool) (body : Traced α) : Traced α :=
  fun layers state =>
    let ((result, after), filaments) := body layers (state.enter active)
    ((result, after.leave state active), filaments)

/-- In a block that is not taken nothing is evaluated. -/
def unlessSkipping (evaluation : Traced Value) : Traced Value :=
  fun layers state =>
    if state.isSkipping then
      ((.ok .empty, state), [])
    else
      evaluation layers state

/-- Go over to another extruder, and put the filament into the trace. -/
def changeFilament (span : Span) (filament : Value) : Traced Value :=
  fun layers state => (Eval.changeFilament span filament layers state, [filament])

end Traced

open Traced Sourced

mutual

/-- The value of an expression, with its changes of the filament. -/
def Expr.evalTraced (expr : Expr) : Traced Value :=
  unlessSkipping <|
    match expr with
    | .literal _ value => pure value
    | .read _ reference => do
        let binding ← reference.bindTraced
        ofEval (Eval.read binding)
    | .unary span operator operand => do
        let value ← operand.evalTraced
        ofEval (Eval.operate (operator.apply value) span operand.span operand.span)
    | .binary span operator left right => do
        let first ← left.evalTraced
        let second ← right.evalTraced
        ofEval (Eval.operate (operator.apply first second) span left.span right.span)
    | .fullMatch _ negated subject source sourceSpan => do
        let text ← expecting (string .matchedNotString) subject.span subject.evalTraced
        let pattern ← ofEval (Eval.regex (.patternMalformed source) source sourceSpan)
        pure (.bool (pattern.accepts text != negated))
    | .conditional _ condition yes no => do
        let holds ← expecting (truth .notACondition) condition.span condition.evalTraced
        let first ← within holds yes.evalTraced
        let second ← within (! holds) no.evalTraced
        pure (if holds then first else second)
    | .call span call => call.evalTraced span

/-- The binding of a reference, with its index evaluated. -/
def Reference.bindTraced (reference : Reference Expr) : Traced Binding :=
  match reference with
  | ⟨name, nameSpan, none, span⟩ => do
      let (scope, _) ← ofEval (Eval.resolve name nameSpan)
      pure ⟨name, scope, none, span⟩
  | ⟨name, nameSpan, some index, span⟩ => do
      let (scope, isVector) ← ofEval (Eval.resolve name nameSpan)
      let place ← expecting (place isVector) index.span index.evalTraced
      pure ⟨name, scope, place, span⟩

/-- The value of a call that stands at a span. -/
def Call.evalTraced (call : Call) (span : Span) : Traced Value :=
  match call with
  | .minimum left right => do
      let first ← expecting (number .argumentNotNumeric) left.span left.evalTraced
      let second ← expecting (number .argumentNotNumeric) right.span right.evalTraced
      pure (Value.Extreme.least.of first second)
  | .maximum left right => do
      let first ← expecting (number .argumentNotNumeric) left.span left.evalTraced
      let second ← expecting (number .argumentNotNumeric) right.span right.evalTraced
      pure (Value.Extreme.greatest.of first second)
  | .random low high => do
      let first ← expecting (number .argumentNotNumeric) low.span low.evalTraced
      let second ← expecting (number .argumentNotNumeric) high.span high.evalTraced
      ofEval (Eval.draw span first second)
  | .changeFilament filament => do
      let value ← expecting (number .argumentNotNumeric) filament.span filament.evalTraced
      changeFilament filament.span value
  | .digits zeros value width none => do
      let value ← expecting (number .argumentNotNumeric) value.span value.evalTraced
      let width ← expecting (whole .widthNotWhole) width.span width.evalTraced
      pure (.string (value.columnText zeros width none))
  | .digits zeros value width (some places) => do
      let value ← expecting (number .argumentNotNumeric) value.span value.evalTraced
      let width ← expecting (whole .widthNotWhole) width.span width.evalTraced
      let places ← expecting (whole .placesNotWhole) places.span places.evalTraced
      pure (.string (value.columnText zeros width (some places)))
  | .round rounding argument => do
      let value ← argument.evalTraced
      ofEval (Eval.operate (value.toInt rounding) span argument.span argument.span)
  | .isNil reference => do
      let binding ← reference.bindTraced
      ofEval (.bool <$> Eval.inspect binding.isNil)
  | .isEmpty reference => do
      let binding ← reference.bindTraced
      let size ← ofEval
        (Eval.inspect (binding.vectorSize reference.index.isSome .emptyOfScalar))
      pure (.bool (size == 0))
  | .size reference => do
      let binding ← reference.bindTraced
      let size ← ofEval
        (Eval.inspect (binding.vectorSize reference.index.isSome .sizeOfScalar))
      pure (.int (.ofNat size))
  | .oneOf subject candidates => do
      let value ← subject.evalTraced
      let accepted ← Candidate.anyAcceptsTraced ⟨value, subject.span⟩ candidates
      pure (.bool accepted)
  | .interpolate abscissa table => do
      let x ← expecting (number .abscissaNotNumeric) abscissa.span abscissa.evalTraced
      let knots ← Table.evalTraced table
      ofEval (.double <$> ofExcept (knots.interpolate x.toFloat abscissa.span))

/-- Whether a candidate accepts a subject; none is evaluated after one that does. -/
def Candidate.anyAcceptsTraced (subject : Sourced) : List (Candidate Expr) → Traced Bool
  | [] => pure false
  | candidate :: rest => do
      let text ← ofEval (ofExcept (string .subjectNotString subject))
      if ← candidate.acceptsTraced text then
        pure true
      else
        Candidate.anyAcceptsTraced subject rest

/-- Whether a candidate accepts a text. -/
def Candidate.acceptsTraced (candidate : Candidate Expr) (text : String) : Traced Bool :=
  match candidate with
  | .text expr => do
      let expected ← expecting (string .patternNotString) expr.span expr.evalTraced
      pure ((Pattern.literal expected).accepts text)
  | .pattern expr => do
      let source ← expecting (string .patternNotString) expr.span expr.evalTraced
      let pattern ← ofEval (Eval.regex .patternRejected source expr.span)
      pure (pattern.accepts text)
  | .regex source span => do
      let pattern ← ofEval (Eval.regex (.patternMalformed source) source span)
      pure (pattern.accepts text)

/-- The points of a table. -/
def Table.evalTraced : List (Expr × Expr) → Traced Table
  | [] => pure []
  | (x, y) :: rest => do
      let abscissa ← expecting (number .knotAbscissaNotNumeric) x.span x.evalTraced
      let ordinate ← expecting (number .knotOrdinateNotNumeric) y.span y.evalTraced
      let knots ← Table.evalTraced rest
      pure (⟨abscissa.toFloat, ordinate.toFloat, x.span⟩ :: knots)

end

/-! ## What traces tell -/

namespace State

/-- Two states with the same extruder. -/
def SameExtruder (before after : State) : Prop :=
  after.extruder = before.extruder

instance : IsPreorder State SameExtruder where
  refl _ := rfl
  trans _ _ _ first second := Eq.trans second first

/-- Two states with the same generator of random numbers. -/
def SameRandom (before after : State) : Prop :=
  after.random? = before.random?

instance : IsPreorder State SameRandom where
  refl _ := rfl
  trans _ _ _ first second := Eq.trans second first

end State

namespace Eval

open State (SameExtruder SameRandom)

variable {layers : Layers}

theorem keepsExtruder_draw
    (span : Span)
    (low high : Value) :
    (draw span low high).Keeps SameExtruder layers := by
  intro state
  unfold draw
  split
  · exact refl state
  · split
    · exact refl state
    · rfl

theorem keepsRandom_changeFilament
    (span : Span)
    (filament : Value) :
    (changeFilament span filament).Keeps SameRandom layers := by
  intro state
  unfold changeFilament
  dsimp only
  split
  · exact refl state
  · rfl

end Eval

open Eval
open State (SameExtruder SameRandom)

/-- Only a change of the filament goes over to another extruder. -/
theorem State.permits_sameExtruder (layers : Layers) :
    State.Permits layers SameExtruder (· ≠ .switch) where
  switch _ _ permitted := absurd rfl permitted
  draw span low high _ := keepsExtruder_draw span low high
  block same := by
    simpa [SameExtruder, State.enter_eq, State.leave_eq] using same

/-- Only a draw has an effect on the generator of random numbers. -/
theorem State.permits_sameRandom (layers : Layers) :
    State.Permits layers SameRandom (· ≠ .draw) where
  switch span filament _ := keepsRandom_changeFilament span filament
  draw _ _ _ permitted := absurd rfl permitted
  block same := by
    simpa [SameRandom, State.random?, State.enter_eq, State.leave_eq] using same

/--
A traced evaluation does what an evaluation does, and its trace consists of numbers
that tell the extruder which is left.
-/
structure Traced.Traces
    {α : Type}
    (layers : Layers)
    (traced : Traced α)
    (evaluation : Eval α) : Prop where
  same (state : State) :
    (traced layers state).1 = evaluation layers state
  extruder (state : State) :
    (evaluation layers state).2.extruder =
      extruderAfter state.extruder (traced layers state).2
  numeric (state : State) :
    ∀ filament ∈ (traced layers state).2, filament.isNumeric

namespace Traced

variable {α β : Type} {layers : Layers}

theorem traces_ofEval
    {evaluation : Eval α}
    (keeps : evaluation.Keeps SameExtruder layers) :
    Traces layers (ofEval evaluation) evaluation where
  same _ := rfl
  extruder := keeps
  numeric _ _ member := nomatch member

theorem traces_pure (a : α) :
    Traces layers (pure a) (pure a) :=
  traces_ofEval (keeps_pure a)

/-- One evaluation after the other has the one trace after the other. -/
theorem Traces.bind
    {first : Traced α}
    {evaluation : Eval α}
    {next : α → Traced β}
    {following : α → Eval β}
    (firstTraces : Traces layers first evaluation)
    (nextTraces : ∀ a, (∃ state, (evaluation layers state).1 = .ok a) →
      Traces layers (next a) (following a)) :
    Traces layers (first >>= next) (evaluation >>= following) := by
  have step (state : State) :
      ((first >>= next) layers state).1 = (evaluation >>= following) layers state ∧
        ((evaluation >>= following) layers state).2.extruder =
          extruderAfter state.extruder ((first >>= next) layers state).2 ∧
        ∀ filament ∈ ((first >>= next) layers state).2, filament.isNumeric := by
    have same := firstTraces.same state
    have begun := firstTraces.extruder state
    have numbers := firstTraces.numeric state
    cases outcome : first layers state with
    | mk result filaments =>
        rw [outcome] at same begun numbers
        rcases result with ⟨result, after⟩
        have evaluated : evaluation layers state = (result, after) := same.symm
        rw [evaluated] at begun
        cases result with
        | error fault =>
            rw [bind_of_error evaluated]
            simp only [Bind.bind, outcome]
            exact ⟨trivial, begun, numbers⟩
        | ok a =>
            have goesOn := nextTraces a ⟨state, by rw [evaluated]⟩
            rw [bind_of_ok evaluated]
            simp only [Bind.bind, outcome]
            refine ⟨goesOn.same after, ?_, ?_⟩
            · rw [extruderAfter_append, ← begun]
              exact goesOn.extruder after
            · intro filament member
              rcases List.mem_append.1 member with earlier | later
              · exact numbers filament earlier
              · exact goesOn.numeric after filament later
  exact ⟨fun state => (step state).1, fun state => (step state).2.1, fun state => (step state).2.2⟩

theorem traces_expecting
    {traced : Traced Value}
    {evaluation : Eval Value}
    (check : Sourced → Except Fault α)
    (span : Span)
    (traces : Traces layers traced evaluation) :
    Traces layers (expecting check span traced) (Eval.expecting check span evaluation) :=
  traces.bind fun value _ => traces_ofEval (keeps_ofExcept (check ⟨value, span⟩))

theorem traces_within
    {traced : Traced α}
    {evaluation : Eval α}
    (active : Bool)
    (traces : Traces layers traced evaluation) :
    Traces layers (within active traced) (Eval.within active evaluation) where
  same state := by
    simp only [within, Eval.within, ← traces.same]
  extruder state := by
    have inside := traces.extruder (state.enter active)
    simpa [within, Eval.within, State.enter_eq, State.leave_eq] using inside
  numeric state :=
    traces.numeric (state.enter active)

theorem traces_unlessSkipping
    {traced : Traced Value}
    {evaluation : Eval Value}
    (traces : Traces layers traced evaluation) :
    Traces layers (unlessSkipping traced) (Eval.unlessSkipping evaluation) where
  same state := by
    unfold unlessSkipping Eval.unlessSkipping
    split
    · rfl
    · exact traces.same state
  extruder state := by
    unfold unlessSkipping Eval.unlessSkipping
    split
    · rfl
    · exact traces.extruder state
  numeric state := by
    unfold unlessSkipping
    split
    · nofun
    · exact traces.numeric state

theorem traces_changeFilament
    {filament : Value}
    (numeric : filament.isNumeric)
    (span : Span) :
    Traces layers (changeFilament span filament) (Eval.changeFilament span filament) where
  same _ := rfl
  extruder state := by
    simp only [changeFilament, Eval.changeFilament, extruderAfter, Value.extruder?,
      List.filterMap_cons, List.filterMap_nil]
    split <;> rfl
  numeric _ _ member := by
    rw [List.mem_singleton.1 member]
    exact numeric

end Traced

/-- What is taken as a number is one. -/
theorem Eval.isNumeric_of_expecting
    {layers : Layers}
    {cause : Cause}
    {span : Span}
    {evaluation : Eval Value}
    {state : State}
    {value : Value}
    (expected : (expecting (number cause) span evaluation layers state).1 = .ok value) :
    value.isNumeric := by
  rcases bind_eq_ok (Prod.ext expected rfl) with ⟨found, between, _, checked⟩
  have passed : number cause ⟨found, span⟩ = .ok value :=
    congrArg Prod.fst checked
  unfold number at passed
  split at passed
  next numeric =>
    cases passed
    exact numeric
  next =>
    nomatch passed

variable {layers : Layers}

mutual

/-- A traced evaluation of an expression evaluates it, and its trace tells the extruder. -/
theorem Expr.evalTraced_traces (expr : Expr) :
    Traces layers expr.evalTraced expr.eval := by
  rw [Expr.evalTraced.eq_def, Expr.eval.eq_def]
  apply traces_unlessSkipping
  cases expr with
  | literal span value =>
      exact traces_pure value
  | read span reference =>
      exact reference.bindTraced_traces.bind fun binding _ =>
        traces_ofEval (keeps_inspect binding.read)
  | unary span operator operand =>
      exact operand.evalTraced_traces.bind fun value _ =>
        traces_ofEval (keeps_ofExcept _)
  | binary span operator left right =>
      exact left.evalTraced_traces.bind fun first _ =>
        right.evalTraced_traces.bind fun second _ =>
          traces_ofEval (keeps_ofExcept _)
  | fullMatch span negated subject source sourceSpan =>
      exact (traces_expecting _ _ subject.evalTraced_traces).bind fun text _ =>
        (traces_ofEval (keeps_regex _ source sourceSpan)).bind fun pattern _ =>
          traces_pure _
  | conditional span condition yes no =>
      exact (traces_expecting _ _ condition.evalTraced_traces).bind fun holds _ =>
        (traces_within holds yes.evalTraced_traces).bind fun first _ =>
          (traces_within (! holds) no.evalTraced_traces).bind fun second _ =>
            traces_pure _
  | call span call =>
      exact call.evalTraced_traces span

theorem Reference.bindTraced_traces (reference : Reference Expr) :
    Traces layers reference.bindTraced reference.bind := by
  match reference with
  | ⟨name, nameSpan, none, span⟩ =>
      rw [Reference.bindTraced, Reference.bind]
      exact (traces_ofEval (keeps_inspect _)).bind fun (scope, _) _ =>
        traces_pure _
  | ⟨name, nameSpan, some index, span⟩ =>
      rw [Reference.bindTraced, Reference.bind]
      exact (traces_ofEval (keeps_inspect _)).bind fun (scope, isVector) _ =>
        (traces_expecting _ _ index.evalTraced_traces).bind fun place _ =>
          traces_pure _

theorem Call.evalTraced_traces (call : Call) (span : Span) :
    Traces layers (call.evalTraced span) (call.eval span) := by
  cases call with
  | minimum left right =>
      rw [Call.evalTraced, Call.eval]
      exact (traces_expecting _ _ left.evalTraced_traces).bind fun first _ =>
        (traces_expecting _ _ right.evalTraced_traces).bind fun second _ =>
          traces_pure _
  | maximum left right =>
      rw [Call.evalTraced, Call.eval]
      exact (traces_expecting _ _ left.evalTraced_traces).bind fun first _ =>
        (traces_expecting _ _ right.evalTraced_traces).bind fun second _ =>
          traces_pure _
  | random low high =>
      rw [Call.evalTraced, Call.eval]
      exact (traces_expecting _ _ low.evalTraced_traces).bind fun first _ =>
        (traces_expecting _ _ high.evalTraced_traces).bind fun second _ =>
          traces_ofEval (keepsExtruder_draw span first second)
  | changeFilament filament =>
      rw [Call.evalTraced, Call.eval]
      exact (traces_expecting _ _ filament.evalTraced_traces).bind fun value ⟨_, expected⟩ =>
        traces_changeFilament (isNumeric_of_expecting expected) filament.span
  | digits zeros value width places =>
      match places with
      | none =>
          rw [Call.evalTraced, Call.eval]
          exact (traces_expecting _ _ value.evalTraced_traces).bind fun value _ =>
            (traces_expecting _ _ width.evalTraced_traces).bind fun width _ =>
              traces_pure _
      | some places =>
          rw [Call.evalTraced, Call.eval]
          exact (traces_expecting _ _ value.evalTraced_traces).bind fun value _ =>
            (traces_expecting _ _ width.evalTraced_traces).bind fun width _ =>
              (traces_expecting _ _ places.evalTraced_traces).bind fun places _ =>
                traces_pure _
  | round rounding argument =>
      rw [Call.evalTraced, Call.eval]
      exact argument.evalTraced_traces.bind fun value _ =>
        traces_ofEval (keeps_ofExcept _)
  | isNil reference =>
      rw [Call.evalTraced, Call.eval]
      exact reference.bindTraced_traces.bind fun binding _ =>
        traces_ofEval ((keeps_inspect binding.isNil).map _)
  | isEmpty reference =>
      rw [Call.evalTraced, Call.eval]
      exact reference.bindTraced_traces.bind fun binding _ =>
        (traces_ofEval (keeps_inspect _)).bind fun size _ =>
          traces_pure _
  | size reference =>
      rw [Call.evalTraced, Call.eval]
      exact reference.bindTraced_traces.bind fun binding _ =>
        (traces_ofEval (keeps_inspect _)).bind fun size _ =>
          traces_pure _
  | oneOf subject candidates =>
      rw [Call.evalTraced, Call.eval]
      refine subject.evalTraced_traces.bind fun value _ => ?_
      rw [map_eq_pure_bind]
      exact (Candidate.anyAcceptsTraced_traces ⟨value, subject.span⟩ candidates).bind
        fun accepted _ => traces_pure _
  | interpolate abscissa table =>
      rw [Call.evalTraced, Call.eval]
      exact (traces_expecting _ _ abscissa.evalTraced_traces).bind fun x _ =>
        (Table.evalTraced_traces table).bind fun knots _ =>
          traces_ofEval ((keeps_ofExcept _).map _)

theorem Candidate.anyAcceptsTraced_traces
    (subject : Sourced)
    (candidates : List (Candidate Expr)) :
    Traces layers (Candidate.anyAcceptsTraced subject candidates)
      (Candidate.anyAccepts subject candidates) := by
  cases candidates with
  | nil =>
      rw [Candidate.anyAcceptsTraced, Candidate.anyAccepts]
      exact traces_pure false
  | cons candidate rest =>
      rw [Candidate.anyAcceptsTraced, Candidate.anyAccepts]
      refine (traces_ofEval (keeps_ofExcept _)).bind fun text _ =>
        (candidate.acceptsTraced_traces text).bind fun accepted _ => ?_
      cases accepted with
      | true =>
          exact traces_pure true
      | false =>
          exact Candidate.anyAcceptsTraced_traces subject rest

theorem Candidate.acceptsTraced_traces
    (candidate : Candidate Expr)
    (text : String) :
    Traces layers (candidate.acceptsTraced text) (candidate.accepts text) := by
  cases candidate with
  | text expr =>
      rw [Candidate.acceptsTraced, Candidate.accepts]
      exact (traces_expecting _ _ expr.evalTraced_traces).bind fun expected _ =>
        traces_pure _
  | pattern expr =>
      rw [Candidate.acceptsTraced, Candidate.accepts]
      exact (traces_expecting _ _ expr.evalTraced_traces).bind fun source _ =>
        (traces_ofEval (keeps_regex _ source expr.span)).bind fun pattern _ =>
          traces_pure _
  | regex source span =>
      rw [Candidate.acceptsTraced, Candidate.accepts]
      exact (traces_ofEval (keeps_regex _ source span)).bind fun pattern _ =>
        traces_pure _

theorem Table.evalTraced_traces (table : List (Expr × Expr)) :
    Traces layers (Table.evalTraced table) (Table.eval table) := by
  match table with
  | [] =>
      rw [Table.evalTraced, Table.eval]
      exact traces_pure []
  | (x, y) :: rest =>
      rw [Table.evalTraced, Table.eval]
      exact (traces_expecting _ _ x.evalTraced_traces).bind fun abscissa _ =>
        (traces_expecting _ _ y.evalTraced_traces).bind fun ordinate _ =>
          (Table.evalTraced_traces rest).bind fun knots _ =>
            traces_pure _

end

/--
An expression leaves all variables and the count of blocks that are not taken as they
were, with a value or with a fault.  The extruder that it leaves is the one of the last
filament that it has changed to, if there is one; and the generator of random numbers
stays as it was unless a call that draws stands in the expression.
-/
theorem expressions_pure_but_for_filament_and_random
    (layers : Layers)
    (expr : Expr)
    (state : State) :
    let (outcome, filaments) := expr.evalTraced layers state
    outcome = expr.eval layers state ∧
      SameFrame state outcome.2 ∧
      outcome.2.extruder = extruderAfter state.extruder filaments ∧
      (∀ filament ∈ filaments, filament.isNumeric) ∧
      (expr.has .switch = false → outcome.2.extruder = state.extruder) ∧
      (expr.has .draw = false → outcome.2.random? = state.random?) := by
  have traces : Traces layers expr.evalTraced expr.eval := expr.evalTraced_traces
  dsimp only
  rw [traces.same]
  refine ⟨rfl, expr.eval_keepsFrame state, traces.extruder state, traces.numeric state, ?_, ?_⟩
  · intro none
    refine expr.eval_keeps (State.permits_sameExtruder layers) ?_ state
    rintro effect some rfl
    simp [none] at some
  · intro none
    refine expr.eval_keeps (State.permits_sameRandom layers) ?_ state
    rintro effect some rfl
    simp [none] at some

/--
A filament is changed in an index and in the branch that is taken; the change to a
negative one is a fault, and the one in the other branch is not made.
-/
theorem filament_of_taken_branch_kept_after_fault :
    let change (filament : Int64) : Expr := .call {} (.changeFilament (.literal {} (.int filament)))
    let chosen : Expr := .conditional {} (.literal {} (.bool true)) (change 3) (change 5)
    let speeds : Expr := .read {} ⟨"speeds", {}, some (change 2), {}⟩
    let expr : Expr := .binary {} (.logic .and) speeds (.binary {} (.logic .or) chosen (change (-1)))
    let layers : Layers := { process := .ofList [("speeds", .ints [some 60, some 80])] }
    let state : State := {}
    (expr.evalTraced layers state).2 = [.int 2, .int 3, .int (-1)] ∧
      (expr.eval layers state).1 = .error ⟨.negativeFilament, {}⟩ ∧
      SameFrame state (expr.eval layers state).2 ∧
      (expr.eval layers state).2.extruder = 3 := by
  intro change chosen speeds expr layers state
  have effects := expressions_pure_but_for_filament_and_random layers expr state
  dsimp only at effects
  rcases effects with ⟨same, frame, extruder, _⟩
  rw [same] at frame extruder
  exact ⟨rfl, rfl, frame, extruder.trans rfl⟩

end GcodeTemplate
