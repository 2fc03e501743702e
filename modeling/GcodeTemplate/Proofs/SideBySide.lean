import GcodeTemplate.Proofs.Mentions
import GcodeTemplate.Proofs.Resolution

/-!
# Two runs of one expression

An expression is evaluated in two contexts at the same time.  A relation between the
states of the two couples them if related states answer alike under the names that the
expression mentions, and if whatever can change a state leaves related states related.
Then both runs come to the same result, step by step: they find the same bindings, read
the same values, draw the same numbers and go over to the same extruders.
-/

namespace GcodeTemplate

open Evaluation Eval

namespace Evaluation

variable {σ α β : Type}

/--
From related states the two runs of an evaluation come to the same result, and leave
states that are related again.
-/
def RunsAlike
    (layers other : Layers)
    (relation : σ → σ → Prop)
    (evaluation : Evaluation σ α) : Prop :=
  ∀ state there, relation state there →
    (evaluation other there).1 = (evaluation layers state).1 ∧
      relation (evaluation layers state).2 (evaluation other there).2

variable {layers other : Layers} {relation : σ → σ → Prop}

theorem runsAlike_ofExcept (result : Except Fault α) :
    RunsAlike layers other relation (ofExcept result) := by
  intro state there related
  exact ⟨rfl, related⟩

theorem runsAlike_pure (a : α) :
    RunsAlike layers other relation (pure a) :=
  runsAlike_ofExcept (.ok a)

theorem runsAlike_fail (cause : Cause) (span : Span) :
    RunsAlike layers other relation (fail cause span : Evaluation σ α) :=
  runsAlike_ofExcept (.error ⟨cause, span⟩)

/-- What follows has to be looked at for those results only that there can be. -/
theorem RunsAlike.bind
    {first : Evaluation σ α}
    {next : α → Evaluation σ β}
    (firstAlike : first.RunsAlike layers other relation)
    (nextAlike : ∀ a state after, first layers state = (.ok a, after) →
      (next a).RunsAlike layers other relation) :
    (first >>= next).RunsAlike layers other relation := by
  intro state there related
  rcases firstAlike state there related with ⟨same, relatedAfter⟩
  cases outcome : first layers state with
  | mk result after =>
      cases outcomeThere : first other there with
      | mk resultThere afterThere =>
          rw [outcome, outcomeThere] at same relatedAfter
          obtain rfl : resultThere = result := same
          cases resultThere with
          | error fault =>
              rw [bind_of_error outcome, bind_of_error outcomeThere]
              exact ⟨rfl, relatedAfter⟩
          | ok a =>
              rw [bind_of_ok outcome, bind_of_ok outcomeThere]
              exact nextAlike a state after outcome after afterThere relatedAfter

theorem RunsAlike.map
    {evaluation : Evaluation σ α}
    (alike : evaluation.RunsAlike layers other relation)
    (f : α → β) :
    (f <$> evaluation).RunsAlike layers other relation := by
  rw [map_eq_pure_bind]
  exact alike.bind fun a _ _ _ => runsAlike_pure (f a)

end Evaluation

namespace Eval

variable
  {α : Type}
  {layers other : Layers}
  {relation : State → State → Prop}

theorem runsAlike_inspect
    {look : Layers → State → Except Fault α}
    (same : ∀ state there, relation state there → look other there = look layers state) :
    (inspect look).RunsAlike layers other relation := by
  intro state there related
  exact ⟨same state there related, related⟩

theorem runsAlike_expecting
    {evaluation : Eval Value}
    (check : Sourced → Except Fault α)
    (span : Span)
    (alike : evaluation.RunsAlike layers other relation) :
    (expecting check span evaluation).RunsAlike layers other relation :=
  alike.bind fun value _ _ _ => runsAlike_ofExcept (check ⟨value, span⟩)

theorem runsAlike_regex
    (rejection : Cause)
    (source : String)
    (span : Span) :
    (regex rejection source span).RunsAlike layers other relation := by
  unfold regex
  split
  · exact runsAlike_pure _
  · exact runsAlike_fail _ _

/-- Both runs go over to the same extruder, if that leaves their states related. -/
theorem runsAlike_changeFilament
    (switched : ∀ state there (extruder : Nat), relation state there →
      relation { state with extruder := extruder } { there with extruder := extruder })
    (span : Span)
    (filament : Value) :
    (changeFilament span filament).RunsAlike layers other relation := by
  intro state there related
  simp only [changeFilament]
  split
  · exact ⟨rfl, related⟩
  · constructor
    · rfl
    · exact switched state there _ related

/-- The same generators draw the same numbers, and are the same again afterwards. -/
theorem runsAlike_draw
    (same : ∀ state there, relation state there → there.random? = state.random?)
    (drawn : ∀ state there source after, relation state there →
      state.random? = some source → there.random? = some source →
      relation (state.withRandom after) (there.withRandom after))
    (span : Span)
    (low high : Value) :
    (draw span low high).RunsAlike layers other relation := by
  intro state there related
  have random := same state there related
  simp only [draw, random]
  cases present : state.random? with
  | none =>
      exact ⟨rfl, related⟩
  | some source =>
      dsimp only
      cases source.draw? low high with
      | none =>
          exact ⟨rfl, related⟩
      | some outcome =>
          constructor
          · rfl
          · exact drawn state there source outcome.2 related present (random.trans present)

end Eval

/--
States that are told apart by nothing under certain names, neither now nor after a
step that an expression can take in both of them.
-/
structure State.Couples
    (layers other : Layers)
    (names : Set String)
    (relation : State → State → Prop) : Prop where
  suppressed {state there : State} :
    relation state there → there.suppressed = state.suppressed
  settings {state there : State} {name : String} :
    relation state there → name ∈ names → ∀ scope,
      settingIn other there scope name = settingIn layers state scope name
  read {state there : State} {binding : Binding} :
    relation state there → binding.key ∈ names →
      binding.read other there = binding.read layers state
  enter {state there : State} (active : Bool) :
    relation state there → relation (state.enter active) (there.enter active)
  leave {state there before beforeThere : State} (active : Bool) :
    relation state there → relation before beforeThere →
      relation (state.leave before active) (there.leave beforeThere active)
  switch (span : Span) (filament : Value) :
    (changeFilament span filament).RunsAlike layers other relation
  draw (span : Span) (low high : Value) :
    (Eval.draw span low high).RunsAlike layers other relation

/-! ## Steps that look at a state -/

namespace State.Couples

variable
  {α : Type}
  {layers other : Layers}
  {names : Set String}
  {relation : State → State → Prop}
  (couples : State.Couples layers other names relation)

include couples

theorem runsAlike_unlessSkipping
    {evaluation : Eval Value}
    (alike : evaluation.RunsAlike layers other relation) :
    (unlessSkipping evaluation).RunsAlike layers other relation := by
  intro state there related
  have same : there.isSkipping = state.isSkipping := by
    rw [isSkipping, isSkipping, couples.suppressed related]
  simp only [unlessSkipping, same]
  split
  · exact ⟨rfl, related⟩
  · exact alike state there related

theorem runsAlike_within
    {body : Eval α}
    (active : Bool)
    (alike : body.RunsAlike layers other relation) :
    (within active body).RunsAlike layers other relation := by
  intro state there related
  rcases alike _ _ (couples.enter active related) with ⟨same, left⟩
  exact ⟨same, couples.leave active left related⟩

theorem runsAlike_resolve
    {name : String}
    (mentioned : name ∈ names)
    (span : Span) :
    (resolve name span).RunsAlike layers other relation :=
  runsAlike_inspect fun state there related => by
    have same : lookUp other there name = lookUp layers state name := by
      simp only [lookUp_eq_findSome?, couples.settings related mentioned]
    rw [same]

section

variable {binding : Binding} (mentioned : binding.key ∈ names)

include mentioned

theorem setting_eq
    {state there : State}
    (related : relation state there) :
    binding.setting other there = binding.setting layers state := by
  rw [Binding.setting, Binding.setting, couples.settings related mentioned]

theorem runsAlike_read : (Eval.read binding).RunsAlike layers other relation :=
  runsAlike_inspect fun _ _ related => couples.read related mentioned

theorem runsAlike_setting : (Eval.setting binding).RunsAlike layers other relation :=
  runsAlike_inspect fun _ _ related => couples.setting_eq mentioned related

theorem runsAlike_isWholeVector :
    (inspect binding.isWholeVector).RunsAlike layers other relation :=
  runsAlike_inspect fun _ _ related => by
    rw [Binding.isWholeVector, Binding.isWholeVector, couples.setting_eq mentioned related]

theorem runsAlike_isNil : (inspect binding.isNil).RunsAlike layers other relation :=
  runsAlike_inspect fun _ _ related => by
    rw [Binding.isNil, Binding.isNil, couples.setting_eq mentioned related]

theorem runsAlike_vectorSize
    (hasIndex : Bool)
    (cause : Cause) :
    (inspect (binding.vectorSize hasIndex cause)).RunsAlike layers other relation :=
  runsAlike_inspect fun _ _ related => by
    rw [Binding.vectorSize, Binding.vectorSize, couples.setting_eq mentioned related]

end

end State.Couples

theorem Reference.name_mem_names (reference : Reference Expr) :
    reference.name ∈ reference.names := by
  rcases reference with ⟨name, _, _ | index, _⟩
  · simp [Reference.names]
  · simp [Reference.names]

variable
  {layers other : Layers}
  {names : Set String}
  {relation : State → State → Prop}

/-- What comes after a binding may rely on its name. -/
theorem Reference.runsAlike_bind_then
    {α : Type}
    {reference : Reference Expr}
    {next : Binding → Eval α}
    (bound : reference.bind.RunsAlike layers other relation)
    (mentioned : reference.name ∈ names)
    (alike : ∀ binding : Binding, binding.key ∈ names →
      (next binding).RunsAlike layers other relation) :
    (reference.bind >>= next).RunsAlike layers other relation :=
  bound.bind fun binding _ _ found =>
    alike binding ((Reference.bind_eq_ok found).1 ▸ mentioned)

/-! ## Expressions -/

mutual

/-- An expression depends on the names in it only. -/
theorem Expr.eval_runsAlike
    (couples : State.Couples layers other names relation)
    (expr : Expr)
    (mentioned : ∀ name ∈ expr.names, name ∈ names) :
    expr.eval.RunsAlike layers other relation := by
  rw [Expr.eval.eq_def]
  apply couples.runsAlike_unlessSkipping
  cases expr with
  | literal span value =>
      exact runsAlike_pure value
  | read span reference =>
      exact Reference.runsAlike_bind_then (reference.bind_runsAlike couples mentioned)
        (mentioned _ reference.name_mem_names) fun binding there => couples.runsAlike_read there
  | unary span operator operand =>
      exact (operand.eval_runsAlike couples mentioned).bind fun value _ _ _ =>
        runsAlike_ofExcept _
  | binary span operator left right =>
      simp only [Expr.names, List.mem_append, or_imp, forall_and] at mentioned
      exact (left.eval_runsAlike couples mentioned.1).bind fun first _ _ _ =>
        (right.eval_runsAlike couples mentioned.2).bind fun second _ _ _ =>
          runsAlike_ofExcept _
  | fullMatch span negated subject source sourceSpan =>
      have matched := subject.eval_runsAlike couples mentioned
      exact (runsAlike_expecting _ _ matched).bind fun text _ _ _ =>
        (runsAlike_regex _ source sourceSpan).bind fun pattern _ _ _ =>
          runsAlike_pure _
  | conditional span condition yes no =>
      simp only [Expr.names, List.mem_append, or_imp, forall_and] at mentioned
      have first := yes.eval_runsAlike couples mentioned.2.1
      have second := no.eval_runsAlike couples mentioned.2.2
      have asked := condition.eval_runsAlike couples mentioned.1
      exact (runsAlike_expecting _ _ asked).bind fun holds _ _ _ =>
        (couples.runsAlike_within holds first).bind fun _ _ _ _ =>
          (couples.runsAlike_within (! holds) second).bind fun _ _ _ _ =>
            runsAlike_pure _
  | call span call =>
      exact call.eval_runsAlike couples span mentioned

/-- So does the binding of a variable. -/
theorem Reference.bind_runsAlike
    (couples : State.Couples layers other names relation)
    (reference : Reference Expr)
    (mentioned : ∀ name ∈ reference.names, name ∈ names) :
    reference.bind.RunsAlike layers other relation := by
  have named := mentioned _ reference.name_mem_names
  match reference with
  | ⟨name, nameSpan, none, span⟩ =>
      rw [Reference.bind]
      exact (couples.runsAlike_resolve named nameSpan).bind fun _ _ _ _ =>
        runsAlike_pure _
  | ⟨name, nameSpan, some index, span⟩ =>
      rw [Reference.bind]
      simp only [Reference.names, List.mem_cons, forall_eq_or_imp] at mentioned
      exact (couples.runsAlike_resolve named nameSpan).bind fun _ _ _ _ =>
        (runsAlike_expecting _ _ (index.eval_runsAlike couples mentioned.2)).bind fun _ _ _ _ =>
          runsAlike_pure _

/-- So does a call. -/
theorem Call.eval_runsAlike
    (couples : State.Couples layers other names relation)
    (call : Call)
    (span : Span)
    (mentioned : ∀ name ∈ call.names, name ∈ names) :
    (call.eval span).RunsAlike layers other relation := by
  match call with
  | .minimum left right =>
      simp only [Call.names, List.mem_append, or_imp, forall_and] at mentioned
      exact (runsAlike_expecting _ _ (left.eval_runsAlike couples mentioned.1)).bind fun _ _ _ _ =>
        (runsAlike_expecting _ _ (right.eval_runsAlike couples mentioned.2)).bind fun _ _ _ _ =>
          runsAlike_pure _
  | .maximum left right =>
      simp only [Call.names, List.mem_append, or_imp, forall_and] at mentioned
      exact (runsAlike_expecting _ _ (left.eval_runsAlike couples mentioned.1)).bind fun _ _ _ _ =>
        (runsAlike_expecting _ _ (right.eval_runsAlike couples mentioned.2)).bind fun _ _ _ _ =>
          runsAlike_pure _
  | .random low high =>
      simp only [Call.names, List.mem_append, or_imp, forall_and] at mentioned
      exact (runsAlike_expecting _ _ (low.eval_runsAlike couples mentioned.1)).bind fun _ _ _ _ =>
        (runsAlike_expecting _ _ (high.eval_runsAlike couples mentioned.2)).bind fun _ _ _ _ =>
          couples.draw span _ _
  | .changeFilament filament =>
      have chosen := filament.eval_runsAlike couples mentioned
      exact (runsAlike_expecting _ _ chosen).bind fun _ _ _ _ =>
        couples.switch _ _
  | .digits zeros value width none =>
      simp only [Call.names, List.mem_append, or_imp, forall_and] at mentioned
      exact (runsAlike_expecting _ _ (value.eval_runsAlike couples mentioned.1)).bind fun _ _ _ _ =>
        (runsAlike_expecting _ _ (width.eval_runsAlike couples mentioned.2)).bind fun _ _ _ _ =>
          runsAlike_pure _
  | .digits zeros value width (some places) =>
      simp only [Call.names, List.mem_append, or_imp, forall_and] at mentioned
      have shown := places.eval_runsAlike couples mentioned.2.2
      exact (runsAlike_expecting _ _ (value.eval_runsAlike couples mentioned.1)).bind fun _ _ _ _ =>
        (runsAlike_expecting _ _ (width.eval_runsAlike couples mentioned.2.1)).bind fun _ _ _ _ =>
          (runsAlike_expecting _ _ shown).bind fun _ _ _ _ =>
            runsAlike_pure _
  | .round rounding argument =>
      exact (argument.eval_runsAlike couples mentioned).bind fun _ _ _ _ =>
        runsAlike_ofExcept _
  | .isNil reference =>
      exact Reference.runsAlike_bind_then (reference.bind_runsAlike couples mentioned)
        (mentioned _ reference.name_mem_names) fun binding there =>
          (couples.runsAlike_isNil there).map _
  | .isEmpty reference =>
      exact Reference.runsAlike_bind_then (reference.bind_runsAlike couples mentioned)
        (mentioned _ reference.name_mem_names) fun binding there =>
          (couples.runsAlike_vectorSize there _ _).bind fun _ _ _ _ => runsAlike_pure _
  | .size reference =>
      exact Reference.runsAlike_bind_then (reference.bind_runsAlike couples mentioned)
        (mentioned _ reference.name_mem_names) fun binding there =>
          (couples.runsAlike_vectorSize there _ _).bind fun _ _ _ _ => runsAlike_pure _
  | .oneOf subject candidates =>
      simp only [Call.names, List.mem_append, or_imp, forall_and] at mentioned
      exact (subject.eval_runsAlike couples mentioned.1).bind fun _ _ _ _ =>
        (Candidate.anyAccepts_runsAlike couples _ candidates mentioned.2).map _
  | .interpolate abscissa table =>
      simp only [Call.names, List.mem_append, or_imp, forall_and] at mentioned
      have placed := abscissa.eval_runsAlike couples mentioned.1
      exact (runsAlike_expecting _ _ placed).bind fun _ _ _ _ =>
        (Table.eval_runsAlike couples table mentioned.2).bind fun _ _ _ _ =>
          (runsAlike_ofExcept _).map _

theorem Candidate.anyAccepts_runsAlike
    (couples : State.Couples layers other names relation)
    (subject : Sourced)
    (candidates : List (Candidate Expr))
    (mentioned : ∀ name ∈ Candidate.allNames candidates, name ∈ names) :
    (Candidate.anyAccepts subject candidates).RunsAlike layers other relation := by
  match candidates with
  | [] =>
      rw [Candidate.anyAccepts]
      exact runsAlike_pure false
  | candidate :: rest =>
      rw [Candidate.anyAccepts]
      simp only [Candidate.allNames, List.mem_append, or_imp, forall_and] at mentioned
      refine (runsAlike_ofExcept _).bind fun text _ _ _ => ?_
      refine (candidate.accepts_runsAlike couples text mentioned.1).bind fun accepted _ _ _ => ?_
      cases accepted with
      | true => exact runsAlike_pure true
      | false => exact Candidate.anyAccepts_runsAlike couples subject rest mentioned.2

theorem Candidate.accepts_runsAlike
    (couples : State.Couples layers other names relation)
    (candidate : Candidate Expr)
    (text : String)
    (mentioned : ∀ name ∈ candidate.names, name ∈ names) :
    (candidate.accepts text).RunsAlike layers other relation := by
  match candidate with
  | .text expr =>
      rw [Candidate.accepts]
      exact (runsAlike_expecting _ _ (expr.eval_runsAlike couples mentioned)).bind fun _ _ _ _ =>
        runsAlike_pure _
  | .pattern expr =>
      rw [Candidate.accepts]
      have expected := expr.eval_runsAlike couples mentioned
      exact (runsAlike_expecting _ _ expected).bind fun source _ _ _ =>
        (runsAlike_regex _ source expr.span).bind fun _ _ _ _ =>
          runsAlike_pure _
  | .regex source span =>
      rw [Candidate.accepts]
      exact (runsAlike_regex _ source span).bind fun _ _ _ _ =>
        runsAlike_pure _

theorem Table.eval_runsAlike
    (couples : State.Couples layers other names relation)
    (table : List (Expr × Expr))
    (mentioned : ∀ name ∈ Table.names table, name ∈ names) :
    (Table.eval table).RunsAlike layers other relation := by
  match table with
  | [] =>
      rw [Table.eval]
      exact runsAlike_pure []
  | (x, y) :: rest =>
      rw [Table.eval]
      simp only [Table.names, List.mem_append, or_imp, forall_and] at mentioned
      exact (runsAlike_expecting _ _ (x.eval_runsAlike couples mentioned.1)).bind fun _ _ _ _ =>
        (runsAlike_expecting _ _ (y.eval_runsAlike couples mentioned.2.1)).bind fun _ _ _ _ =>
          (Table.eval_runsAlike couples rest mentioned.2.2).bind fun _ _ _ _ =>
            runsAlike_pure _

end
theorem Expr.evalCondition_runsAlike
    (couples : State.Couples layers other names relation)
    (expr : Expr)
    (mentioned : ∀ name ∈ expr.names, name ∈ names) :
    expr.evalCondition.RunsAlike layers other relation :=
  runsAlike_expecting _ _ (expr.eval_runsAlike couples mentioned)

/-! ## What a variable is declared with -/

namespace Sourced

theorem ofExprs_runsAlike
    (couples : State.Couples layers other names relation)
    (exprs : List Expr)
    (mentioned : ∀ name ∈ exprs.flatMap Expr.names, name ∈ names) :
    (ofExprs exprs).RunsAlike layers other relation := by
  induction exprs with
  | nil =>
      exact runsAlike_pure []
  | cons expr rest ih =>
      simp only [List.flatMap_cons, List.mem_append, or_imp, forall_and] at mentioned
      exact (expr.eval_runsAlike couples mentioned.1).bind fun value _ _ _ =>
        (ih mentioned.2).bind fun others _ _ _ =>
          runsAlike_pure _

theorem ofExpr_runsAlike
    (couples : State.Couples layers other names relation)
    (expr : Expr)
    (mentioned : ∀ name ∈ expr.names, name ∈ names) :
    (ofExpr expr).RunsAlike layers other relation :=
  (expr.eval_runsAlike couples mentioned).bind fun _ _ _ _ =>
    runsAlike_pure _

theorem ofBinding_runsAlike
    (couples : State.Couples layers other names relation)
    {source : Binding}
    (mentioned : source.key ∈ names) :
    (ofBinding source).RunsAlike layers other relation :=
  (couples.runsAlike_read mentioned).bind fun _ _ _ _ =>
    runsAlike_pure _

end Sourced

/-- The setting of a new variable depends on what it is declared with only. -/
theorem Initializer.newSetting_runsAlike
    (couples : State.Couples layers other names relation)
    (nameSpan : Span)
    (initializer : Initializer)
    (mentioned : ∀ name ∈ initializer.names, name ∈ names) :
    (initializer.newSetting nameSpan).RunsAlike layers other relation := by
  cases initializer with
  | list span items =>
      exact (Sourced.ofExprs_runsAlike couples items mentioned).bind fun sources _ _ _ =>
        runsAlike_ofExcept _
  | fill span count value =>
      simp only [Initializer.names, List.mem_append, or_imp, forall_and] at mentioned
      exact (Sourced.ofExpr_runsAlike couples count mentioned.1).bind fun number _ _ _ =>
        (Sourced.ofExpr_runsAlike couples value mentioned.2).bind fun source _ _ _ =>
          (runsAlike_ofExcept _).bind fun count _ _ _ =>
            runsAlike_ofExcept _
  | reference referred =>
      refine Reference.runsAlike_bind_then (referred.bind_runsAlike couples mentioned)
        (mentioned _ referred.name_mem_names) fun source there => ?_
      refine (couples.runsAlike_isWholeVector there).bind fun whole _ _ _ => ?_
      cases whole with
      | true =>
          exact (couples.runsAlike_setting there).bind fun vector _ _ _ =>
            runsAlike_ofExcept _
      | false =>
          exact (Sourced.ofBinding_runsAlike couples there).bind fun value _ _ _ =>
            runsAlike_ofExcept _
  | expression expr =>
      exact (Sourced.ofExpr_runsAlike couples expr mentioned).bind fun source _ _ _ =>
        runsAlike_ofExcept _

end GcodeTemplate
