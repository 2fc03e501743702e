import GcodeTemplate.Piece.Render
import GcodeTemplate.Proofs.Assignment
import GcodeTemplate.Proofs.Frame

/-!
# Statements

An assignment or a declaration evaluates its expressions first and writes last.
If it fails no variable has changed, and if it succeeds one write has been made.
-/

namespace GcodeTemplate

open Evaluation Eval
open State (SameFrame Writes)

variable {layers : Layers}

namespace Sourced

theorem ofExprs_keepsFrame (exprs : List Expr) :
    (ofExprs exprs).Keeps SameFrame layers :=
  ofExprs_keeps (State.permits_sameFrame layers) exprs fun _ _ => trivial

theorem ofExpr_keepsFrame (expr : Expr) :
    (ofExpr expr).Keeps SameFrame layers :=
  ofExpr_keeps (State.permits_sameFrame layers) expr fun _ _ => trivial

theorem ofBinding_keepsFrame (source : Binding) :
    (ofBinding source).Keeps SameFrame layers :=
  ofBinding_keeps source

end Sourced

namespace Eval

variable {α β : Type}

/--
Begun in a state, an evaluation fails with all variables as they were, or
makes ready for a write and ends with it.
-/
structure Atomic
    (write : State → State → Prop)
    (layers : Layers)
    (state : State)
    (evaluation : Eval α) : Prop where
  failed {fault : Fault} {after : State} :
    evaluation layers state = (.error fault, after) → SameFrame state after
  succeeded {a : α} {after : State} :
    evaluation layers state = (.ok a, after) →
      ∃ ready, SameFrame state ready ∧ write ready after

namespace Atomic

variable {write : State → State → Prop} {state : State}

/-- A change of the state is atomic if it is the write whenever it is made. -/
theorem ofChange
    {step : Layers → State → Except Fault State}
    (writes : ∀ after, step layers state = .ok after → write state after) :
    Atomic write layers state (change step) := by
  cases outcome : step layers state with
  | error fault =>
      have unchanged : change step layers state = (.error fault, state) := by
        simp [change, outcome]
      constructor
      · intro _ after run
        cases unchanged.symm.trans run
        exact refl state
      · intro _ after run
        nomatch unchanged.symm.trans run
  | ok changed =>
      have written : change step layers state = (.ok (), changed) := by
        simp [change, outcome]
      constructor
      · intro _ after run
        nomatch written.symm.trans run
      · intro _ after run
        cases written.symm.trans run
        exact ⟨state, refl state, writes changed outcome⟩

theorem mono
    {weaker : State → State → Prop}
    {evaluation : Eval α}
    (atomic : Atomic write layers state evaluation)
    (implied : ∀ ready after, write ready after → weaker ready after) :
    Atomic weaker layers state evaluation where
  failed := atomic.failed
  succeeded run := by
    rcases atomic.succeeded run with ⟨ready, same, written⟩
    exact ⟨ready, same, implied ready _ written⟩

theorem ofFail
    (cause : Cause)
    (span : Span) :
    Atomic write layers state (Evaluation.fail cause span : Eval α) where
  failed run := by
    cases run
    exact refl state
  succeeded run := by
    nomatch run

/-- What changes no variable may come first. -/
theorem bind
    {first : Eval α}
    {next : α → Eval β}
    (quiet : first.Keeps SameFrame layers)
    (atomic : ∀ a ready, first layers state = (.ok a, ready) →
      Atomic write layers ready (next a)) :
    Atomic write layers state (first >>= next) := by
  have same := quiet state
  cases outcome : first layers state with
  | mk result ready =>
      rw [outcome] at same
      cases result with
      | error fault =>
          constructor
          · intro _ after run
            cases (bind_of_error outcome).symm.trans run
            exact same
          · intro _ after run
            nomatch (bind_of_error outcome).symm.trans run
      | ok a =>
          constructor
          · intro _ after run
            have run := (bind_of_ok outcome).symm.trans run
            exact IsTrans.trans _ _ _ same ((atomic a ready outcome).failed run)
          · intro _ after run
            have run := (bind_of_ok outcome).symm.trans run
            rcases (atomic a ready outcome).succeeded run with ⟨last, unchanged, written⟩
            exact ⟨last, IsTrans.trans _ _ _ same unchanged, written⟩

end Atomic

end Eval

namespace Initializer

variable {state : State}

/-- An assignment is one write to its target. -/
theorem assignTo_atomic
    (target : Binding)
    (initializer : Initializer) :
    Atomic (Writes layers target.scope target.key) layers state
      (initializer.assignTo target) := by
  cases initializer with
  | list span items =>
      apply Atomic.bind (Sourced.ofExprs_keepsFrame items)
      intro sources _ _
      exact .ofChange fun _ => Binding.assignList_writes
  | fill span count value =>
      apply Atomic.bind (Sourced.ofExpr_keepsFrame count)
      intro number _ _
      apply Atomic.bind (Sourced.ofExpr_keepsFrame value)
      intro source _ _
      exact .ofChange fun _ => Binding.assignCopies_writes
  | reference referred =>
      apply Atomic.bind referred.bind_keepsFrame
      intro source _ _
      apply Atomic.bind (keeps_inspect target.isWholeVector)
      intro whole _ _
      cases whole with
      | true =>
          exact .ofChange fun _ => Binding.assignVector_writes
      | false =>
          apply Atomic.bind (Sourced.ofBinding_keepsFrame source)
          intro value _ _
          exact .ofChange fun _ => Binding.assignScalar_writes
  | expression expr =>
      apply Atomic.bind (Sourced.ofExpr_keepsFrame expr)
      intro source _ _
      exact .ofChange fun _ => Binding.assignScalar_writes

theorem redeclare_atomic
    (target : Binding)
    (initializer : Initializer) :
    Atomic (Writes layers target.scope target.key) layers state
      (initializer.redeclare target) := by
  apply Atomic.bind ((keeps_inspect target.setting).map _)
  intro isVector _ _
  cases initializer <;> cases isVector
  case expression.true => exact .ofFail _ _
  case fill.false => exact .ofFail _ _
  all_goals exact assignTo_atomic target _

theorem newSetting_keepsFrame
    (nameSpan : Span)
    (initializer : Initializer) :
    (initializer.newSetting nameSpan).Keeps SameFrame layers :=
  initializer.newSetting_keeps (State.permits_sameFrame layers) nameSpan fun _ _ => trivial

/-- What a new variable begins with is plain, wherever it comes from. -/
theorem isPlain_newSetting
    {nameSpan : Span}
    {initializer : Initializer}
    {setting : Setting}
    {after : State}
    (made : initializer.newSetting nameSpan layers state = (.ok setting, after)) :
    setting.IsPlain := by
  cases initializer with
  | list span items =>
      rcases Evaluation.bind_eq_ok made with ⟨sources, _, _, made⟩
      exact Setting.isPlain_ofItems (congrArg Prod.fst made)
  | fill span count value =>
      rcases Evaluation.bind_eq_ok made with ⟨number, _, _, made⟩
      rcases Evaluation.bind_eq_ok made with ⟨source, _, _, made⟩
      rcases Evaluation.bind_eq_ok made with ⟨copies, _, _, made⟩
      exact Setting.isPlain_ofCopies (congrArg Prod.fst made)
  | reference referred =>
      rcases Evaluation.bind_eq_ok made with ⟨source, _, _, made⟩
      rcases Evaluation.bind_eq_ok made with ⟨whole, _, _, made⟩
      cases whole with
      | true =>
          rcases Evaluation.bind_eq_ok made with ⟨vector, _, _, made⟩
          exact Setting.isPlain_ofVector (congrArg Prod.fst made)
      | false =>
          rcases Evaluation.bind_eq_ok made with ⟨value, _, _, made⟩
          exact Setting.isPlain_ofValue (congrArg Prod.fst made)
  | expression expr =>
      rcases Evaluation.bind_eq_ok made with ⟨source, _, _, made⟩
      exact Setting.isPlain_ofValue (congrArg Prod.fst made)

end Initializer

theorem Eval.resolve_eq_ok
    {name : String}
    {span : Span}
    {state after : State}
    {found : Scope × Bool}
    (resolved : resolve name span layers state = (.ok found, after)) :
    ∃ setting, lookUp layers state name = some (setting, found.1) := by
  cases looked : lookUp layers state name with
  | none =>
      simp [resolve, inspect, looked] at resolved
  | some entry =>
      simp only [resolve, inspect, looked, Prod.mk.injEq, Except.ok.injEq] at resolved
      exact ⟨entry.1, by rw [← resolved.1]⟩

/-- A binding has the name of its variable and the first layer that has this name. -/
theorem Reference.bind_eq_ok
    {reference : Reference Expr}
    {state after : State}
    {binding : Binding}
    (bound : reference.bind layers state = (.ok binding, after)) :
    binding.key = reference.name ∧
      ∃ setting, lookUp layers state reference.name = some (setting, binding.scope) := by
  match reference with
  | ⟨name, nameSpan, none, span⟩ =>
      rw [Reference.bind] at bound
      rcases Evaluation.bind_eq_ok bound with ⟨found, between, resolved, bound⟩
      cases bound
      exact ⟨rfl, resolve_eq_ok resolved⟩
  | ⟨name, nameSpan, some index, span⟩ =>
      rw [Reference.bind] at bound
      rcases Evaluation.bind_eq_ok bound with ⟨found, between, resolved, bound⟩
      rcases Evaluation.bind_eq_ok bound with ⟨place, _, _, bound⟩
      cases bound
      exact ⟨rfl, resolve_eq_ok resolved⟩

/-- Assigning to a variable is one write to what the variable is bound to. -/
theorem Reference.assign_atomic
    (target : Reference Expr)
    (initializer : Initializer)
    (layers : Layers)
    (state : State) :
    Atomic
      (fun ready after =>
        ∃ binding, (target.bind layers state).1 = .ok binding ∧
          Writes layers binding.scope binding.key ready after)
      layers state (target.bind >>= initializer.assignTo) := by
  apply Atomic.bind target.bind_keepsFrame
  intro binding ready bound
  apply (initializer.assignTo_atomic binding).mono
  intro _ _ written
  exact ⟨binding, by rw [bound], written⟩

namespace State

variable {isGlobal : Bool} {name : String} {span : Span} {state : State}

/-- A declaration that is allowed either makes a new variable or has one to assign to. -/
theorem declared?_eq_ok
    {existing : Option Binding}
    (asked : declared? isGlobal name span layers state = .ok existing) :
    state.obstacle? layers isGlobal name = none ∧
      match existing with
      | none => settingIn layers state (Scope.ofVariable isGlobal) name = none
      | some binding => binding = ⟨name, Scope.ofVariable isGlobal, none, span⟩ := by
  simp only [declared?] at asked
  split at asked
  next =>
    nomatch asked
  next allowed =>
    split at asked
    next =>
      cases asked
      exact ⟨allowed, rfl⟩
    next absent =>
      cases asked
      exact ⟨allowed, by simpa using absent⟩

end State

/-- A declaration is one write to the variable that it declares. -/
theorem Declaration.run_atomic
    (declaration : Declaration)
    (layers : Layers)
    (state : State) :
    Atomic (Writes layers (Scope.ofVariable declaration.isGlobal) declaration.name)
      layers state declaration.run := by
  rcases declaration with ⟨isGlobal, name, nameSpan, initializer⟩
  apply Atomic.bind (keeps_inspect _)
  intro existing ready asked
  rcases State.declared?_eq_ok (congrArg Prod.fst asked) with ⟨allowed, known⟩
  obtain rfl : state = ready := congrArg Prod.snd asked
  cases existing with
  | some binding =>
      obtain rfl : binding = _ := known
      exact initializer.redeclare_atomic ⟨name, Scope.ofVariable isGlobal, none, nameSpan⟩
  | none =>
      apply Atomic.bind (initializer.newSetting_keepsFrame nameSpan)
      intro setting ready made
      -- the check comes before the initializer, the write after it
      have same : SameFrame state (initializer.newSetting nameSpan layers state).2 :=
        initializer.newSetting_keepsFrame nameSpan state
      rw [made] at same
      apply Atomic.ofChange
      intro after stored
      cases stored
      exact .create (Initializer.isPlain_newSetting made) rfl
        ((same.obstacle?_eq layers isGlobal name).trans allowed)
        ((same.settingIn_eq layers _ name).trans known)

end GcodeTemplate
