import GcodeTemplate.Proofs.Recording

/-!
# What names stand for during a rendering

A declaration is refused if its name is in another layer already, and an
assignment keeps the kind of what it replaces.  So a name that stands for
something keeps its layer and its kind for the rest of a rendering, whatever the
layers have in common in the beginning.  The local variables of a rendering have
names that are in no other layer.
-/

namespace GcodeTemplate

open Evaluation
open State (SameFrame Writes)

/-- The layers in the order in which a name is looked up in them. -/
def Scope.inOrder : List Scope :=
  [.override, .process, .external, .output, .globalVariable, .localVariable]

theorem Scope.mem_inOrder (scope : Scope) : scope ∈ Scope.inOrder := by
  cases scope <;> decide

/-- A name is looked up in one layer after the other. -/
theorem lookUp_eq_findSome?
    (layers : Layers)
    (state : State)
    (name : String) :
    lookUp layers state name =
      Scope.inOrder.findSome? fun scope =>
        (settingIn layers state scope name).map (·, scope) := by
  have orElse {α β : Type} (a : α) (rest : List α) (f : α → Option β) :
      (a :: rest).findSome? f = (f a).or (rest.findSome? f) := by
    cases found : f a <;> simp [found]
  simp only [Scope.inOrder, orElse, List.findSome?_nil, Option.or_none]
  simp only [lookUp, Layers.find?, State.find?, settingIn,
    Option.orElse_eq_orElse, Option.orElse_eq_or, Option.or_assoc]

namespace State

variable {layers : Layers} {before after earlier later : State}

/-- The kind of the setting that a name has in one layer. -/
def kindIn
    (layers : Layers)
    (state : State)
    (scope : Scope)
    (name : String) :
    Option Setting.Kind :=
  (settingIn layers state scope name).map (·.kind)

theorem kindIn_eq_none_iff
    {state : State}
    {scope : Scope}
    {name : String} :
    kindIn layers state scope name = none ↔ settingIn layers state scope name = none :=
  Option.map_eq_none_iff

theorem isSome_kindIn
    {state : State}
    {scope : Scope}
    {name : String} :
    (kindIn layers state scope name).isSome = (settingIn layers state scope name).isSome :=
  Option.isSome_map

/-- The kind of the setting that a name stands for, and the layer that it is found in. -/
def resolution
    (layers : Layers)
    (state : State)
    (name : String) :
    Option (Setting.Kind × Scope) :=
  (lookUp layers state name).map fun (setting, scope) => (setting.kind, scope)

theorem resolution_eq_findSome?
    (layers : Layers)
    (state : State)
    (name : String) :
    resolution layers state name =
      Scope.inOrder.findSome? fun scope =>
        (kindIn layers state scope name).map (·, scope) := by
  rw [resolution, lookUp_eq_findSome?, List.map_findSome?]
  congr 1
  ext scope
  simp [kindIn]

theorem resolution_congr
    {name : String}
    (same : ∀ scope, kindIn layers after scope name = kindIn layers before scope name) :
    resolution layers after name = resolution layers before name := by
  simp only [resolution_eq_findSome?, same]

/-- A name stands for nothing if no layer has it. -/
theorem resolution_eq_none_iff
    {state : State}
    {name : String} :
    resolution layers state name = none ↔
      ∀ scope, settingIn layers state scope name = none := by
  simp only [resolution_eq_findSome?, List.findSome?_eq_none_iff, Option.map_eq_none_iff,
    kindIn_eq_none_iff, Scope.mem_inOrder, forall_const]

/-- A name of a local variable is in no other layer. -/
def LocalsExclusive (layers : Layers) (state : State) : Prop :=
  ∀ name, (settingIn layers state .localVariable name).isSome →
    ∀ other, other ≠ .localVariable → settingIn layers state other name = none

/-- What is still so at a later moment of a rendering. -/
structure Continues (layers : Layers) (earlier later : State) : Prop where
  /-- A name that stands for something stands for a setting of the same kind in the same layer. -/
  resolved (name : String) (found : Setting.Kind × Scope) :
    resolution layers earlier name = some found → resolution layers later name = some found
  /-- The outputs have the same names. -/
  outputs (name : String) :
    (settingIn layers later .output name).isSome = (settingIn layers earlier .output name).isSome
  /-- No global variable is gone. -/
  globals (name : String) :
    (settingIn layers earlier .globalVariable name).isSome →
      (settingIn layers later .globalVariable name).isSome
  /-- Names of new global variables were in no layer. -/
  fresh (name : String) :
    (settingIn layers later .globalVariable name).isSome →
      settingIn layers earlier .globalVariable name = none →
        ∀ scope, settingIn layers earlier scope name = none

namespace Continues

instance : IsPreorder State (Continues layers) where
  refl _ := {
    resolved := fun _ _ found => found
    outputs := fun _ => rfl
    globals := fun _ there => there
    fresh := fun _ there absent => by simp [absent] at there }
  trans first second third start goesOn := {
    resolved := fun name found there => goesOn.resolved name found (start.resolved name found there)
    outputs := fun name => (goesOn.outputs name).trans (start.outputs name)
    globals := fun name there => goesOn.globals name (start.globals name there)
    fresh := by
      intro name there absent
      cases between : settingIn layers second .globalVariable name with
      | some setting =>
          exact start.fresh name (by simp [between]) absent
      | none =>
          -- what stood for something in the beginning would still do so in between
          have unknown := resolution_eq_none_iff.2 (goesOn.fresh name there between)
          refine resolution_eq_none_iff.1 (Option.eq_none_iff_forall_ne_some.2 ?_)
          intro found known
          simp [start.resolved name found known] at unknown }

end Continues

/-- A variable that a reference is bound to stays in its layer and keeps its kind. -/
theorem Continues.resolution_of_bind
    (continues : Continues layers earlier later)
    {reference : Reference Expr}
    {binding : Binding}
    (bound : (reference.bind layers earlier).1 = .ok binding) :
    ∃ kind, resolution layers earlier reference.name = some (kind, binding.scope) ∧
      resolution layers later reference.name = some (kind, binding.scope) := by
  rcases Reference.bind_eq_ok (Prod.ext bound rfl) with ⟨_, setting, found⟩
  have known : resolution layers earlier reference.name = some (setting.kind, binding.scope) := by
    simp [resolution, found]
  exact ⟨setting.kind, known, continues.resolved _ _ known⟩

/-- Two states whose layers have the same names, with settings of the same kinds. -/
def SameKinds (layers : Layers) (before after : State) : Prop :=
  ∀ scope name, kindIn layers after scope name = kindIn layers before scope name

namespace SameKinds

theorem isSome_settingIn
    (same : SameKinds layers before after)
    (scope : Scope)
    (name : String) :
    (settingIn layers after scope name).isSome =
      (settingIn layers before scope name).isSome := by
  rw [← isSome_kindIn, ← isSome_kindIn, same]

theorem settingIn_eq_none_iff
    (same : SameKinds layers before after)
    (scope : Scope)
    (name : String) :
    settingIn layers after scope name = none ↔ settingIn layers before scope name = none := by
  rw [← kindIn_eq_none_iff, ← kindIn_eq_none_iff, same]

theorem continues (same : SameKinds layers before after) :
    Continues layers before after where
  resolved name found there := by
    rw [resolution_congr fun scope => same scope name]
    exact there
  outputs name :=
    same.isSome_settingIn .output name
  globals name there := by
    rw [same.isSome_settingIn]
    exact there
  fresh name there absent := by
    rw [same.isSome_settingIn] at there
    simp [absent] at there

theorem localsExclusive
    (same : SameKinds layers before after)
    (exclusive : LocalsExclusive layers before) :
    LocalsExclusive layers after := by
  intro name isLocal other different
  rw [same.isSome_settingIn] at isLocal
  exact (same.settingIn_eq_none_iff other name).2 (exclusive name isLocal other different)

end SameKinds

/-- A write either puts a setting of the same kind in place, or makes a variable of a new name. -/
theorem Writes.sameKinds_or_absent
    {scope : Scope}
    {name : String}
    (written : Writes layers scope name before after) :
    SameKinds layers before after ∨
      (∃ isGlobal, scope = .ofVariable isGlobal) ∧
        ∀ other, settingIn layers before other name = none := by
  cases written with
  | replace writable found replaces =>
      left
      have sameKind := replaces.kind
      have present : (before.dictionary? scope).isSome :=
        (Writes.replace writable found replaces).exists_store.1
      intro other key
      by_cases here : other = scope ∧ key = name
      · rcases here with ⟨rfl, rfl⟩
        simp [kindIn, settingIn_store present, found, sameKind]
      · simp [kindIn, settingIn_store present, here]
  | create plain layer allowed absent =>
      right
      refine ⟨⟨_, layer⟩, fun other => ?_⟩
      by_cases here : other = scope
      · rw [here]
        exact absent
      · exact settingIn_of_obstacle? allowed (layer ▸ here)

/-- What holds from one step of a rendering to the next one. -/
structure Follows (layers : Layers) (before after : State) : Prop where
  continues : Continues layers before after
  exclusive : LocalsExclusive layers before → LocalsExclusive layers after

instance : IsPreorder State (Follows layers) where
  refl state := ⟨refl state, id⟩
  trans _ _ _ start goesOn :=
    ⟨IsTrans.trans _ _ _ start.continues goesOn.continues, goesOn.exclusive ∘ start.exclusive⟩

theorem SameKinds.follows (same : SameKinds layers before after) :
    Follows layers before after :=
  ⟨same.continues, same.localsExclusive⟩

section

variable
  {scope : Scope}
  {name : String}
  (written : Writes layers scope name before after)
  (absent : ∀ other, settingIn layers before other name = none)

include written absent

/-- A new variable changes nothing about the names that are there. -/
theorem Continues.ofNew (isVariable : ∃ isGlobal, scope = .ofVariable isGlobal) :
    Continues layers before after where
  resolved key found there := by
    have known : key ≠ name := by
      rintro rfl
      simp [resolution_eq_none_iff.2 absent] at there
    rw [resolution_congr fun other => ?_]
    · exact there
    · rw [kindIn, kindIn, written.settingIn_eq fun here => known here.2]
  outputs key := by
    have other : Scope.output ≠ scope := by
      rcases isVariable with ⟨isGlobal, rfl⟩
      cases isGlobal <;> decide
    rw [written.settingIn_eq fun here => other here.1]
  globals key there := by
    by_cases here : Scope.globalVariable = scope ∧ key = name
    · simp [here.2, absent] at there
    · rw [written.settingIn_eq here]
      exact there
  fresh key there missing := by
    by_cases here : Scope.globalVariable = scope ∧ key = name
    · rw [here.2]
      exact absent
    · rw [written.settingIn_eq here, missing] at there
      nomatch there

/-- A new variable is in one layer only. -/
theorem LocalsExclusive.ofNew (exclusive : LocalsExclusive layers before) :
    LocalsExclusive layers after := by
  intro key isLocal other different
  by_cases new : key = name
  · subst new
    by_cases here : other = scope
    · -- the new variable is not local, and no layer had its name before
      rw [written.settingIn_eq fun there => different (here.trans there.1.symm)] at isLocal
      simp [absent] at isLocal
    · rw [written.settingIn_eq fun there => here there.1]
      exact absent other
  · rw [written.settingIn_eq fun there => new there.2] at isLocal ⊢
    exact exclusive key isLocal other different

end

theorem Writes.follows
    {scope : Scope}
    {name : String}
    (written : Writes layers scope name before after) :
    Follows layers before after := by
  rcases written.sameKinds_or_absent with same | ⟨isVariable, absent⟩
  · exact same.follows
  · exact ⟨.ofNew written absent isVariable, .ofNew written absent⟩

/-- Every step of a rendering keeps what names stand for. -/
theorem allowsSteps_follows (layers : Layers) : AllowsSteps layers (Follows layers) := by
  refine .ofSettings (fun before after same => SameKinds.follows ?_) fun _ _ _ _ => Writes.follows
  intro scope name
  rw [kindIn, kindIn, same]

/-- Without local variables there is nothing that they could have in common with other layers. -/
theorem localsExclusive_of_empty
    {state : State}
    (none : state.locals = ∅) :
    LocalsExclusive layers state := by
  intro name isLocal
  simp only [settingIn, none] at isLocal
  cases isLocal

end State

/--
Begin a rendering without local variables and record the states that it goes
through, until it ends or stops at a fault.  At all of these moments the names of
local variables are in no other layer; and at all later ones what a name stood
for is still in the same layer and of the same kind, the names of the outputs are
the same, and the global variables have only become more, by names that no layer
had.
-/
theorem names_stable_and_locals_exclusive
    (layers : Layers)
    (pieces : List Piece)
    (page : Page)
    (withoutLocals : page.state.locals = ∅) :
    let (outcome, record) := Piece.recordAll pieces layers page
    let moments := page.state :: record
    outcome = Piece.renderAll pieces layers page ∧
      moments.getLast? = some outcome.2.state ∧
      (∀ moment ∈ moments, State.LocalsExclusive layers moment) ∧
      (moments.Pairwise fun earlier later =>
        ∀ (reference : Reference Expr) (binding : Binding),
          (reference.bind layers earlier).1 = .ok binding →
            ∃ kind,
              State.resolution layers earlier reference.name = some (kind, binding.scope) ∧
              State.resolution layers later reference.name = some (kind, binding.scope)) ∧
      moments.Pairwise (State.Continues layers) := by
  rcases (State.allowsSteps_follows layers).records_renderAll pieces page with ⟨same, leads⟩
  have follows := leads.pairwise
  have continues := follows.imp fun later => later.continues
  refine ⟨same, ?_, ?_, continues.imp fun goesOn _ _ => goesOn.resolution_of_bind, continues⟩
  · rw [same]
    exact leads.getLast?_eq
  · have begun : State.LocalsExclusive layers page.state :=
      State.localsExclusive_of_empty withoutLocals
    intro moment member
    rcases List.mem_cons.1 member with rfl | later
    · exact begun
    · exact ((List.pairwise_cons.1 follows).1 moment later).exclusive begun

/-- A local variable that has been assigned to in a block still prevents a global one. -/
theorem local_variable_stable_until_fault :
    let one : Initializer := .expression (.literal {} (.int 1))
    let pieces : List Piece :=
      [.declare ⟨false, "x", {}, one⟩,
        .choose [⟨.literal {} (.bool true), [.assign ⟨"x", {}, none, {}⟩ one]⟩] none,
        .declare ⟨true, "x", {}, one⟩]
    let page : Page := ⟨{ shared := some (.ofSeed 0) }, ""⟩
    let (outcome, record) := Piece.recordAll pieces { process := ∅ } page
    page.state.locals = ∅ ∧
      outcome.1 = .error ⟨.definedAsLocal, {}⟩ ∧
      record.length = 8 ∧
      (∀ moment ∈ page.state :: record, State.LocalsExclusive { process := ∅ } moment) ∧
      (page.state :: record).Pairwise (State.Continues { process := ∅ }) := by
  intro one pieces page
  rcases names_stable_and_locals_exclusive { process := ∅ } pieces page rfl with
    ⟨_, _, exclusive, _, continues⟩
  exact ⟨rfl, rfl, rfl, exclusive, continues⟩

end GcodeTemplate
