import GcodeTemplate.Proofs.Resolution

/-!
# Variables without nils

Settings that come from outside of a rendering may be nil, or percentages, or choices.
What a rendering writes is not nil unless it was nil before, and the variables that
it makes are plain: numbers, strings and booleans, alone or in vectors.  So the only
way in which the reading of a local variable can fail is that its vector is empty.
-/

namespace GcodeTemplate

namespace Binding

variable {binding : Binding} {layers : Layers} {extruder : Nat}

/-- The index that is read is in the vector, unless there is none. -/
theorem readIndex_lt
    {size : Nat}
    (present : 0 < size)
    (index : Option Nat)
    (extruder : Nat) :
    readIndex index extruder size < size := by
  have clamped (index : Nat) : clamp index size < size := by
    unfold clamp
    split <;> assumption
  cases index with
  | some index =>
      exact clamped index
  | none =>
      simp only [readIndex]
      split
      · exact present
      · exact clamped extruder

/-- An outcome is the fault of an empty vector if there is nothing in it, and else a result. -/
structure FailsOnlyEmpty
    {α : Type}
    (binding : Binding)
    (size : Nat)
    (outcome : Except Fault α) : Prop where
  empty : size = 0 → outcome = .error ⟨.emptyVector, binding.span⟩
  present : size ≠ 0 → ∃ a, outcome = .ok a

theorem FailsOnlyEmpty.map
    {α β : Type}
    {size : Nat}
    {outcome : Except Fault α}
    (fails : binding.FailsOnlyEmpty size outcome)
    (f : α → β) :
    binding.FailsOnlyEmpty size (f <$> outcome) where
  empty none := by
    rw [fails.empty none]
    rfl
  present some := by
    rcases fails.present some with ⟨a, rfl⟩
    exact ⟨f a, rfl⟩

/-- An element that is found is one of the elements. -/
theorem mem_of_element
    {α : Type}
    {elements : List α}
    {a : α}
    (found : binding.element extruder elements = .ok a) :
    a ∈ elements := by
  unfold element at found
  split at found
  next there =>
    cases found
    exact List.mem_of_getElem? there
  next =>
    nomatch found

theorem element_failsOnlyEmpty
    {α : Type}
    (elements : List α) :
    binding.FailsOnlyEmpty elements.length (binding.element extruder elements) where
  empty none := by
    rw [List.eq_nil_of_length_eq_zero none]
    rfl
  present some := by
    have inside := readIndex_lt (Nat.pos_of_ne_zero some) binding.index extruder
    rw [element, List.getElem?_eq_getElem inside]
    exact ⟨_, rfl⟩

theorem presentElement_failsOnlyEmpty
    {α : Type}
    {elements : List (Option α)}
    (free : none ∉ elements) :
    binding.FailsOnlyEmpty elements.length (binding.presentElement extruder elements) where
  empty none := by
    rw [presentElement, (element_failsOnlyEmpty elements).empty none]
    rfl
  present some := by
    rcases (element_failsOnlyEmpty elements).present some with ⟨value, found⟩
    rw [presentElement, found]
    cases value with
    | none =>
        exact absurd (mem_of_element found) free
    | some a =>
        exact ⟨a, rfl⟩

/-- A plain setting can be read unless it is an empty vector. -/
theorem readSetting_failsOnlyEmpty
    {setting : Setting}
    (plain : setting.IsPlain) :
    binding.FailsOnlyEmpty setting.size (binding.readSetting layers extruder setting) := by
  have element := plain.element
  have free := plain.nilFree
  cases setting
  case floats | ints | bools =>
    exact (presentElement_failsOnlyEmpty ((Setting.nilFree_iff rfl rfl).1 free)).map _
  case strings texts =>
    exact (element_failsOnlyEmpty texts).map _
  case float value | int value | bool value =>
    cases value with
    | none =>
        nomatch free.isNil
    | some value =>
        exact ⟨nofun, fun _ => ⟨_, rfl⟩⟩
  case string text =>
    exact ⟨nofun, fun _ => ⟨.string text, rfl⟩⟩
  all_goals nomatch element

end Binding

namespace State

variable {layers : Layers} {before after : State}

/-- A layer has nothing but a plain setting under a name, if anything. -/
def PlainIn
    (layers : Layers)
    (state : State)
    (scope : Scope)
    (name : String) : Prop :=
  ∀ setting, settingIn layers state scope name = some setting → setting.IsPlain

/-- A layer has a setting without nils under a name. -/
def NilFreeIn
    (layers : Layers)
    (state : State)
    (scope : Scope)
    (name : String) : Prop :=
  ∃ setting, settingIn layers state scope name = some setting ∧ setting.NilFree

/-- Nowhere has a nil been brought in, or a variable that is not plain. -/
structure Cleanly (layers : Layers) (before after : State) : Prop where
  plain (scope : Scope) (name : String) :
    PlainIn layers before scope name → PlainIn layers after scope name
  nilFree (scope : Scope) (name : String) :
    NilFreeIn layers before scope name → NilFreeIn layers after scope name

instance : IsPreorder State (Cleanly layers) where
  refl _ := ⟨fun _ _ => id, fun _ _ => id⟩
  trans _ _ _ first second :=
    ⟨fun scope name => second.plain scope name ∘ first.plain scope name,
      fun scope name => second.nilFree scope name ∘ first.nilFree scope name⟩

theorem Cleanly.ofSettings
    (same : ∀ scope name, settingIn layers after scope name = settingIn layers before scope name) :
    Cleanly layers before after := by
  constructor <;>
    simp only [PlainIn, NilFreeIn, same] <;>
    exact fun _ _ => id

/-- A write makes a plain variable, or replaces a setting by one that is as good. -/
theorem Writes.cleanly
    {scope : Scope}
    {name : String}
    (written : Writes layers scope name before after) :
    Cleanly layers before after := by
  rcases written.exists_settingIn with ⟨new, there, good⟩
  constructor
  · intro other key plain setting found
    by_cases here : other = scope ∧ key = name
    · rcases here with ⟨rfl, rfl⟩
      cases there.symm.trans found
      cases before_eq : settingIn layers before other key with
      | none =>
          rw [before_eq] at good
          exact good
      | some old =>
          rw [before_eq] at good
          exact good.isPlain (plain old before_eq)
    · exact plain setting ((written.settingIn_eq here).symm.trans found)
  · rintro other key ⟨old, found, free⟩
    by_cases here : other = scope ∧ key = name
    · rcases here with ⟨rfl, rfl⟩
      rw [found] at good
      exact ⟨new, there, good.nilFree free⟩
    · exact ⟨old, (written.settingIn_eq here).trans found, free⟩

/-- Every step of a rendering is clean. -/
theorem allowsSteps_cleanly (layers : Layers) : AllowsSteps layers (Cleanly layers) :=
  .ofSettings (fun _ _ => Cleanly.ofSettings) fun _ _ _ _ => Writes.cleanly

/-- Nothing is wrong with local variables if there are none. -/
theorem plainIn_of_empty
    {state : State}
    (none : state.locals = ∅)
    (name : String) :
    PlainIn layers state .localVariable name := by
  intro setting found
  simp only [settingIn, none] at found
  cases found

end State

/-- The layer that a name is found in has the setting that it stands for. -/
theorem settingIn_of_lookUp
    {layers : Layers}
    {state : State}
    {name : String}
    {setting : Setting}
    {scope : Scope}
    (found : lookUp layers state name = some (setting, scope)) :
    settingIn layers state scope name = some setting := by
  rw [lookUp_eq_findSome?] at found
  rcases List.exists_of_findSome?_eq_some found with ⟨other, _, there⟩
  rcases Option.map_eq_some_iff.1 there with ⟨_, there, same⟩
  cases same
  exact there

/-- A binding has the setting that its name stood for when it was bound. -/
theorem Reference.setting_of_bind
    {layers : Layers}
    {state after : State}
    {reference : Reference Expr}
    {binding : Binding}
    (bound : reference.bind layers state = (.ok binding, after)) :
    ∃ setting, lookUp layers state reference.name = some (setting, binding.scope) ∧
      binding.setting layers after = .ok setting := by
  rcases Reference.bind_eq_ok bound with ⟨named, setting, found⟩
  have there := settingIn_of_lookUp found
  -- the index has been evaluated since then, which changes no variable
  have same : State.SameFrame state (reference.bind layers state).2 :=
    reference.bind_keepsFrame state
  rw [bound] at same
  rw [← named, ← same.settingIn_eq] at there
  exact ⟨setting, found, by simp [Binding.setting, there]⟩

/-- Reading a local variable can only fail because it is an empty vector. -/
theorem Reference.bind_local_failsOnlyEmpty
    {layers : Layers}
    {state after : State}
    {reference : Reference Expr}
    {binding : Binding}
    (plain : ∀ name, State.PlainIn layers state .localVariable name)
    (bound : reference.bind layers state = (.ok binding, after))
    (isLocal : binding.scope = .localVariable) :
    ∃ setting, binding.setting layers after = .ok setting ∧
      binding.FailsOnlyEmpty setting.size (binding.read layers after) := by
  rcases Reference.setting_of_bind bound with ⟨setting, found, aimed⟩
  refine ⟨setting, aimed, ?_⟩
  rw [Binding.read, aimed]
  apply Binding.readSetting_failsOnlyEmpty
  rw [isLocal] at found
  exact plain _ setting (settingIn_of_lookUp found)

/--
Begin a rendering without local variables and record the states that it goes
through, until it ends or stops at a fault.  At all of these moments the local
variables are plain, and so is every global variable that was not there in the
beginning or was plain.  A setting without nils has none later on.  And whenever a
reference is bound to a local variable, be it in the midst of a statement, reading
it has a value, or else it is a vector without elements and that is out of range.
A condition that is evaluated by itself changes no variable at all.
-/
theorem no_nil_is_brought_in
    (layers : Layers)
    (pieces : List Piece)
    (page : Page)
    (withoutLocals : page.state.locals = ∅) :
    let (outcome, record) := Piece.recordAll pieces layers page
    let moments := page.state :: record
    outcome = Piece.renderAll pieces layers page ∧
      moments.getLast? = some outcome.2.state ∧
      (∀ moment ∈ moments, ∀ name,
        State.PlainIn layers moment .localVariable name ∧
        (State.PlainIn layers page.state .globalVariable name →
          State.PlainIn layers moment .globalVariable name)) ∧
      (moments.Pairwise fun earlier later =>
        ∀ scope name,
          State.NilFreeIn layers earlier scope name → State.NilFreeIn layers later scope name) ∧
      (∀ moment ∈ moments, ∀ state : State, state.locals = moment.locals →
        ∀ (reference : Reference Expr) (binding : Binding) (after : State),
          reference.bind layers state = (.ok binding, after) →
          binding.scope = .localVariable →
            ∃ setting, binding.setting layers after = .ok setting ∧
              if setting.size = 0 then
                ∃ fault, binding.read layers after = .error fault ∧ fault.cause.kind = .range
              else
                ∃ value, binding.read layers after = .ok value) ∧
      ∀ condition : Expr,
        State.SameFrame page.state (condition.evalCondition layers page.state).2 := by
  rcases (State.allowsSteps_cleanly layers).records_renderAll pieces page with ⟨same, leads⟩
  have cleanly := leads.pairwise
  have since : ∀ moment ∈ page.state :: (Piece.recordAll pieces layers page).2,
      State.Cleanly layers page.state moment := by
    intro moment member
    rcases List.mem_cons.1 member with rfl | later
    · exact refl page.state
    · exact (List.pairwise_cons.1 cleanly).1 moment later
  have plain : ∀ moment ∈ page.state :: (Piece.recordAll pieces layers page).2, ∀ name,
      State.PlainIn layers moment .localVariable name :=
    fun moment member name =>
      (since moment member).plain _ name (State.plainIn_of_empty withoutLocals name)
  refine ⟨same, ?_, ?_, cleanly.imp fun clean => clean.nilFree, ?_, ?_⟩
  · rw [same]
    exact leads.getLast?_eq
  · intro moment member name
    exact ⟨plain moment member name, (since moment member).plain _ name⟩
  · intro moment member state sameLocals reference binding after bound isLocal
    have plainHere (name : String) : State.PlainIn layers state .localVariable name := by
      have plainThere := plain moment member name
      simp only [State.PlainIn, settingIn, ← sameLocals] at plainThere
      exact plainThere
    rcases Reference.bind_local_failsOnlyEmpty plainHere bound isLocal with ⟨setting, aimed, fails⟩
    refine ⟨setting, aimed, ?_⟩
    split
    next none => exact ⟨_, fails.empty none, rfl⟩
    next some => exact fails.present some
  · intro condition
    exact condition.evalCondition_keepsFrame page.state

/-- A vector that has been made without elements is plain, but is out of range for its reader. -/
theorem vector_without_elements_is_plain :
    let none : Initializer := .fill {} (.literal {} (.int 0)) (.literal {} (.bool true))
    let pieces : List Piece :=
      [.declare ⟨false, "flags", {}, none⟩, .expression (.read {} ⟨"flags", {}, .none, ⟨1, 6⟩⟩)]
    let (outcome, record) := Piece.recordAll pieces { process := ∅ } ⟨{}, ""⟩
    ({} : State).locals = ∅ ∧
      outcome.1 = .error ⟨.emptyVector, ⟨1, 6⟩⟩ ∧
      outcome.2.state.locals.get? "flags" = some (.bools []) ∧
      record.length = 2 ∧
      ∀ moment ∈ {} :: record, ∀ name,
        State.PlainIn { process := ∅ } moment .localVariable name := by
  intro none pieces
  rcases no_nil_is_brought_in { process := ∅ } pieces ⟨{}, ""⟩ rfl with ⟨_, _, plain, _⟩
  exact ⟨rfl, rfl, rfl, rfl, fun moment member name => (plain moment member name).1⟩

end GcodeTemplate
