import GcodeTemplate.Proofs.NilFree

/-!
# What one write changes

Assignments and declarations end in at most one write.  It puts a setting under
one key of one layer: in place of a setting of the same kind that was there, or
under a name that no layer has.  Nothing that it writes is nil unless it was there.
-/

namespace GcodeTemplate

/-- Look-ups in the read-only layers find a name if one of these has it. -/
theorem Layers.isSome_find?_iff
    {layers : Layers}
    {name : String}
    (state : State) :
    (layers.find? name).isSome ↔
      ¬ (settingIn layers state .override name = none ∧
        settingIn layers state .process name = none ∧
        settingIn layers state .external name = none) := by
  simp only [find?, settingIn, Option.isSome_iff_ne_none, ne_eq, Option.orElse_eq_orElse,
    Option.orElse_eq_or, Option.or_eq_none_iff, Option.map_eq_none_iff]

/-- A dictionary that may be missing has a name if a look-up in it finds the name. -/
theorem Dictionary.any_contains_iff
    {dictionary : Option Dictionary}
    {name : String} :
    dictionary.any (·.contains name) ↔ dictionary.bind (·.get? name) ≠ none := by
  cases dictionary <;> simp [Dictionary.contains, Option.isSome_iff_ne_none]

namespace State

/-- The dictionary of a layer that templates may write to, if it is there. -/
def dictionary? (state : State) : Scope → Option Dictionary
  | .output => state.outputs
  | .globalVariable => state.globals?
  | .localVariable => some state.locals
  | _ => none

theorem settingIn_eq_dictionary?
    {scope : Scope}
    (writable : scope.isWritable)
    (layers : Layers)
    (state : State)
    (name : String) :
    settingIn layers state scope name = (state.dictionary? scope).bind (·.get? name) := by
  cases scope <;> simp_all [Scope.isWritable, settingIn, dictionary?]

theorem settingIn_of_not_isWritable
    {scope : Scope}
    (readOnly : ¬ scope.isWritable)
    (layers : Layers)
    (state other : State)
    (name : String) :
    settingIn layers state scope name = settingIn layers other scope name := by
  cases scope <;> simp_all [Scope.isWritable, settingIn]

/-- The global variables after a write to a layer. -/
theorem globals?_store
    (state : State)
    (scope : Scope)
    (key : String)
    (setting : Setting) :
    (state.store scope key setting).globals? =
      if scope = .globalVariable then
        state.globals?.map (·.insert key setting)
      else
        state.globals? := by
  cases scope with
  | globalVariable =>
      cases shared : state.shared <;> simp [store, globals?, shared]
  | _ => rfl

/-- A write to a layer inserts into its dictionary and touches no other one. -/
theorem dictionary?_store
    (state : State)
    (scope other : Scope)
    (key : String)
    (setting : Setting) :
    (state.store scope key setting).dictionary? other =
      if other = scope then
        (state.dictionary? other).map (·.insert key setting)
      else
        state.dictionary? other := by
  cases other with
  | globalVariable =>
      rw [dictionary?, globals?_store]
      cases scope <;> rfl
  | _ => cases scope <;> rfl

/-- After a write to a layer that is there its key has the new setting; all else is as before. -/
theorem settingIn_store
    {layers : Layers}
    {state : State}
    {scope : Scope}
    (present : (state.dictionary? scope).isSome)
    (key : String)
    (setting : Setting)
    (other : Scope)
    (name : String) :
    settingIn layers (state.store scope key setting) other name =
      if other = scope ∧ name = key then
        some setting
      else
        settingIn layers state other name := by
  by_cases writable : other.isWritable
  · rw [settingIn_eq_dictionary? writable, settingIn_eq_dictionary? writable,
      dictionary?_store]
    by_cases same : other = scope
    · subst same
      rcases Option.isSome_iff_exists.1 present with ⟨dictionary, found⟩
      simp [found]
    · simp [same]
  · have different : other ≠ scope := by
      rintro rfl
      cases other <;> simp_all [Scope.isWritable, dictionary?]
    simp [different,
      settingIn_of_not_isWritable writable layers (state.store scope key setting) state]

/-- There is nothing to write to in a layer that is not there. -/
theorem settingIn_store_of_isNone
    {layers : Layers}
    {state : State}
    {scope : Scope}
    (absent : (state.dictionary? scope).isSome = false)
    (key : String)
    (setting : Setting)
    (other : Scope)
    (name : String) :
    settingIn layers (state.store scope key setting) other name =
      settingIn layers state other name := by
  by_cases writable : other.isWritable
  · rw [settingIn_eq_dictionary? writable, settingIn_eq_dictionary? writable,
      dictionary?_store]
    split
    next same =>
      subst same
      rw [Option.isSome_eq_false_iff, Option.isNone_iff_eq_none] at absent
      rw [absent]
      rfl
    next => rfl
  · exact settingIn_of_not_isWritable writable layers (state.store scope key setting) state name

/-- A write changes nothing under other names, be its layer there or not. -/
theorem settingIn_store_of_ne
    {layers : Layers}
    {state : State}
    {scope : Scope}
    {key : String}
    {setting : Setting}
    {other : Scope}
    {name : String}
    (different : key ≠ name) :
    settingIn layers (state.store scope key setting) other name =
      settingIn layers state other name := by
  cases present : (state.dictionary? scope).isSome with
  | true => rw [settingIn_store present, if_neg fun here => different here.2.symm]
  | false => exact settingIn_store_of_isNone present key setting other name

@[simp]
theorem suppressed_store
    (state : State)
    (scope : Scope)
    (key : String)
    (setting : Setting) :
    (state.store scope key setting).suppressed = state.suppressed := by
  cases scope <;> rfl

/--
The write that a statement makes: it puts another setting in place of one in a layer,
or it makes a plain variable of a name that may be declared.
-/
inductive Writes (layers : Layers) (scope : Scope) (name : String) : State → State → Prop where
  | replace
      {state : State}
      {old new : Setting}
      (writable : scope.isWritable)
      (found : settingIn layers state scope name = some old)
      (replaces : old.ReplacedBy new) :
      Writes layers scope name state (state.store scope name new)
  | create
      {state : State}
      {isGlobal : Bool}
      {setting : Setting}
      (plain : setting.IsPlain)
      (layer : scope = Scope.ofVariable isGlobal)
      (allowed : state.obstacle? layers isGlobal name = none)
      (absent : settingIn layers state scope name = none) :
      Writes layers scope name state (state.storeVariable isGlobal name setting)

/-- A name that may be declared is in no layer but that of the declaration. -/
theorem settingIn_of_obstacle?
    {layers : Layers}
    {state : State}
    {isGlobal : Bool}
    {name : String}
    (allowed : state.obstacle? layers isGlobal name = none)
    {other : Scope}
    (different : other ≠ Scope.ofVariable isGlobal) :
    settingIn layers state other name = none := by
  have inLocals :
      state.locals.contains name ↔ settingIn layers state .localVariable name ≠ none :=
    Option.isSome_iff_ne_none
  simp only [obstacle?, Layers.isSome_find?_iff state, Dictionary.any_contains_iff,
    inLocals] at allowed
  -- which layers are asked besides the read-only ones depends on the declaration
  cases isGlobal <;> cases other <;> grind [Scope.ofVariable, settingIn]

/-- A declaration that is allowed has a dictionary to put its variable into. -/
theorem dictionary?_of_obstacle?
    {layers : Layers}
    {state : State}
    {isGlobal : Bool}
    {name : String}
    (allowed : state.obstacle? layers isGlobal name = none) :
    (state.dictionary? (Scope.ofVariable isGlobal)).isSome := by
  cases isGlobal with
  | false =>
      rfl
  | true =>
      cases present : state.globals? with
      | some globals =>
          simp [Scope.ofVariable, dictionary?, present]
      | none =>
          -- no global variable may be declared if there is no place for one
          simp only [obstacle?, present, Option.isNone_none, if_true] at allowed
          split at allowed
          · nomatch allowed
          · split at allowed <;> nomatch allowed

namespace Writes

variable {layers : Layers} {scope : Scope} {name : String} {before after : State}

/-- A write goes to a layer that is there. -/
theorem exists_store (writes : Writes layers scope name before after) :
    (before.dictionary? scope).isSome ∧
      ∃ setting, after = before.store scope name setting := by
  cases writes with
  | replace writable found replaces =>
      rw [settingIn_eq_dictionary? writable] at found
      rcases Option.bind_eq_some_iff.1 found with ⟨dictionary, there, _⟩
      exact ⟨by simp [there], _, rfl⟩
  | create plain layer allowed absent =>
      subst layer
      exact ⟨dictionary?_of_obstacle? allowed, _, rfl⟩

theorem isWritable (writes : Writes layers scope name before after) :
    scope.isWritable := by
  cases writes with
  | replace writable found replaces =>
      exact writable
  | create plain layer allowed absent =>
      subst layer
      rename_i isGlobal _
      cases isGlobal <;> rfl

/-- Nothing but the written key of the written layer changes. -/
theorem settingIn_eq
    (writes : Writes layers scope name before after)
    {other : Scope}
    {key : String}
    (elsewhere : ¬ (other = scope ∧ key = name)) :
    settingIn layers after other key = settingIn layers before other key := by
  rcases writes.exists_store with ⟨present, setting, rfl⟩
  rw [settingIn_store present, if_neg elsewhere]

/-- What is there afterwards is plain, or may be there in place of what was there before. -/
theorem exists_settingIn (writes : Writes layers scope name before after) :
    ∃ new, settingIn layers after scope name = some new ∧
      match settingIn layers before scope name with
      | some old => old.ReplacedBy new
      | none => new.IsPlain := by
  have present := writes.exists_store.1
  cases writes with
  | replace writable found replaces =>
      refine ⟨_, (settingIn_store present name _ scope name).trans (if_pos ⟨rfl, rfl⟩), ?_⟩
      rw [found]
      exact replaces
  | create plain layer allowed absent =>
      subst layer
      refine ⟨_, (settingIn_store present name _ _ name).trans (if_pos ⟨rfl, rfl⟩), ?_⟩
      rw [absent]
      exact plain

theorem settingIn_isSome (writes : Writes layers scope name before after) :
    (settingIn layers after scope name).isSome := by
  rcases writes.exists_settingIn with ⟨new, there, _⟩
  simp [there]

theorem suppressed_eq (writes : Writes layers scope name before after) :
    after.suppressed = before.suppressed := by
  rcases writes.exists_store with ⟨_, setting, rfl⟩
  exact suppressed_store before scope name setting

end Writes

end State

end GcodeTemplate
