import GcodeTemplate.Proofs.Writes

/-!
# What assignments write

Every way to assign to a variable makes its new setting before it writes it,
and the new setting may replace the old one.  So an assignment that is carried out is
one write, and one that fails is none.
-/

namespace GcodeTemplate

namespace Binding

open State (Writes)

variable {binding : Binding} {layers : Layers} {before after : State}

theorem replacedBy_changedByScalar
    {source : Sourced}
    {setting new : Setting}
    (made : binding.changedByScalar source setting = .ok new) :
    setting.ReplacedBy new := by
  unfold changedByScalar at made
  split at made
  · exact Setting.replacedBy_withElement made
  · exact Setting.replacedBy_withScalar made

/-- An update that is carried out stores what is made of the setting that is there. -/
theorem update_eq_ok
    {change : Setting → Except Fault Setting}
    (updated : binding.update layers before change = .ok after) :
    binding.scope.isWritable ∧
      ∃ old new, settingIn layers before binding.scope binding.key = some old ∧
        change old = .ok new ∧ after = before.store binding.scope binding.key new := by
  rcases Fault.bind_eq_ok_iff.1 updated with ⟨old, aimed, updated⟩
  rcases Fault.map_eq_ok_iff.1 updated with ⟨new, made, rfl⟩
  unfold target setting at aimed
  split at aimed
  next writable =>
    split at aimed
    next found =>
      cases aimed
      exact ⟨writable, old, new, found, made, rfl⟩
    next =>
      nomatch aimed
  next =>
    nomatch aimed

/-- An update leaves what it has made where it found what it was made of, and all else alone. -/
theorem settingIn_of_update
    {change : Setting → Except Fault Setting}
    (updated : binding.update layers before change = .ok after) :
    ∃ old new, settingIn layers before binding.scope binding.key = some old ∧
      change old = .ok new ∧
      settingIn layers after binding.scope binding.key = some new ∧
      ∀ scope key, ¬ (scope = binding.scope ∧ key = binding.key) →
        settingIn layers after scope key = settingIn layers before scope key := by
  rcases update_eq_ok updated with ⟨writable, old, new, found, made, rfl⟩
  have present : (before.dictionary? binding.scope).isSome := by
    rw [State.settingIn_eq_dictionary? writable] at found
    rcases Option.bind_eq_some_iff.1 found with ⟨dictionary, present, _⟩
    simp [present]
  refine ⟨old, new, found, made, ?_, ?_⟩
  · rw [State.settingIn_store present, if_pos ⟨rfl, rfl⟩]
  · intro scope key elsewhere
    rw [State.settingIn_store present, if_neg elsewhere]

/-- An update of a variable that may be written writes what is made of its setting. -/
theorem update_of_settingIn
    {setting : Setting}
    (writable : binding.scope.isWritable)
    (there : settingIn layers before binding.scope binding.key = some setting)
    (change : Setting → Except Fault Setting) :
    binding.update layers before change =
      before.store binding.scope binding.key <$> change setting := by
  have aimed : binding.target layers before = .ok setting := by
    simp [target, Binding.setting, writable, there]
  rw [update, aimed]
  rfl

/-- An update that makes what may replace the setting is one write to the variable. -/
theorem writes_of_update
    {change : Setting → Except Fault Setting}
    (replaces : ∀ old new, change old = .ok new → old.ReplacedBy new)
    (updated : binding.update layers before change = .ok after) :
    Writes layers binding.scope binding.key before after := by
  rcases update_eq_ok updated with ⟨writable, old, new, found, made, rfl⟩
  exact .replace writable found (replaces old new made)

/-- Assigning a scalar is one write. -/
theorem assignScalar_writes
    {source : Sourced}
    (assigned : binding.assignScalar source layers before = .ok after) :
    Writes layers binding.scope binding.key before after :=
  writes_of_update (fun _ _ => replacedBy_changedByScalar) assigned

/-- Assigning a list is one write, to an element as well as to a whole vector. -/
theorem assignList_writes
    {items : List Sourced}
    (assigned : binding.assignList items layers before = .ok after) :
    Writes layers binding.scope binding.key before after := by
  refine writes_of_update (fun old new made => ?_) assigned
  split at made
  · split at made
    · exact replacedBy_changedByScalar made
    · nomatch made
  · exact Setting.replacedBy_withItems made

/-- Assigning equal elements is one write. -/
theorem assignCopies_writes
    {count value : Sourced}
    (assigned : binding.assignCopies count value layers before = .ok after) :
    Writes layers binding.scope binding.key before after := by
  refine writes_of_update (fun old new made => ?_) assigned
  split at made
  · rcases Fault.bind_eq_ok_iff.1 made with ⟨number, _, made⟩
    exact Setting.replacedBy_withCopies made
  · nomatch made

/-- Assigning a whole vector is one write, of a vector of the same kind. -/
theorem assignVector_writes
    {source : Binding}
    (assigned : binding.assignVector source layers before = .ok after) :
    Writes layers binding.scope binding.key before after := by
  rcases Fault.bind_eq_ok_iff.1 assigned with ⟨copied, _, assigned⟩
  split at assigned
  next =>
    nomatch assigned
  next whole =>
    split at assigned
    next =>
      nomatch assigned
    next present =>
      simp only [Bool.not_eq_true, Bool.or_eq_false_iff, Bool.not_eq_false'] at whole present
      refine writes_of_update (fun old new made => ?_) assigned
      split at made
      next same =>
        cases made
        exact ⟨same.symm, fun _ => ⟨Setting.isNil_of_isVector whole.2, present⟩⟩
      next =>
        nomatch made

end Binding

end GcodeTemplate
