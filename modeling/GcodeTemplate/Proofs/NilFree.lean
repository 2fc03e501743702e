import GcodeTemplate.Variable

/-!
# Settings without nils

Values of expressions are never nil.  So whatever an assignment makes of a setting is
of the same kind, and has no nil that was not there before; and a new variable holds
numbers, strings or booleans, none of which is nil.
-/

namespace GcodeTemplate

namespace Fault

variable {α β : Type}

/-- Two steps succeed together if the first one does and the second one then does. -/
theorem bind_eq_ok_iff
    {first : Except Fault α}
    {next : α → Except Fault β}
    {b : β} :
    (first >>= next) = .ok b ↔ ∃ a, first = .ok a ∧ next a = .ok b := by
  cases first with
  | error fault =>
      simp [bind, Except.bind]
  | ok a =>
      simp [bind, Except.bind]

theorem map_eq_ok_iff
    {result : Except Fault α}
    {f : α → β}
    {b : β} :
    f <$> result = .ok b ↔ ∃ a, result = .ok a ∧ f a = b := by
  cases result with
  | error fault =>
      simp [Functor.map, Except.map]
  | ok a =>
      simp [Functor.map, Except.map]

theorem map_eq_error_iff
    {result : Except Fault α}
    {f : α → β}
    {fault : Fault} :
    f <$> result = .error fault ↔ result = .error fault := by
  cases result with
  | error other =>
      simp [Functor.map, Except.map]
  | ok a =>
      simp [Functor.map, Except.map]

end Fault

/-- The elements that new variables can have. -/
def Element.isPlain : Element → Bool
  | .float | .int | .string | .bool => true
  | .percent | .amount | .choice | .point => false

namespace Setting

/-- Neither a setting nor one of its elements is unset. -/
structure NilFree (setting : Setting) : Prop where
  isNil : setting.isNil = false
  hasNil : setting.hasNil = false

/-- The settings of new variables: numbers, strings and booleans, alone or in a vector. -/
structure IsPlain (setting : Setting) : Prop where
  element : setting.kind.element.isPlain
  nilFree : setting.NilFree

/-- What is put in place of a setting is of the same kind, and brings no nil with it. -/
structure ReplacedBy (old new : Setting) : Prop where
  kind : new.kind = old.kind
  nilFree : old.NilFree → new.NilFree

/-- A plain setting is replaced by a plain one. -/
theorem ReplacedBy.isPlain
    {old new : Setting}
    (replaced : old.ReplacedBy new)
    (plain : old.IsPlain) :
    new.IsPlain where
  element := replaced.kind ▸ plain.element
  nilFree := replaced.nilFree plain.nilFree

/-- A vector as a whole is never nil. -/
theorem isNil_of_isVector
    {setting : Setting}
    (vector : setting.isVector) :
    setting.isNil = false := by
  cases setting <;> first | rfl | nomatch vector

section Values

variable {α : Type} {values : List (Option α)}

/-- A vector of values that may be nil has no nil if they are all there. -/
theorem nilFree_iff
    {setting : Setting}
    (vector : setting.isNil = false)
    (nils : setting.nils = values.map (·.isNone)) :
    setting.NilFree ↔ none ∉ values := by
  have hasNil : setting.hasNil = true ↔ none ∈ values := by
    simp [Setting.hasNil, nils]
  rw [← hasNil, Bool.not_eq_true]
  exact ⟨fun free => free.hasNil, fun none => ⟨vector, none⟩⟩

theorem none_notMem_set
    (present : none ∉ values)
    (index : Nat)
    (a : α) :
    none ∉ values.set index (some a) := by
  intro member
  rcases List.mem_or_eq_of_mem_set member with there | same
  · exact present there
  · nomatch same

theorem none_notMem_mapM
    {β : Type}
    {items : List β}
    {f : β → Except Fault α}
    (made : items.mapM (fun item => some <$> f item) = .ok values) :
    none ∉ values := by
  induction items generalizing values with
  | nil =>
      cases made
      exact List.not_mem_nil
  | cons item rest ih =>
      rw [List.mapM_cons] at made
      rcases Fault.bind_eq_ok_iff.1 made with ⟨value, first, made⟩
      rcases Fault.bind_eq_ok_iff.1 made with ⟨others, mapped, made⟩
      rcases Fault.map_eq_ok_iff.1 first with ⟨a, _, rfl⟩
      cases made
      simpa using ih mapped

theorem none_notMem_copies
    {count : Count}
    {bytes : Nat}
    {a : α}
    (made : count.copies bytes (some a) = .ok values) :
    none ∉ values := by
  unfold Count.copies at made
  split at made
  · nomatch made
  · cases made
    simp

end Values

/-! ## Assignments -/

section Replaced

variable {setting new : Setting} {span : Span}

/-- What is wrapped into settings that may replace a setting replaces it. -/
theorem replacedBy_of_map
    {α : Type}
    {wrap : α → Setting}
    {result : Except Fault α}
    (made : wrap <$> result = .ok new)
    (each : ∀ a, result = .ok a → setting.ReplacedBy (wrap a)) :
    setting.ReplacedBy new := by
  rcases Fault.map_eq_ok_iff.1 made with ⟨a, found, rfl⟩
  exact each a found

theorem replacedBy_withScalar
    {source : Sourced}
    (made : setting.withScalar span source = .ok new) :
    setting.ReplacedBy new := by
  cases setting <;>
    simp only [withScalar, reduceCtorEq] at made
  case string =>
    cases made
    exact ⟨rfl, fun _ => ⟨rfl, rfl⟩⟩
  all_goals exact replacedBy_of_map made fun _ _ => ⟨rfl, fun _ => ⟨rfl, rfl⟩⟩

theorem replacedBy_withElement
    {index : Option Nat}
    {source : Sourced}
    (made : setting.withElement index span source = .ok new) :
    setting.ReplacedBy new := by
  unfold withElement at made
  split at made
  next => nomatch made
  next place =>
    split at made
    next => nomatch made
    next =>
      split at made
      next => nomatch made
      next =>
        cases setting <;>
          simp only [reduceCtorEq] at made
        case strings =>
          cases made
          exact ⟨rfl, fun _ => ⟨rfl, rfl⟩⟩
        all_goals
          refine replacedBy_of_map made fun a _ => ⟨rfl, fun free => ?_⟩
          exact (nilFree_iff rfl rfl).2 (none_notMem_set ((nilFree_iff rfl rfl).1 free) place a)

theorem replacedBy_withItems
    {items : List Sourced}
    (made : setting.withItems span items = .ok new) :
    setting.ReplacedBy new := by
  cases setting <;>
    simp only [withItems, reduceCtorEq] at made
  case strings =>
    cases made
    exact ⟨rfl, fun _ => ⟨rfl, rfl⟩⟩
  all_goals
    refine replacedBy_of_map made fun values mapped => ⟨rfl, fun _ => ?_⟩
    exact (nilFree_iff rfl rfl).2 (none_notMem_mapM mapped)

theorem replacedBy_withCopies
    {count : Count}
    {source : Sourced}
    (made : setting.withCopies span count source = .ok new) :
    setting.ReplacedBy new := by
  cases setting <;>
    simp only [withCopies, reduceCtorEq] at made
  case strings => exact replacedBy_of_map made fun _ _ => ⟨rfl, fun _ => ⟨rfl, rfl⟩⟩
  all_goals
    rcases Fault.bind_eq_ok_iff.1 made with ⟨element, _, made⟩
    refine replacedBy_of_map made fun values copied => ⟨rfl, fun _ => ?_⟩
    exact (nilFree_iff rfl rfl).2 (none_notMem_copies copied)

end Replaced

/-! ## New variables -/

section New

variable {setting : Setting} {span : Span}

theorem isPlain_ofValue
    {source : Sourced}
    (made : ofValue source = .ok setting) :
    setting.IsPlain := by
  unfold ofValue at made
  split at made
  case h_5 => nomatch made
  all_goals
    cases made
    exact ⟨rfl, rfl, rfl⟩

theorem isPlain_vectorFor?
    {values : List Value}
    (found : vectorFor? values = some setting) :
    setting.IsPlain := by
  unfold vectorFor? at found
  split at found
  · cases found
    exact ⟨rfl, rfl, rfl⟩
  · split at found
    · split at found
      · nomatch found
      · cases found
        exact ⟨rfl, rfl, rfl⟩
    · split at found <;> cases found <;> exact ⟨rfl, rfl, rfl⟩

theorem isPlain_ofItems
    {items : List Sourced}
    (made : ofItems span items = .ok setting) :
    setting.IsPlain := by
  unfold ofItems at made
  split at made
  · nomatch made
  · split at made
    next found =>
      exact (replacedBy_withItems made).isPlain (isPlain_vectorFor? found)
    next =>
      nomatch made

theorem isPlain_ofCopies
    {count : Count}
    {source : Sourced}
    (made : ofCopies count source = .ok setting) :
    setting.IsPlain := by
  unfold ofCopies at made
  split at made
  case h_5 => nomatch made
  case h_4 =>
    rcases Fault.map_eq_ok_iff.1 made with ⟨texts, _, rfl⟩
    exact ⟨rfl, rfl, rfl⟩
  all_goals
    rcases Fault.map_eq_ok_iff.1 made with ⟨values, copied, rfl⟩
    exact ⟨rfl, (nilFree_iff rfl rfl).2 (none_notMem_copies copied)⟩

/-- A vector of percentages is copied as one of numbers; others stay as they are. -/
theorem isPlain_ofVector
    {source : Setting}
    (made : ofVector span source = .ok setting) :
    setting.IsPlain := by
  unfold ofVector at made
  split at made
  next => nomatch made
  next present =>
    rw [Bool.not_eq_true] at present
    cases source <;> simp only [reduceCtorEq] at made
    all_goals
      cases made
      exact ⟨rfl, rfl, present⟩

end New

end Setting

end GcodeTemplate
