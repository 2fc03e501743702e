import GcodeTemplate.Proofs.Agreement
import GcodeTemplate.Proofs.SideBySide

/-!
# Contexts that are alike under some names

Between the runs of a statement a context may change under names that the statement does
not mention: other variables are written, or another evaluation begins with nothing but the
shared data of the one before.  Contexts with the same read-only layers that still have the
same under all names that matter are alike, and evaluations of what mentions these names
only come to the same result in them.
-/

namespace GcodeTemplate

open Evaluation Eval

/-- States with the same extruder and generator that have the same under certain names. -/
structure State.AlikeOn
    (names : Set String)
    (layers : Layers)
    (state there : State) : Prop where
  settings (scope : Scope) (name : String) :
    name ∈ names → settingIn layers there scope name = settingIn layers state scope name
  extruder : there.extruder = state.extruder
  random : there.random? = state.random?
  suppressed : there.suppressed = state.suppressed

namespace State.AlikeOn

variable
  {names fewer : Set String}
  {layers : Layers}
  {state there later : State}

theorem refl
    (names : Set String)
    (layers : Layers)
    (state : State) :
    AlikeOn names layers state state :=
  ⟨fun _ _ _ => rfl, rfl, rfl, rfl⟩

theorem trans
    (first : AlikeOn names layers state there)
    (second : AlikeOn names layers there later) :
    AlikeOn names layers state later where
  settings scope name mentioned :=
    (second.settings scope name mentioned).trans (first.settings scope name mentioned)
  extruder := second.extruder.trans first.extruder
  random := second.random.trans first.random
  suppressed := second.suppressed.trans first.suppressed

theorem mono
    (alike : AlikeOn names layers state there)
    (included : fewer ⊆ names) :
    AlikeOn fewer layers state there where
  settings scope name mentioned := alike.settings scope name (included mentioned)
  extruder := alike.extruder
  random := alike.random
  suppressed := alike.suppressed

/-- A write shows under the name that it is made to only. -/
theorem ofStore
    {key : String}
    (unmentioned : key ∉ names)
    (layers : Layers)
    (state : State)
    (scope : Scope)
    (setting : Setting) :
    AlikeOn names layers state (state.store scope key setting) where
  settings _ _ mentioned :=
    settingIn_store_of_ne fun same => unmentioned (same ▸ mentioned)
  extruder := extruder_store state scope key setting
  random := random?_store state scope key setting
  suppressed := suppressed_store state scope key setting

/--
What is shared after a write may be handed on to another context.  That context is alike
if it has the same extruder, and the same in all other layers.
-/
theorem ofShared
    {key : String}
    {setting : Setting}
    (shared : there.shared = (state.store .globalVariable key setting).shared)
    (extruder : there.extruder = state.extruder)
    (suppressed : there.suppressed = state.suppressed)
    (elsewhere : ∀ scope ≠ Scope.globalVariable, ∀ name ∈ names,
      settingIn layers there scope name = settingIn layers state scope name) :
    AlikeOn names layers (state.store .globalVariable key setting) there where
  settings scope name mentioned := by
    by_cases globally : scope = .globalVariable
    · subst globally
      simp only [settingIn, globals?, shared]
    · rw [elsewhere scope globally name mentioned]
      cases scope with
      | globalVariable => exact absurd rfl globally
      | _ => rfl
  extruder := extruder
  random := by simp only [random?, shared]
  suppressed := suppressed

theorem ofDictionaries
    {after thereAfter : State}
    (alike : AlikeOn names layers state there)
    (same : ∀ scope, after.dictionary? scope = state.dictionary? scope)
    (sameThere : ∀ scope, thereAfter.dictionary? scope = there.dictionary? scope)
    (extruder : thereAfter.extruder = after.extruder)
    (random : thereAfter.random? = after.random?)
    (suppressed : thereAfter.suppressed = after.suppressed) :
    AlikeOn names layers after thereAfter where
  settings scope name mentioned := by
    rw [settingIn_of_dictionary? same, settingIn_of_dictionary? sameThere]
    exact alike.settings scope name mentioned
  extruder := extruder
  random := random
  suppressed := suppressed

theorem suppresses_eq
    (alike : AlikeOn names layers state there)
    (active : Bool) :
    there.suppresses active = state.suppresses active := by
  rw [suppresses, suppresses, isSkipping, isSkipping, alike.suppressed]

theorem enter
    (alike : AlikeOn names layers state there)
    (active : Bool) :
    AlikeOn names layers (state.enter active) (there.enter active) := by
  apply alike.ofDictionaries (dictionary?_enter state active) (dictionary?_enter there active) <;>
    rw [enter_eq, enter_eq]
  · exact alike.extruder
  · exact alike.random
  · simp only [alike.suppressed, alike.suppresses_eq active]

theorem leave
    {before beforeThere : State}
    (alike : AlikeOn names layers state there)
    (begun : AlikeOn names layers before beforeThere)
    (active : Bool) :
    AlikeOn names layers (state.leave before active) (there.leave beforeThere active) := by
  apply alike.ofDictionaries (dictionary?_leave state before active)
    (dictionary?_leave there beforeThere active) <;>
    rw [leave_eq, leave_eq]
  · exact alike.extruder
  · exact alike.random
  · simp only [alike.suppressed, begun.suppresses_eq active]

/-- Evaluations of what mentions these names only do not tell such states apart. -/
theorem couples
    (names : Set String)
    (layers : Layers) :
    Couples layers layers names (AlikeOn names layers) where
  suppressed alike := alike.suppressed
  settings alike mentioned scope := alike.settings scope _ mentioned
  read alike mentioned := by
    simp only [Binding.read, Binding.setting, alike.extruder, alike.settings _ _ mentioned]
  enter active alike := alike.enter active
  leave active alike begun := alike.leave begun active
  switch := by
    apply runsAlike_changeFilament
    intro state there extruder alike
    exact ⟨alike.settings, rfl, alike.random, alike.suppressed⟩
  draw := by
    apply runsAlike_draw
    · exact fun _ _ alike => alike.random
    · intro state there source after alike present presentThere
      apply alike.ofDictionaries (dictionary?_withRandom state after)
        (dictionary?_withRandom there after) alike.extruder ?_ alike.suppressed
      rw [random?_withRandom present, random?_withRandom presentThere]

end State.AlikeOn

end GcodeTemplate
