import GcodeTemplate.Proofs.Agreement
import GcodeTemplate.Proofs.Assignment
import GcodeTemplate.Proofs.Elements

/-!
# Values that are read back

A value that has been assigned is read as one of the kind that the variable holds: as a
double, without its fraction, as its text, or as it is.  Writing wants an index that is in
the vector while reading makes do with any, but of the places that both accept they mean
the same one.  A vector that has been assigned as a whole has the number of elements it was
to have, and a copy of a vector is not told from the vector itself by any way of reading it.
-/

namespace GcodeTemplate

/--
A value as elements of a kind hold it.  Booleans are held as they are; nothing is assigned to
amounts, choices and points.
-/
def Element.hold : Element → Value → Value
  | .float, value | .percent, value => .double value.toFloat
  | .int, value => .int value.truncated
  | .string, value => .string value.text
  | .bool, value | .amount, value | .choice, value | .point, value => value

/-! ## Lists of elements -/

/-- Items that are mapped by a step that may fail have their results at their own places. -/
theorem results_of_mapM
    {α β : Type}
    {step : α → Except Fault β}
    {items : List α}
    {results : List (Option β)}
    (mapped : items.mapM (fun item => some <$> step item) = .ok results) :
    results.length = items.length ∧
      ∀ (place : Nat) (item : α), items[place]? = some item →
        ∃ result, step item = .ok result ∧ results[place]? = some (some result) := by
  induction items generalizing results with
  | nil =>
      cases mapped
      exact ⟨rfl, nofun⟩
  | cons first rest ih =>
      rw [List.mapM_cons] at mapped
      rcases Fault.bind_eq_ok_iff.1 mapped with ⟨_, wrapped, mapped⟩
      rcases Fault.map_eq_ok_iff.1 wrapped with ⟨result, stepped, rfl⟩
      rcases Fault.bind_eq_ok_iff.1 mapped with ⟨others, further, made⟩
      cases made
      rcases ih further with ⟨length, each⟩
      refine ⟨congrArg (· + 1) length, fun place item found => ?_⟩
      cases place with
      | zero =>
          cases found
          exact ⟨result, stepped, rfl⟩
      | succ place =>
          exact each place item found

theorem Count.copies_eq_ok
    {α : Type}
    {count : Count}
    {bytes : Nat}
    {element : α}
    {elements : List α}
    (copied : count.copies bytes element = .ok elements) :
    elements = List.replicate count.number element := by
  unfold copies at copied
  split at copied
  · nomatch copied
  · cases copied
    rfl

/-! ## Values for elements -/

namespace Sourced

variable {source : Sourced}

theorem value_of_toFloat
    {x : Float}
    (made : source.toFloat = .ok x) :
    source.value.toFloat = x := by
  rcases Fault.map_eq_ok_iff.1 made with ⟨value, checked, rfl⟩
  unfold number at checked
  split at checked
  · cases checked
    rfl
  · nomatch checked

theorem value_of_toInt
    {n : Int64}
    (made : source.toInt = .ok n) :
    source.value.truncated = n := by
  rcases Fault.map_eq_ok_iff.1 made with ⟨value, checked, rfl⟩
  unfold number at checked
  split at checked
  · cases checked
    rfl
  · nomatch checked

theorem value_of_toBool
    {b : Bool}
    (made : source.toBool = .ok b) :
    source.value = .bool b := by
  unfold toBool truth at made
  split at made
  next truthValue =>
    cases made
    assumption
  next => nomatch made

end Sourced

/-! ## Reading a place of a vector -/

namespace Binding

variable {α : Type} {binding : Binding} {extruder place : Nat} {elements : List α}

theorem element_of_getElem?
    (aimed : binding.index = some place)
    {a : α}
    (there : elements[place]? = some a) :
    binding.element extruder elements = .ok a := by
  have inside : place < elements.length := (List.getElem?_eq_some_iff.1 there).1
  simp only [element, aimed, readIndex, clamp, if_pos inside, there]

theorem presentElement_of_getElem?
    {values : List (Option α)}
    (aimed : binding.index = some place)
    {a : α}
    (there : values[place]? = some (some a)) :
    binding.presentElement extruder values = .ok a := by
  rw [presentElement, element_of_getElem? aimed there]
  rfl

/-- A write to one place is not noticed by a binding that reads another one. -/
theorem element_set_of_ne
    (other : readIndex binding.index extruder elements.length ≠ place)
    (a : α) :
    binding.element extruder (elements.set place a) = binding.element extruder elements := by
  rw [element, element, List.length_set, List.getElem?_set_ne other.symm]

theorem presentElement_set_of_ne
    {values : List (Option α)}
    (other : readIndex binding.index extruder values.length ≠ place)
    (value : Option α) :
    binding.presentElement extruder (values.set place value) =
      binding.presentElement extruder values := by
  rw [presentElement, presentElement, element_set_of_ne other]

end Binding

namespace Setting

/-- The value of an element of a vector that can be assigned to, unless it is nil. -/
def valueAt? (setting : Setting) (place : Nat) : Option Value :=
  match setting with
  | floats xs | percents xs => xs[place]?.join.map .double
  | ints ns => ns[place]?.join.map .int
  | bools bs => bs[place]?.join.map .bool
  | strings texts => texts[place]?.map .string
  | _ => none

/-- A binding to a place reads the value that is there. -/
theorem readSetting_of_valueAt?
    {setting : Setting}
    {binding : Binding}
    {place : Nat}
    {value : Value}
    (aimed : binding.index = some place)
    (there : setting.valueAt? place = some value)
    (layers : Layers)
    (extruder : Nat) :
    binding.readSetting layers extruder setting = .ok value := by
  cases setting
  case floats | percents | ints | bools =>
    rcases Option.map_eq_some_iff.1 there with ⟨a, joined, rfl⟩
    rw [Binding.readSetting,
      Binding.presentElement_of_getElem? aimed (Option.join_eq_some_iff.1 joined)]
    rfl
  case strings =>
    rcases Option.map_eq_some_iff.1 there with ⟨text, found, rfl⟩
    rw [Binding.readSetting, Binding.element_of_getElem? aimed found]
    rfl
  all_goals cases there

/-! ## What new settings hold -/

section Made

variable {setting new : Setting} {span : Span} {source : Sourced}

/-- A scalar that has been given a value is read as that value. -/
theorem readSetting_withScalar
    (made : setting.withScalar span source = .ok new)
    (binding : Binding)
    (layers : Layers)
    (extruder : Nat) :
    binding.readSetting layers extruder new =
      .ok (setting.kind.element.hold source.value) := by
  cases setting <;>
    simp only [withScalar, reduceCtorEq] at made
  case string =>
    cases made
    rfl
  case float | percent =>
    rcases Fault.map_eq_ok_iff.1 made with ⟨x, found, rfl⟩
    cases Sourced.value_of_toFloat found
    rfl
  case int =>
    rcases Fault.map_eq_ok_iff.1 made with ⟨n, found, rfl⟩
    cases Sourced.value_of_toInt found
    rfl
  case bool =>
    rcases Fault.map_eq_ok_iff.1 made with ⟨b, found, rfl⟩
    rw [Sourced.value_of_toBool found]
    rfl

section PutsAt

variable {place : Nat} (puts : PutsAt place source setting new)

include puts

/-- The place holds the value that was put there. -/
theorem valueAt?_of_putsAt (inside : place < setting.size) :
    new.valueAt? place = some (setting.kind.element.hold source.value) := by
  cases puts with
  | floats made | percents made =>
      cases Sourced.value_of_toFloat made
      exact congrArg (·.join.map Value.double) (List.getElem?_set_self inside)
  | ints made =>
      cases Sourced.value_of_toInt made
      exact congrArg (·.join.map Value.int) (List.getElem?_set_self inside)
  | bools made =>
      rw [Sourced.value_of_toBool made]
      exact congrArg (·.join.map Value.bool) (List.getElem?_set_self inside)
  | strings =>
      exact congrArg (Option.map Value.string) (List.getElem?_set_self inside)

/-- A binding that reads another element of the vector reads what it did before. -/
theorem readSetting_of_putsAt
    {binding : Binding}
    {extruder : Nat}
    (other : Binding.readIndex binding.index extruder setting.size ≠ place)
    (layers : Layers) :
    binding.readSetting layers extruder new = binding.readSetting layers extruder setting := by
  cases puts with
  | strings =>
      simp only [Binding.readSetting, Binding.element_set_of_ne other]
  | floats | percents | ints | bools =>
      simp only [Binding.readSetting, Binding.presentElement_set_of_ne other]

end PutsAt

/-- A vector that has been given items has one element for each, which holds its value. -/
theorem valueAt?_withItems
    {items : List Sourced}
    (made : setting.withItems span items = .ok new) :
    new.kind = setting.kind ∧ new.size = items.length ∧
      ∀ (place : Nat) (item : Sourced), items[place]? = some item →
        new.valueAt? place = some (setting.kind.element.hold item.value) := by
  cases setting <;>
    simp only [withItems, reduceCtorEq] at made
  case strings =>
    cases made
    refine ⟨rfl, List.length_map _, fun place item found => ?_⟩
    simp only [valueAt?, List.getElem?_map, found]
    rfl
  case floats | percents =>
    rcases Fault.map_eq_ok_iff.1 made with ⟨values, mapped, rfl⟩
    rcases results_of_mapM mapped with ⟨length, each⟩
    refine ⟨rfl, length, fun place item found => ?_⟩
    rcases each place item found with ⟨x, held, there⟩
    cases Sourced.value_of_toFloat held
    exact congrArg (·.join.map Value.double) there
  case ints =>
    rcases Fault.map_eq_ok_iff.1 made with ⟨values, mapped, rfl⟩
    rcases results_of_mapM mapped with ⟨length, each⟩
    refine ⟨rfl, length, fun place item found => ?_⟩
    rcases each place item found with ⟨n, held, there⟩
    cases Sourced.value_of_toInt held
    exact congrArg (·.join.map Value.int) there
  case bools =>
    rcases Fault.map_eq_ok_iff.1 made with ⟨values, mapped, rfl⟩
    rcases results_of_mapM mapped with ⟨length, each⟩
    refine ⟨rfl, length, fun place item found => ?_⟩
    rcases each place item found with ⟨b, held, there⟩
    rw [Sourced.value_of_toBool held]
    exact congrArg (·.join.map Value.bool) there

/-- Every element of a vector of equal elements holds their value. -/
theorem valueAt?_withCopies
    {count : Count}
    (made : setting.withCopies span count source = .ok new) :
    new.kind = setting.kind ∧ new.size = count.number ∧
      ∀ place < count.number,
        new.valueAt? place = some (setting.kind.element.hold source.value) := by
  cases setting <;>
    simp only [withCopies, reduceCtorEq] at made
  case strings =>
    rcases Fault.map_eq_ok_iff.1 made with ⟨texts, copied, rfl⟩
    cases Count.copies_eq_ok copied
    refine ⟨rfl, List.length_replicate, fun place inside => ?_⟩
    exact congrArg (Option.map Value.string) (List.getElem?_replicate_of_lt inside)
  all_goals
    rcases Fault.bind_eq_ok_iff.1 made with ⟨a, held, made⟩
    rcases Fault.map_eq_ok_iff.1 made with ⟨values, copied, rfl⟩
    cases Count.copies_eq_ok copied
    refine ⟨rfl, List.length_replicate, fun place inside => ?_⟩
  case floats | percents =>
    cases Sourced.value_of_toFloat held
    exact congrArg (·.join.map Value.double) (List.getElem?_replicate_of_lt inside)
  case ints =>
    cases Sourced.value_of_toInt held
    exact congrArg (·.join.map Value.int) (List.getElem?_replicate_of_lt inside)
  case bools =>
    rw [Sourced.value_of_toBool held]
    exact congrArg (·.join.map Value.bool) (List.getElem?_replicate_of_lt inside)

end Made

/-- But for amounts, no setting is read in another way under another key. -/
theorem readSetting_of_not_amount
    {setting : Setting}
    (noAmount : setting.kind.element ≠ .amount)
    (key other : String)
    (scope otherScope : Scope)
    (index : Option Nat)
    (span : Span)
    (layers : Layers)
    (extruder : Nat) :
    (⟨key, scope, index, span⟩ : Binding).readSetting layers extruder setting =
      (⟨other, otherScope, index, span⟩ : Binding).readSetting layers extruder setting := by
  cases setting with
  | amount | amounts => exact absurd rfl noAmount
  | _ => rfl

end Setting

/-- The count that a value stands for is the integer that it is. -/
theorem Count.ofValue_eq_ok
    {source : Sourced}
    {count : Count}
    (counted : ofValue source = .ok count) :
    ∃ n, source.value = .int n ∧ count.number = n.toInt := by
  unfold ofValue at counted
  split at counted
  next n whole =>
    split at counted
    next => nomatch counted
    next nonnegative =>
      cases counted
      have positive := Int64.le_iff_toInt_le.1 (Int64.not_lt.1 nonnegative)
      exact ⟨n, whole, Int.toNat_of_nonneg positive⟩
  next => nomatch counted

/-! ## What is read of a context -/

theorem State.settingIn_withExtruder
    (layers : Layers)
    (state : State)
    (extruder : Nat)
    (scope : Scope)
    (key : String) :
    settingIn layers { state with extruder := extruder } scope key =
      settingIn layers state scope key := by
  cases scope <;> rfl

namespace Binding

variable {layers : Layers} {before after : State} {target : Binding}

/-- A binding reads the setting that its layer has under its key. -/
theorem read_of_settingIn
    (binding : Binding)
    {state : State}
    {setting : Setting}
    (there : settingIn layers state binding.scope binding.key = some setting) :
    binding.read layers state = binding.readSetting layers state.extruder setting := by
  simp [read, Binding.setting, there, bind, Except.bind]

/-- The binding of the same variable with an index, or none, at a span. -/
def aimedAt (binding : Binding) (index : Option Nat) (span : Span) : Binding :=
  ⟨binding.key, binding.scope, index, span⟩

theorem extruder_of_update
    {change : Setting → Except Fault Setting}
    (updated : target.update layers before change = .ok after) :
    after.extruder = before.extruder := by
  rcases update_eq_ok updated with ⟨_, _, new, _, _, rfl⟩
  exact State.extruder_store before _ _ new

/-- What is assigned a scalar is read as its value, and other elements as they were before. -/
theorem readSetting_changedByScalar
    (layers : Layers)
    {source : Sourced}
    {old new : Setting}
    (made : target.changedByScalar source old = .ok new)
    (extruder : Nat) :
    target.readSetting layers extruder new = .ok (old.kind.element.hold source.value) ∧
      (old.isVector → ∀ index span, target.index ≠ some (readIndex index extruder old.size) →
        (target.aimedAt index span).readSetting layers extruder new =
          (target.aimedAt index span).readSetting layers extruder old) := by
  unfold changedByScalar at made
  split at made
  next vector =>
    cases aimed : target.index with
    | none =>
        rw [aimed] at made
        nomatch made
    | some place =>
        rw [aimed] at made
        rcases Setting.putsAt_of_withElement made with ⟨inside, puts⟩
        refine ⟨Setting.readSetting_of_valueAt? aimed (Setting.valueAt?_of_putsAt puts inside)
          layers extruder, fun _ index span other => ?_⟩
        exact Setting.readSetting_of_putsAt puts (fun same => other (congrArg some same.symm))
          layers
  next scalar =>
    exact ⟨Setting.readSetting_withScalar made target layers extruder,
      fun vector => absurd vector scalar⟩

/-- A copy is carried out on a vector without an index, and leaves that vector. -/
theorem settingIn_of_assignVector
    {source : Binding}
    {copied : Setting}
    (found : settingIn layers before source.scope source.key = some copied)
    (assigned : target.assignVector source layers before = .ok after) :
    settingIn layers after target.scope target.key = some copied ∧
      settingIn layers after source.scope source.key = some copied := by
  rcases Fault.bind_eq_ok_iff.1 assigned with ⟨vector, aimed, assigned⟩
  simp only [setting, found, Except.ok.injEq] at aimed
  subst aimed
  split at assigned
  next => cases assigned
  next =>
    split at assigned
    next => cases assigned
    next =>
      rcases settingIn_of_update assigned with ⟨old, new, _, made, written, unchanged⟩
      split at made
      next =>
        cases made
        refine ⟨written, ?_⟩
        by_cases same : source.scope = target.scope ∧ source.key = target.key
        · rw [same.1, same.2, written]
        · rw [unchanged _ _ same, found]
      next => cases made

end Binding

open Binding (readIndex)

/--
What is written is what is read back.  A variable that was assigned a scalar reads as that
value, held as one of the kind of the variable, and every binding to the same vector that
reads another element reads what it did before.  A whole vector that was assigned a list has
an element for each item, and one that was assigned a number of equal elements has that many;
each index in the vector reads the value it was given, held as one of the kind of the vector.
A copy of a vector is read in every way as the vector is, for every index and every extruder,
unless its elements are amounts, whose meaning depends on their key.
-/
theorem assigned_values_read_back
    (layers : Layers)
    (before after : State)
    (target : Binding) :
    (∀ source, target.assignScalar source layers before = .ok after →
      ∃ old, settingIn layers before target.scope target.key = some old ∧
        target.read layers after = .ok (old.kind.element.hold source.value) ∧
        (old.isVector → ∀ index span,
          target.index ≠ some (readIndex index before.extruder old.size) →
            (target.aimedAt index span).read layers after =
              (target.aimedAt index span).read layers before)) ∧
      (∀ items old, settingIn layers before target.scope target.key = some old →
        old.isVector → target.index = none →
        target.assignList items layers before = .ok after →
        ∃ new, settingIn layers after target.scope target.key = some new ∧
          new.kind = old.kind ∧ new.size = items.length ∧
          ∀ (place : Nat) (item : Sourced), items[place]? = some item → ∀ span,
            (target.aimedAt (some place) span).read layers after =
              .ok (old.kind.element.hold item.value)) ∧
      (∀ count source, target.assignCopies count source layers before = .ok after →
        ∃ old new n, settingIn layers before target.scope target.key = some old ∧
          settingIn layers after target.scope target.key = some new ∧
          new.kind = old.kind ∧ count.value = .int n ∧ new.size = n.toInt ∧
          ∀ place < new.size, ∀ span,
            (target.aimedAt (some place) span).read layers after =
              .ok (old.kind.element.hold source.value)) ∧
      ∀ source copied, settingIn layers before source.scope source.key = some copied →
        copied.kind.element ≠ .amount →
        target.assignVector source layers before = .ok after →
        ∀ index span extruder,
          let copy := (target.aimedAt index span).read layers { after with extruder := extruder }
          let original := (source.aimedAt index span).read layers
          copy = original { before with extruder := extruder } ∧
            copy = original { after with extruder := extruder } := by
  refine ⟨?scalar, ?list, ?copies, ?vector⟩
  case scalar =>
    intro source assigned
    have extruder := Binding.extruder_of_update assigned
    rcases Binding.settingIn_of_update assigned with ⟨old, new, found, made, there, _⟩
    rcases Binding.readSetting_changedByScalar layers made before.extruder with
      ⟨same, others⟩
    refine ⟨old, found, ?_, fun vector index span other => ?_⟩
    · rw [Binding.read_of_settingIn target there, extruder]
      exact same
    · rw [Binding.read_of_settingIn (target.aimedAt index span) there,
        Binding.read_of_settingIn (target.aimedAt index span) found, extruder]
      exact others vector index span other
  case list =>
    intro items old found vector whole assigned
    rcases Binding.settingIn_of_update assigned with ⟨_, new, found', made, there, _⟩
    cases found.symm.trans found'
    simp only [vector, whole, Bool.not_true, Option.isSome_none, Bool.or_self,
      Bool.false_eq_true, if_false] at made
    rcases Setting.valueAt?_withItems made with ⟨kind, size, each⟩
    refine ⟨new, there, kind, size, fun place item item? span => ?_⟩
    rw [Binding.read_of_settingIn (target.aimedAt (some place) span) there]
    exact Setting.readSetting_of_valueAt? rfl (each place item item?) layers _
  case copies =>
    intro count source assigned
    rcases Binding.settingIn_of_update assigned with ⟨old, new, found, made, there, _⟩
    split at made
    next vector =>
      rcases Fault.bind_eq_ok_iff.1 made with ⟨number, counted, made⟩
      rcases Count.ofValue_eq_ok counted with ⟨n, whole, equal⟩
      rcases Setting.valueAt?_withCopies made with ⟨kind, size, each⟩
      refine ⟨old, new, n, found, there, kind, whole, by omega, fun place inside span => ?_⟩
      rw [Binding.read_of_settingIn (target.aimedAt (some place) span) there]
      exact Setting.readSetting_of_valueAt? rfl (each place (by omega)) layers _
    next => nomatch made
  case vector =>
    intro source copied found noAmount assigned index span extruder copy original
    rcases Binding.settingIn_of_assignVector found assigned with ⟨copied?, kept⟩
    have read (binding : Binding) (state : State)
        (there : settingIn layers state binding.scope binding.key = some copied) :
        (binding.aimedAt index span).read layers { state with extruder := extruder } =
          (binding.aimedAt index span).readSetting layers extruder copied :=
      Binding.read_of_settingIn (binding.aimedAt index span)
        ((State.settingIn_withExtruder layers state extruder _ _).trans there)
    have same := Setting.readSetting_of_not_amount noAmount target.key source.key target.scope
      source.scope index span layers extruder
    exact ⟨(read target after copied?).trans (same.trans (read source before found).symm),
      (read target after copied?).trans (same.trans (read source after kept).symm)⟩

/-- An element, a list, equal elements and a copy are written and read back. -/
theorem temperatures_and_labels_read_back :
    let layers : Layers := { process := .ofList [("presets", .strings ["low", "high"])] }
    let before : State :=
      { locals := .ofList [("labels", .strings []), ("temps", .ints [some 200, none])] }
    let labels : Binding := ⟨"labels", .localVariable, none, {}⟩
    let second : Binding := ⟨"temps", .localVariable, some 1, {}⟩
    let presets : Binding := ⟨"presets", .process, none, {}⟩
    let stored (texts : List String) : State :=
      before.store .localVariable "labels" (.strings texts)
    let heated : State := before.store .localVariable "temps" (.ints [some 200, some 215])
    (second.assignScalar ⟨.double 215.5, {}⟩ layers before = .ok heated ∧
      second.read layers heated = .ok (.int 215) ∧
      (second.aimedAt (some 0) {}).read layers heated = .ok (.int 200)) ∧
      (labels.assignList [⟨.int 7, {}⟩, ⟨.bool true, {}⟩] layers before =
          .ok (stored ["7", "true"]) ∧
        (labels.aimedAt (some 1) {}).read layers (stored ["7", "true"]) =
          .ok (.string "true")) ∧
      (labels.assignCopies ⟨.int 2, {}⟩ ⟨.int 7, {}⟩ layers before = .ok (stored ["7", "7"]) ∧
        (labels.aimedAt (some 1) {}).read layers (stored ["7", "7"]) = .ok (.string "7")) ∧
      labels.assignVector presets layers before = .ok (stored ["low", "high"]) ∧
        (labels.aimedAt none {}).read layers { stored ["low", "high"] with extruder := 1 } =
          (presets.aimedAt none {}).read layers { before with extruder := 1 } := by
  intro layers before labels second presets stored heated
  have element := (assigned_values_read_back layers before heated second).1
  have list := (assigned_values_read_back layers before (stored ["7", "true"]) labels).2.1
  have copies := (assigned_values_read_back layers before (stored ["7", "7"]) labels).2.2.1
  have vector := (assigned_values_read_back layers before (stored ["low", "high"]) labels).2.2.2
  have written : second.assignScalar ⟨.double 215.5, {}⟩ layers before = .ok heated :=
    rfl
  refine ⟨⟨written, ?_, ?_⟩, ⟨rfl, ?_⟩, ⟨rfl, ?_⟩, rfl, ?_⟩
  · rcases element _ written with ⟨old, found, same, _⟩
    cases found
    exact same
  · rcases element _ written with ⟨old, found, _, others⟩
    cases found
    exact others rfl (some 0) {} (by decide)
  · rcases list [⟨.int 7, {}⟩, ⟨.bool true, {}⟩] (.strings []) rfl rfl rfl rfl with
      ⟨_, _, _, _, each⟩
    exact each 1 ⟨.bool true, {}⟩ rfl {}
  · rcases copies ⟨.int 2, {}⟩ ⟨.int 7, {}⟩ rfl with ⟨old, new, n, found, there, _, _, _, each⟩
    cases found
    cases there
    exact each 1 (by decide) {}
  · exact (vector presets (.strings ["low", "high"]) rfl nofun rfl none {} 1).1

end GcodeTemplate
