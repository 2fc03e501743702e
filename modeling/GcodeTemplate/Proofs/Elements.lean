import GcodeTemplate.Proofs.NilFree

/-!
# The elements of a vector

A vector is seen as the list of its elements, each of them a scalar.  Putting a value
into one place of a vector leaves its kind, its number of elements and all of its
other elements as they are.
-/

namespace GcodeTemplate

namespace Setting

/--
The elements of a vector, as scalars.  A choice in a vector has no name, so it is
shown with an empty one.  A scalar has no elements.
-/
def elements : Setting → List Setting
  | floats xs => xs.map float
  | ints ns => ns.map int
  | strings texts => texts.map string
  | percents xs => xs.map percent
  | amounts parts => parts.map amount
  | bools bs => bs.map bool
  | choices ordinals => ordinals.map (choice "")
  | points places => places.map fun (x, y) => point x y
  | _ => []

/-- Two vectors differ in the element at one place at most. -/
structure SameButAt (place : Nat) (old new : Setting) : Prop where
  kind : new.kind = old.kind
  size : new.size = old.size
  elements (other : Nat) : other ≠ place → new.elements[other]? = old.elements[other]?

theorem SameButAt.same
    (place : Nat)
    (setting : Setting) :
    SameButAt place setting setting :=
  ⟨rfl, rfl, fun _ _ => rfl⟩

/-- An element of a list that is mapped is not touched by a write to another one. -/
theorem getElem?_map_set
    {α β : Type}
    {values : List α}
    {place other : Nat}
    (different : other ≠ place)
    (a : α)
    (f : α → β) :
    ((values.set place a).map f)[other]? = (values.map f)[other]? := by
  rw [List.getElem?_map, List.getElem?_map, List.getElem?_set_ne different.symm]

/-- How a value is put into one place of a vector. -/
inductive PutsAt (place : Nat) (source : Sourced) : Setting → Setting → Prop where
  | floats {xs : List (Option Float)} {x : Float} (made : source.toFloat = .ok x) :
      PutsAt place source (floats xs) (floats (xs.set place (some x)))
  | percents {xs : List (Option Float)} {x : Float} (made : source.toFloat = .ok x) :
      PutsAt place source (percents xs) (percents (xs.set place (some x)))
  | ints {ns : List (Option Int64)} {n : Int64} (made : source.toInt = .ok n) :
      PutsAt place source (ints ns) (ints (ns.set place (some n)))
  | bools {bs : List (Option Bool)} {b : Bool} (made : source.toBool = .ok b) :
      PutsAt place source (bools bs) (bools (bs.set place (some b)))
  | strings {texts : List String} :
      PutsAt place source (strings texts) (strings (texts.set place source.value.text))

/-- A value is only put into a place that is in the vector. -/
theorem putsAt_of_withElement
    {setting new : Setting}
    {place : Nat}
    {span : Span}
    {source : Sourced}
    (made : setting.withElement (some place) span source = .ok new) :
    place < setting.size ∧ PutsAt place source setting new := by
  simp only [withElement] at made
  split at made
  next => nomatch made
  next =>
    split at made
    next => nomatch made
    next inside =>
      refine ⟨Nat.not_le.1 inside, ?_⟩
      cases setting <;>
        simp only [reduceCtorEq] at made
      case strings =>
        cases made
        exact .strings
      all_goals
        rcases Fault.map_eq_ok_iff.1 made with ⟨a, found, rfl⟩
        constructor
        exact found

/-- A value that is put into one place leaves the other elements alone. -/
theorem sameButAt_withElement
    {setting new : Setting}
    {place : Nat}
    {span : Span}
    {source : Sourced}
    (made : setting.withElement (some place) span source = .ok new) :
    setting.SameButAt place new := by
  rcases putsAt_of_withElement made with ⟨_, puts⟩
  cases puts <;>
    exact ⟨rfl, List.length_set, fun other different => getElem?_map_set different _ _⟩

/-- A place that is not in a vector is out of range, whatever is to be put there. -/
theorem withElement_of_beyond
    {setting : Setting}
    {place : Nat}
    (beyond : setting.size ≤ place)
    (span : Span)
    (source : Sourced) :
    ∃ cause : Cause, cause.kind = .range ∧
      setting.withElement (some place) span source = .error ⟨cause, span⟩ := by
  by_cases none : setting.size = 0
  · exact ⟨.emptyVector, rfl, by simp [withElement, none]⟩
  · exact ⟨.indexOutOfRange, rfl, by simp [withElement, none, beyond]⟩

end Setting

namespace Binding

/-- Reading a vector at an index beyond its end is reading its first element. -/
theorem readSetting_of_beyond
    {key : String}
    {scope : Scope}
    {span : Span}
    {setting : Setting}
    {place : Nat}
    (vector : setting.isVector)
    (beyond : setting.size ≤ place)
    (layers : Layers)
    (extruder : Nat) :
    (⟨key, scope, some place, span⟩ : Binding).readSetting layers extruder setting =
      (⟨key, scope, some 0, span⟩ : Binding).readSetting layers extruder setting := by
  have first (size : Nat) : clamp 0 size = 0 := by
    unfold clamp
    split <;> rfl
  have clamped : clamp place setting.size = 0 := if_neg (Nat.not_lt.2 beyond)
  have element {α : Type} (values : List α) (sized : values.length = setting.size) :
      (⟨key, scope, some place, span⟩ : Binding).element extruder values =
        (⟨key, scope, some 0, span⟩ : Binding).element extruder values := by
    simp only [Binding.element, readIndex, sized, clamped, first]
  cases setting
  case floats values | percents values | ints values | bools values | strings values
      | choices values | points values | amounts values =>
    have element := element values rfl
    simp only [readSetting, presentElement, element, amountValue]
  all_goals nomatch vector

end Binding

end GcodeTemplate
