import GcodeTemplate.Proofs.Redeclaration
import Mathlib.Data.Set.List

/-!
# The vector that a list of values makes

What kind of vector a list of values makes is found out from the kinds of values that occur
in it, and then each element is made of its value by itself.  Every value of the list can
be held by a vector of the kind that was found, so the second step never fails, neither when
the vector is made nor when the same list is assigned to it afterwards.
-/

namespace GcodeTemplate

/-! ## Kinds of values in a list -/

namespace Value

/-- Whether values that are to make a vector mix booleans with numbers. -/
def mix (values : List Value) : Bool :=
  values.any (·.isBool) && values.any (·.isNumeric) && ! values.any (·.isString)

/-- What is neither empty nor a string nor a boolean is a number. -/
theorem isNumeric_of_others
    {value : Value}
    (full : value.isEmpty = false)
    (noString : value.isString = false)
    (noBool : value.isBool = false) :
    value.isNumeric := by
  cases value <;> simp_all [isEmpty, isString, isBool, isNumeric]

variable {α : Type} {make : α → Value} {values : List Value}

/-- Values that are all made by one constructor are made of a list. -/
theorem exists_map_eq (each : ∀ value ∈ values, ∃ a, make a = value) :
    ∃ elements : List α, elements.map make = values := by
  have inRange : values ∈ Set.range (List.map make) := by
    rw [Set.range_list_map]
    exact each
  exact inRange

/-- Values in another order mix just as they did. -/
theorem mix_of_perm
    {others : List Value}
    (reordered : others.Perm values) :
    mix others = mix values := by
  simp only [mix, reordered.any_eq]

/-- Of values that are made alike all pass a test or none does. -/
theorem any_map
    (make : α → Value)
    (test : Value → Bool)
    {answer : Bool}
    (alike : ∀ a, test (make a) = answer)
    (elements : List α) :
    (elements.map make).any test = (answer && ! elements.isEmpty) := by
  cases elements <;> cases answer <;> simp [alike]

/-- A test that fails on numbers fails on all values of a list of numbers. -/
theorem any_eq_false_of_numeric
    {test : Value → Bool}
    (fails : ∀ value : Value, value.isNumeric → test value = false)
    (numeric : values.all (·.isNumeric)) :
    values.any test = false := by
  rw [List.any_eq_false]
  intro value member
  simp [fails value (List.all_eq_true.1 numeric value member)]

end Value

/-! ## The vector of a list -/

namespace Setting

/--
The vector that some values make together: the texts of all of them if one is a string, or
else the booleans, or the numbers as doubles if one is a double, or the integers.
-/
inductive IsVectorOf : List Value → Setting → Prop
  | strings {values : List Value} :
      values.any (·.isString) → IsVectorOf values (strings (values.map (·.text)))
  | bools {bs : List Bool} :
      bs ≠ [] → IsVectorOf (bs.map .bool) (bools (bs.map some))
  | floats {values : List Value} :
      values.all (·.isNumeric) → values.any (·.isDouble) →
        IsVectorOf values (floats (values.map fun value => some value.toFloat))
  | ints {ns : List Int64} :
      IsVectorOf (ns.map .int) (ints (ns.map some))

/-- What the elements of the vector are that some values make. -/
def elementFor (values : List Value) : Element :=
  if values.any (·.isString) then .string
  else if values.any (·.isBool) then .bool
  else if values.any (·.isDouble) then .float
  else .int

/-- Values in another order make a vector of the same kind. -/
theorem elementFor_of_perm
    {values others : List Value}
    (reordered : others.Perm values) :
    elementFor others = elementFor values := by
  simp only [elementFor, reordered.any_eq]

variable {values : List Value} {vector : Setting}

/-- Values that make a vector do not mix, and which ones occur tells what its elements are. -/
theorem IsVectorOf.kind_eq (made : IsVectorOf values vector) :
    Value.mix values = false ∧ vector.kind = ⟨elementFor values, true⟩ := by
  have isString {value : Value} (numeric : value.isNumeric) : value.isString = false := by
    cases value <;> first | rfl | nomatch numeric
  have isBool {value : Value} (numeric : value.isNumeric) : value.isBool = false := by
    cases value <;> first | rfl | nomatch numeric
  cases made with
  | strings string => simp [kind, elementFor, Value.mix, string]
  | @bools bs some =>
      have noString := Value.any_map .bool (·.isString) (fun _ => rfl) bs
      have bool := Value.any_map .bool (·.isBool) (fun _ => rfl) bs
      have noNumber := Value.any_map .bool (·.isNumeric) (fun _ => rfl) bs
      simp only [Value.mix, elementFor, noString, bool, noNumber]
      simp [kind, some]
  | floats numeric double =>
      have noString := Value.any_eq_false_of_numeric (fun _ => isString) numeric
      have noBool := Value.any_eq_false_of_numeric (fun _ => isBool) numeric
      simp [kind, elementFor, Value.mix, noString, noBool, double]
  | @ints ns =>
      have noString := Value.any_map .int (·.isString) (fun _ => rfl) ns
      have noBool := Value.any_map .int (·.isBool) (fun _ => rfl) ns
      have noDouble := Value.any_map .int (·.isDouble) (fun _ => rfl) ns
      simp only [Value.mix, elementFor, noString, noBool, noDouble]
      simp [kind]

/-- A vector that is made of values has as many elements, and none of them is nil. -/
theorem IsVectorOf.size_eq (made : IsVectorOf values vector) :
    vector.size = values.length ∧ vector.hasNil = false := by
  cases made <;> simp [size, hasNil, nils]

/-- Values that do not mix booleans with numbers make a vector. -/
theorem exists_isVectorOf
    (full : ∀ value ∈ values, value.isEmpty = false)
    (unmixed : Value.mix values = false) :
    ∃ vector, IsVectorOf values vector := by
  cases string : values.any (·.isString) with
  | true => exact ⟨_, .strings string⟩
  | false =>
      have noString := List.any_eq_false.1 string
      cases bool : values.any (·.isBool) with
      | true =>
          have noNumber : values.any (·.isNumeric) = false := by
            simpa [Value.mix, string, bool] using unmixed
          have noNumber := List.any_eq_false.1 noNumber
          have made : ∀ value ∈ values, ∃ b, Value.bool b = value := by
            intro value member
            cases value with
            | bool b => exact ⟨b, rfl⟩
            | empty => nomatch full _ member
            | string => exact absurd rfl (noString _ member)
            | int | double => exact absurd rfl (noNumber _ member)
          rcases Value.exists_map_eq made with ⟨bs, rfl⟩
          exact ⟨_, .bools (by rintro rfl; nomatch bool)⟩
      | false =>
          have noBool := List.any_eq_false.1 bool
          have numeric : ∀ value ∈ values, value.isNumeric := by
            intro value member
            exact Value.isNumeric_of_others (full value member) (by simpa using noString _ member)
              (by simpa using noBool _ member)
          cases double : values.any (·.isDouble) with
          | true => exact ⟨_, .floats (List.all_eq_true.2 numeric) double⟩
          | false =>
              have noDouble := List.any_eq_false.1 double
              have made : ∀ value ∈ values, ∃ n, Value.int n = value := by
                intro value member
                cases value with
                | int n => exact ⟨n, rfl⟩
                | double => exact absurd rfl (noDouble _ member)
                | _ => nomatch numeric _ member
              rcases Value.exists_map_eq made with ⟨ns, rfl⟩
              exact ⟨_, .ints⟩

/-- Items whose values are held one by one are held all together. -/
theorem mapM_of_values
    {α β : Type}
    {make : α → Value}
    {step : Sourced → Except Fault β}
    {f : α → β}
    {items : List Sourced}
    {contents : List α}
    (same : items.map (·.value) = contents.map make)
    (each : ∀ a ∈ contents, ∀ span, step ⟨make a, span⟩ = .ok (f a)) :
    items.mapM step = .ok (contents.map f) := by
  induction items generalizing contents with
  | nil =>
      rw [List.map_nil, eq_comm, List.map_eq_nil_iff] at same
      subst same
      rfl
  | cons item rest ih =>
      rcases item with ⟨value, span⟩
      cases contents with
      | nil => nomatch same
      | cons a others =>
          rw [List.map_cons, List.map_cons, List.cons.injEq] at same
          rw [List.forall_mem_cons] at each
          rcases same with ⟨rfl, same⟩
          rw [List.mapM_cons, each.1 span, ih same each.2]
          rfl

/-- Items are held by every vector of the kind that they make, and turn it into that vector. -/
theorem IsVectorOf.withItems_eq
    {items : List Sourced}
    (made : IsVectorOf (items.map (·.value)) vector)
    {target : Setting}
    (alike : target.kind = vector.kind)
    (span : Span) :
    target.withItems span items = .ok vector := by
  generalize same : items.map (·.value) = values at made
  cases made with
  | strings string =>
      cases target <;> cases alike
      rw [← same, List.map_map]
      rfl
  | bools nonempty =>
      cases target <;> cases alike
      rw [withItems, mapM_of_values same (f := some) fun b _ span => rfl]
      rfl
  | floats numeric double =>
      cases target <;> cases alike
      have given : items.map (·.value) = values.map id := by rw [same, List.map_id]
      rw [withItems, mapM_of_values given (f := fun value => some value.toFloat)]
      · rfl
      · intro value member span
        have number : value.isNumeric := List.all_eq_true.1 numeric value member
        simp only [Sourced.toFloat, Sourced.number, id_eq, if_pos number]
        rfl
  | ints =>
      cases target <;> cases alike
      rw [withItems, mapM_of_values same (f := some) fun n _ span => rfl]
      rfl

/-- A kind of vector is found for values just if they do not mix booleans with numbers. -/
theorem vectorFor?_of_mix (mixed : Value.mix values) :
    vectorFor? values = none := by
  simp only [Value.mix, Bool.and_eq_true, Bool.not_eq_true'] at mixed
  simp [vectorFor?, mixed]

theorem vectorFor?_of_unmixed (unmixed : Value.mix values = false) :
    ∃ target, vectorFor? values = some target ∧ target.kind = ⟨elementFor values, true⟩ := by
  unfold vectorFor? elementFor
  split
  · exact ⟨_, rfl, rfl⟩
  · split
    · split
      · simp_all [Value.mix]
      · exact ⟨_, rfl, rfl⟩
    · split <;> exact ⟨_, rfl, rfl⟩

theorem ofItems_of_isVectorOf
    {items : List Sourced}
    (nonempty : items ≠ [])
    (made : IsVectorOf (items.map (·.value)) vector)
    (span : Span) :
    ofItems span items = .ok vector := by
  rcases made.kind_eq with ⟨unmixed, kind⟩
  rcases vectorFor?_of_unmixed unmixed with ⟨target, found, alike⟩
  cases items with
  | nil => exact absurd rfl nonempty
  | cons first rest =>
      rw [ofItems, found]
      exact made.withItems_eq (alike.trans kind.symm) span

theorem ofItems_of_mix
    {items : List Sourced}
    (nonempty : items ≠ [])
    (mixed : Value.mix (items.map (·.value)))
    (span : Span) :
    ofItems span items =
      .error ⟨.mixedInitializer,
        (items.head nonempty).span.cover (items.getLast nonempty).span⟩ := by
  cases items with
  | nil => exact absurd rfl nonempty
  | cons first rest =>
      rw [ofItems, vectorFor?_of_mix mixed, List.head_cons, List.getLast_eq_getLastD,
        List.getLastD_eq_getLast?]

end Setting

/-- A list that made a vector is assigned to it without changing anything. -/
theorem Binding.assignList_of_ofItems
    {layers : Layers}
    {state : State}
    {target : Binding}
    {items : List Sourced}
    {nameSpan : Span}
    {vector : Setting}
    (made : Setting.ofItems nameSpan items = .ok vector)
    (writable : target.scope.isWritable)
    (whole : target.index = none)
    (there : settingIn layers state target.scope target.key = some vector) :
    target.assignList items layers state = .ok state := by
  rw [assignList_again writable there whole made, State.store_of_settingIn there]

/--
A list of values that are not empty is refused as an initializer just if booleans are mixed
with numbers and no string is among them, which is a type error from the first item to the
last one.  Otherwise it makes a vector whose kind depends on which kinds of values occur in
the list, but not on where, with one element for each item that is not nil; and the same list
is assigned to that vector wherever it is a variable, without changing anything.
-/
theorem list_makes_vector
    (span : Span)
    {items : List Sourced}
    (nonempty : items ≠ [])
    (full : ∀ item ∈ items, item.value.isEmpty = false) :
    let values := items.map (·.value)
    (Value.mix values = true →
      Setting.ofItems span items =
          .error ⟨.mixedInitializer,
            (items.head nonempty).span.cover (items.getLast nonempty).span⟩ ∧
        Cause.mixedInitializer.kind = .type) ∧
    (Value.mix values = false →
      ∃ vector, Setting.ofItems span items = .ok vector ∧
        vector.IsVectorOf values ∧
        vector.kind = ⟨Setting.elementFor values, true⟩ ∧
        vector.size = items.length ∧ vector.hasNil = false ∧
        (∀ reordered : List Sourced, reordered.Perm items → ∀ other,
          ∃ further, Setting.ofItems other reordered = .ok further ∧
            further.kind = vector.kind) ∧
        ∀ layers state (target : Binding), target.scope.isWritable → target.index = none →
          settingIn layers state target.scope target.key = some vector →
            target.assignList items layers state = .ok state) := by
  intro values
  have full : ∀ value ∈ values, value.isEmpty = false := by
    simpa [values] using full
  refine ⟨fun mixed => ⟨Setting.ofItems_of_mix nonempty mixed span, rfl⟩, fun unmixed => ?_⟩
  rcases Setting.exists_isVectorOf full unmixed with ⟨vector, isVector⟩
  have made := Setting.ofItems_of_isVectorOf nonempty isVector span
  rcases isVector.size_eq with ⟨size, present⟩
  refine ⟨vector, made, isVector, isVector.kind_eq.2, by simpa [values] using size, present, ?_,
    fun layers state target writable whole there =>
      Binding.assignList_of_ofItems made writable whole there⟩
  intro reordered perm other
  have sameValues : (reordered.map (·.value)).Perm values := perm.map _
  have fullThere : ∀ value ∈ reordered.map (·.value), value.isEmpty = false :=
    fun value member => full value (sameValues.mem_iff.1 member)
  rcases Setting.exists_isVectorOf fullThere ((Value.mix_of_perm sameValues).trans unmixed) with
    ⟨further, isFurther⟩
  have someThere : reordered ≠ [] := by
    rintro rfl
    exact nonempty (List.nil_perm.1 perm)
  refine ⟨further, Setting.ofItems_of_isVectorOf someThere isFurther other, ?_⟩
  rw [isFurther.kind_eq.2, isVector.kind_eq.2, Setting.elementFor_of_perm sameValues]

/-- A string turns an integer and a boolean into texts; without it they do not go together. -/
theorem labels_made_of_number_and_truth :
    let number : Sourced := ⟨.int 7, ⟨11, 12⟩⟩
    let truth : Sourced := ⟨.bool true, ⟨14, 18⟩⟩
    let name : Sourced := ⟨.string "x", ⟨20, 23⟩⟩
    let labels : Setting := .strings ["7", "true", "x"]
    let target : Binding := ⟨"labels", .localVariable, none, ⟨1, 7⟩⟩
    let state : State := { locals := .ofList [("labels", labels)] }
    let items := [number, truth, name]
    items ≠ [] ∧ (∀ item ∈ items, item.value.isEmpty = false) ∧
      Setting.ofItems ⟨1, 7⟩ items = .ok labels ∧
      (∃ further, Setting.ofItems {} [name, truth, number] = .ok further ∧
        further.kind = labels.kind) ∧
      target.assignList items { process := ∅ } state = .ok state ∧
      Setting.ofItems ⟨1, 7⟩ [number, truth] = .error ⟨.mixedInitializer, ⟨11, 18⟩⟩ := by
  intro number truth name labels target state items
  have nonempty : items ≠ [] := by simp [items]
  have full : ∀ item ∈ items, item.value.isEmpty = false := by
    simp [items, number, truth, name, Value.isEmpty]
  have made : Setting.ofItems ⟨1, 7⟩ items = .ok labels := rfl
  rcases (list_makes_vector ⟨1, 7⟩ nonempty full).2 rfl with
    ⟨vector, same, _, _, _, _, reordered, again⟩
  cases made.symm.trans same
  have fullToo : ∀ item ∈ [number, truth], item.value.isEmpty = false := by
    simp [number, truth, Value.isEmpty]
  have mixed := ((list_makes_vector ⟨1, 7⟩ (List.cons_ne_nil _ _) fullToo).1 rfl).1
  exact ⟨nonempty, full, made, reordered _ (List.reverse_perm items) {},
    again { process := ∅ } state target rfl rfl rfl, mixed⟩

end GcodeTemplate
