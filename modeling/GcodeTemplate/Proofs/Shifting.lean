import GcodeTemplate.Piece.Render
import GcodeTemplate.Proofs.Spans

/-!
# Operations on what stands further behind

The spans of values and bindings are there for faults only.  If all of them are
shifted, an operation has the same result, or the same fault at a shifted span.
-/

namespace GcodeTemplate

variable {α β : Type} (offset : Nat)

/-- A fault that stands further behind. -/
def Fault.shift (fault : Fault) : Fault :=
  ⟨fault.cause, fault.span.shift offset⟩

/-- A result whose fault, if it is one, stands further behind. -/
def shiftFault (result : Except Fault α) : Except Fault α :=
  result.mapError (Fault.shift offset)

@[simp]
theorem shiftFault_ok (a : α) : shiftFault offset (.ok a) = .ok a :=
  rfl

@[simp]
theorem shiftFault_pure (a : α) : shiftFault offset (pure a) = pure a :=
  rfl

@[simp]
theorem shiftFault_error (fault : Fault) :
    shiftFault offset (.error fault : Except Fault α) = .error (fault.shift offset) :=
  rfl

@[simp]
theorem shiftFault_map (f : α → β) (result : Except Fault α) :
    shiftFault offset (f <$> result) = f <$> shiftFault offset result := by
  cases result <;> rfl

@[simp]
theorem shiftFault_bind (result : Except Fault α) (next : α → Except Fault β) :
    shiftFault offset (result >>= next) =
      shiftFault offset result >>= fun a => shiftFault offset (next a) := by
  cases result <;> rfl

/-- A binding that stands further behind. -/
def Binding.shift (binding : Binding) : Binding :=
  { binding with span := binding.span.shift offset }

/-- A value that stands further behind. -/
def Sourced.shift (source : Sourced) : Sourced :=
  { source with span := source.span.shift offset }

/-- A count that stands further behind. -/
def Count.shift (count : Count) : Count :=
  { count with span := count.span.shift offset }

/-- A point of a table that stands further behind. -/
def Knot.shift (knot : Knot) : Knot :=
  { knot with span := knot.span.shift offset }

namespace Binding

variable (binding : Binding) (layers : Layers) (state : State)

@[simp]
theorem key_shift : (binding.shift offset).key = binding.key :=
  rfl

@[simp]
theorem scope_shift : (binding.shift offset).scope = binding.scope :=
  rfl

@[simp]
theorem index_shift : (binding.shift offset).index = binding.index :=
  rfl

@[simp]
theorem span_shift : (binding.shift offset).span = binding.span.shift offset :=
  rfl

@[simp]
theorem setting_shift :
    (binding.shift offset).setting layers state =
      shiftFault offset (binding.setting layers state) := by
  simp only [setting, scope_shift, key_shift]
  split <;> rfl

@[simp]
theorem notNil_shift (span : Span) (cause : Cause) (value : Option α) :
    notNil (span.shift offset) cause value = shiftFault offset (notNil span cause value) := by
  cases value <;> rfl

@[simp]
theorem amountValue_shift (extruder : Nat) (amount : Amount) :
    (binding.shift offset).amountValue layers extruder amount =
      shiftFault offset (binding.amountValue layers extruder amount) := by
  simp only [amountValue, key_shift]
  split <;> rfl

@[simp]
theorem element_shift (extruder : Nat) (elements : List α) :
    (binding.shift offset).element extruder elements =
      shiftFault offset (binding.element extruder elements) := by
  simp only [element, index_shift]
  split <;> rfl

@[simp]
theorem presentElement_shift (extruder : Nat) (elements : List (Option α)) :
    (binding.shift offset).presentElement extruder elements =
      shiftFault offset (binding.presentElement extruder elements) := by
  simp only [presentElement, element_shift, span_shift, notNil_shift, shiftFault_bind]

@[simp]
theorem readScalar_shift (extruder : Nat) (setting : Setting) :
    (binding.shift offset).readScalar layers extruder setting =
      shiftFault offset (binding.readScalar layers extruder setting) := by
  cases setting <;> simp [readScalar]

@[simp]
theorem readSetting_shift (extruder : Nat) (setting : Setting) :
    (binding.shift offset).readSetting layers extruder setting =
      shiftFault offset (binding.readSetting layers extruder setting) := by
  cases setting <;> simp [readSetting]

@[simp]
theorem read_shift :
    (binding.shift offset).read layers state =
      shiftFault offset (binding.read layers state) := by
  simp [read]

@[simp]
theorem isWholeVector_shift :
    (binding.shift offset).isWholeVector layers state =
      shiftFault offset (binding.isWholeVector layers state) := by
  simp only [isWholeVector, index_shift]
  split <;> simp

@[simp]
theorem isNil_shift :
    (binding.shift offset).isNil layers state =
      shiftFault offset (binding.isNil layers state) := by
  simp only [isNil, setting_shift, shiftFault_bind, index_shift]
  refine congrArg _ (funext fun setting => ?_)
  split
  · rfl
  · split
    · rfl
    · split <;> rfl

@[simp]
theorem vectorSize_shift (hasIndex : Bool) (cause : Cause) :
    (binding.shift offset).vectorSize hasIndex cause layers state =
      shiftFault offset (binding.vectorSize hasIndex cause layers state) := by
  simp only [vectorSize, setting_shift, shiftFault_bind]
  refine congrArg _ (funext fun setting => ?_)
  split <;> rfl

end Binding

namespace Sourced

variable (source : Sourced)

@[simp]
theorem value_shift : (source.shift offset).value = source.value :=
  rfl

@[simp]
theorem span_shift : (source.shift offset).span = source.span.shift offset :=
  rfl

@[simp]
theorem number_shift (cause : Cause) :
    number cause (source.shift offset) = shiftFault offset (number cause source) := by
  by_cases numeric : source.value.isNumeric = true <;> simp [number, numeric, Fault.shift]

@[simp]
theorem whole_shift (cause : Cause) :
    whole cause (source.shift offset) = shiftFault offset (whole cause source) := by
  simp only [whole, value_shift]
  split <;> rfl

@[simp]
theorem string_shift (cause : Cause) :
    string cause (source.shift offset) = shiftFault offset (string cause source) := by
  simp only [string, value_shift]
  split <;> rfl

@[simp]
theorem truth_shift (cause : Cause) :
    truth cause (source.shift offset) = shiftFault offset (truth cause source) := by
  simp only [truth, value_shift]
  split <;> rfl

@[simp]
theorem place_shift (isVector : Bool) :
    place isVector (source.shift offset) = shiftFault offset (place isVector source) := by
  simp only [place, value_shift]
  split <;> rfl

@[simp]
theorem toFloat_shift :
    (source.shift offset).toFloat = shiftFault offset source.toFloat := by
  simp [toFloat]

@[simp]
theorem toInt_shift :
    (source.shift offset).toInt = shiftFault offset source.toInt := by
  simp [toInt]

@[simp]
theorem toBool_shift :
    (source.shift offset).toBool = shiftFault offset source.toBool := by
  simp [toBool]

end Sourced

namespace Setting

variable (setting : Setting) (span : Span) (source : Sourced)

@[simp]
theorem withScalar_shift :
    setting.withScalar (span.shift offset) (source.shift offset) =
      shiftFault offset (setting.withScalar span source) := by
  cases setting <;> simp [withScalar, Fault.shift]

@[simp]
theorem withElement_shift (index : Option Nat) :
    setting.withElement index (span.shift offset) (source.shift offset) =
      shiftFault offset (setting.withElement index span source) := by
  cases index with
  | none => rfl
  | some index =>
      simp only [withElement]
      split
      · rfl
      · split
        · rfl
        · cases setting <;> simp [Fault.shift]

theorem mapM_shift
    (check : Sourced → Except Fault α)
    (moves : ∀ source, check (source.shift offset) = shiftFault offset (check source))
    (items : List Sourced) :
    (items.map (Sourced.shift offset)).mapM check = shiftFault offset (items.mapM check) := by
  induction items with
  | nil => rfl
  | cons item items ih => simp [ih, moves]

@[simp]
theorem withItems_shift (items : List Sourced) :
    setting.withItems (span.shift offset) (items.map (Sourced.shift offset)) =
      shiftFault offset (setting.withItems span items) := by
  have list {γ : Type} (make : List γ → Setting) (check : Sourced → Except Fault γ)
      (moves : ∀ source, check (source.shift offset) = shiftFault offset (check source)) :
      make <$> (items.map (Sourced.shift offset)).mapM check =
        shiftFault offset (make <$> items.mapM check) := by
    rw [mapM_shift offset check moves, shiftFault_map]
  cases setting with
  | floats => exact list floats _ (by simp)
  | percents => exact list percents _ (by simp)
  | ints => exact list ints _ (by simp)
  | bools => exact list bools _ (by simp)
  | _ => simp [withItems, Function.comp_def, Fault.shift]

@[simp]
theorem copies_shift (count : Count) (bytes : Nat) (element : α) :
    (count.shift offset).copies bytes element =
      shiftFault offset (count.copies bytes element) := by
  by_cases large : elementLimit bytes ≤ count.number <;>
    simp [Count.copies, Count.shift, large, Fault.shift]

@[simp]
theorem withCopies_shift (count : Count) :
    setting.withCopies (span.shift offset) (count.shift offset) (source.shift offset) =
      shiftFault offset (setting.withCopies span count source) := by
  cases setting <;> simp [withCopies, Fault.shift]

@[simp]
theorem ofValue_shift :
    ofValue (source.shift offset) = shiftFault offset (ofValue source) := by
  simp only [ofValue, Sourced.value_shift]
  split <;> rfl

@[simp]
theorem ofItems_shift (items : List Sourced) :
    ofItems (span.shift offset) (items.map (Sourced.shift offset)) =
      shiftFault offset (ofItems span items) := by
  have values : (items.map (Sourced.shift offset)).map (·.value) = items.map (·.value) := by
    rw [List.map_map]
    rfl
  cases items with
  | nil => rfl
  | cons first rest =>
      have last :
          (rest.map (Sourced.shift offset)).getLast?.getD (first.shift offset) =
            (rest.getLast?.getD first).shift offset := by
        rw [List.getLast?_map]
        cases rest.getLast? <;> rfl
      simp only [List.map_cons] at values ⊢
      simp only [ofItems, List.map_cons, values, last]
      cases vectorFor? (first.value :: rest.map (·.value)) with
      | some vector => exact vector.withItems_shift offset span (first :: rest)
      | none => simp [Fault.shift, Span.shift_cover]

@[simp]
theorem ofCopies_shift (count : Count) :
    ofCopies (count.shift offset) (source.shift offset) =
      shiftFault offset (ofCopies count source) := by
  simp only [ofCopies, Sourced.value_shift]
  split <;> simp [Fault.shift]

@[simp]
theorem ofVector_shift :
    ofVector (span.shift offset) setting = shiftFault offset (ofVector span setting) := by
  simp only [ofVector]
  split
  · rfl
  · split <;> rfl

end Setting

@[simp]
theorem Count.ofValue_shift (source : Sourced) :
    Count.ofValue (source.shift offset) =
      Count.shift offset <$> shiftFault offset (Count.ofValue source) := by
  simp only [Count.ofValue, Sourced.value_shift]
  split
  · split <;> rfl
  · rfl

namespace Binding

variable (binding : Binding) (layers : Layers) (state : State) (source : Sourced)

@[simp]
theorem target_shift :
    (binding.shift offset).target layers state =
      shiftFault offset (binding.target layers state) := by
  by_cases writable : binding.scope.isWritable = true <;>
    simp [target, writable, Fault.shift]

theorem update_shift
    {change further : Setting → Except Fault Setting}
    (moves : ∀ setting, further setting = shiftFault offset (change setting)) :
    (binding.shift offset).update layers state further =
      shiftFault offset (binding.update layers state change) := by
  simp [update, moves]

@[simp]
theorem changedByScalar_shift (setting : Setting) :
    (binding.shift offset).changedByScalar (source.shift offset) setting =
      shiftFault offset (binding.changedByScalar source setting) := by
  simp only [changedByScalar]
  split <;> simp

theorem assignScalar_shift :
    (binding.shift offset).assignScalar (source.shift offset) layers state =
      shiftFault offset (binding.assignScalar source layers state) :=
  binding.update_shift offset layers state (binding.changedByScalar_shift offset source)

theorem assignList_shift (items : List Sourced) :
    (binding.shift offset).assignList (items.map (Sourced.shift offset)) layers state =
      shiftFault offset (binding.assignList items layers state) := by
  refine binding.update_shift offset layers state fun setting => ?_
  by_cases scalar : (! setting.isVector || binding.index.isSome) = true
  · rcases items with _ | ⟨item, _ | ⟨other, items⟩⟩ <;> simp [scalar, Fault.shift]
  · simp [scalar]

theorem assignCopies_shift (count : Sourced) :
    (binding.shift offset).assignCopies (count.shift offset) (source.shift offset) layers state =
      shiftFault offset (binding.assignCopies count source layers state) := by
  refine binding.update_shift offset layers state fun setting => ?_
  split
  · simp
  · rfl

theorem assignVector_shift (vector : Binding) :
    (binding.shift offset).assignVector (vector.shift offset) layers state =
      shiftFault offset (binding.assignVector vector layers state) := by
  simp only [assignVector, setting_shift, shiftFault_bind]
  refine congrArg _ (funext fun copied => ?_)
  by_cases scalar : (vector.index.isSome || ! copied.isVector) = true
  · simp [scalar, Fault.shift]
  · by_cases someNil : copied.hasNil = true
    · simp [scalar, someNil, Fault.shift]
    · simp only [index_shift, scalar, someNil, if_false, Bool.false_eq_true]
      refine binding.update_shift offset layers state fun setting => ?_
      by_cases same : setting.kind = copied.kind <;> simp [same, Fault.shift]

end Binding

namespace Table

theorem segments_shift (table : Table) :
    segments (table.map (Knot.shift offset)) =
      (segments table).map (Prod.map (Knot.shift offset) (Knot.shift offset)) := by
  simp only [segments, ← List.map_drop, List.zip_map]

/-- A test that looks at coordinates only finds the same segment. -/
theorem find?_shift
    (table : Table)
    (test : Knot × Knot → Bool)
    (same : ∀ segment,
      test (Prod.map (Knot.shift offset) (Knot.shift offset) segment) = test segment) :
    (segments (table.map (Knot.shift offset))).find? test =
      ((segments table).find? test).map
        (Prod.map (Knot.shift offset) (Knot.shift offset)) := by
  have unmoved : test ∘ Prod.map (Knot.shift offset) (Knot.shift offset) = test :=
    funext same
  rw [segments_shift, List.find?_map, unmoved]

theorem interpolate_shift (table : Table) (x : Float) (span : Span) :
    interpolate (table.map (Knot.shift offset)) x (span.shift offset) =
      shiftFault offset (table.interpolate x span) := by
  have decreasing := find?_shift offset table decreases fun _ => rfl
  have spanning := find?_shift offset table (spans x) fun _ => rfl
  cases table with
  | nil => rfl
  | cons first rest =>
      have last :
          ((rest.map (Knot.shift offset)).getLast?.getD (first.shift offset)) =
            (rest.getLast?.getD first).shift offset := by
        rw [List.getLast?_map]
        cases rest.getLast? <;> rfl
      simp only [List.map_cons] at decreasing spanning ⊢
      simp only [interpolate, decreasing, spanning, last]
      cases (segments (first :: rest)).find? decreases with
      | some segment => simp [Fault.shift, Span.shift_cover, Knot.shift]
      | none =>
          cases (segments (first :: rest)).find? (spans x) with
          | some segment => rfl
          | none =>
              have level :
                  levelHeight? x (first.shift offset) ((rest.getLast?.getD first).shift offset) =
                    levelHeight? x first (rest.getLast?.getD first) :=
                rfl
              simp only [Option.map_none, level]
              cases levelHeight? x first (rest.getLast?.getD first) <;> rfl

end Table

namespace Bracket

variable (layers : Layers)

theorem elementText_shift (setting : Setting) (span : Span) (index : Nat) :
    setting.elementText (span.shift offset) index =
      shiftFault offset (setting.elementText span index) := by
  simp only [Setting.elementText]
  split
  · rfl
  · split <;> rfl

theorem suffixedText_shift (name : String) (span : Span) :
    suffixedText name (span.shift offset) layers =
      shiftFault offset (suffixedText name span layers) := by
  simp only [suffixedText]
  split
  · rfl
  · split
    · rfl
    · rename_i setting _
      by_cases vector : setting.isVector = true
      · simp only [vector, if_true]
        split
        · simp [Fault.shift, Span.shift]
          omega
        · exact elementText_shift offset _ _ _
      · simp [vector, Fault.shift]

theorem plainText_shift (name : String) (span : Span) (extruder : Nat) :
    plainText name (span.shift offset) layers extruder =
      shiftFault offset (plainText name span layers extruder) := by
  simp only [plainText]
  split
  · rename_i setting _
    by_cases vector : setting.isVector = true
    · simp [Setting.textFor, vector, elementText_shift]
    · by_cases nil : setting.isNil = true <;>
        simp [Setting.textFor, vector, nil, Fault.shift]
  · exact suffixedText_shift offset layers name span

theorem indexOf_shift (setting : Setting) (span : Span) :
    indexOf setting (span.shift offset) = shiftFault offset (indexOf setting span) := by
  unfold indexOf
  split
  · rename_i n
    by_cases negative : n < 0 <;> simp [negative, Fault.shift]
  · rfl
  · rfl

theorem indexedText_shift (name : String) (span : Span) (index : String) (indexSpan : Span) :
    indexedText name (span.shift offset) index (indexSpan.shift offset) layers =
      shiftFault offset (indexedText name span index indexSpan layers) := by
  simp only [indexedText]
  split
  · rfl
  · rename_i setting _
    by_cases scalar : (! setting.isVector) = true
    · simp [scalar, Fault.shift]
    · by_cases empty : setting.size = 0
      · simp [scalar, empty, Fault.shift]
      · simp only [scalar, empty, if_false, Bool.false_eq_true]
        split
        · rfl
        · simp only [indexOf_shift, elementText_shift, shiftFault_bind]

theorem text_shift (bracket : Bracket) (state : State) :
    (bracket.mapSpans (Span.shift offset)).text layers state =
      shiftFault offset (bracket.text layers state) := by
  rcases bracket with ⟨name, nameSpan, _ | ⟨index, indexSpan⟩, span⟩
  · by_cases skipping : state.isSkipping = true
    · simp [text, skipping]
    · simp only [text, mapSpans, skipping, if_false, Bool.false_eq_true, Option.map_none]
      exact plainText_shift offset layers name nameSpan state.extruder
  · by_cases skipping : state.isSkipping = true
    · simp [text, skipping]
    · simp only [text, mapSpans, skipping, if_false, Bool.false_eq_true, Option.map_some,
        Prod.map_apply, id_eq]
      exact indexedText_shift offset layers name nameSpan index indexSpan

end Bracket

theorem State.declared?_shift
    (isGlobal : Bool)
    (name : String)
    (span : Span)
    (layers : Layers)
    (state : State) :
    State.declared? isGlobal name (span.shift offset) layers state =
      Option.map (Binding.shift offset) <$>
        shiftFault offset (State.declared? isGlobal name span layers state) := by
  simp only [State.declared?]
  split
  · rfl
  · split <;> rfl

theorem Mismatch.fault_shift (mismatch : Mismatch) (whole left right : Span) :
    mismatch.fault (whole.shift offset) (left.shift offset) (right.shift offset) =
      (mismatch.fault whole left right).shift offset := by
  rcases mismatch with ⟨cause, _ | _ | _⟩ <;> rfl

end GcodeTemplate
