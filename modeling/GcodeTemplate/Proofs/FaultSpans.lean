import GcodeTemplate.Bracket.Expand
import GcodeTemplate.Expr.Eval
import GcodeTemplate.Proofs.Placement

/-!
# Where faults are placed

Whatever an evaluation looks up or computes blames the spans that it has been given, or
a span that covers two of them.  Only a bracket makes a span of its own: that of the
number behind the last underscore of its name.
-/

namespace GcodeTemplate

/-- If a result is a fault, that is placed in a source. -/
abbrev FaultsIn {α : Type} (source : List Char) (result : Except Fault α) : Prop :=
  Settled (Fault.IsIn source) (fun _ => True) result

variable {α : Type} {source : List Char} {span : Span}

/-! ## Values -/

namespace Sourced

variable {sourced : Sourced} (isIn : sourced.span.IsIn source)

include isIn

theorem faultsIn_number (cause : Cause) : FaultsIn source (number cause sourced) := by
  unfold number
  split
  · exact trivial
  · exact isIn

theorem faultsIn_whole (cause : Cause) : FaultsIn source (whole cause sourced) := by
  unfold whole
  split
  · exact trivial
  · exact isIn

theorem faultsIn_string (cause : Cause) : FaultsIn source (string cause sourced) := by
  unfold string
  split
  · exact trivial
  · exact isIn

theorem faultsIn_truth (cause : Cause) : FaultsIn source (truth cause sourced) := by
  unfold truth
  split
  · exact trivial
  · exact isIn

theorem faultsIn_place (isVector : Bool) : FaultsIn source (place isVector sourced) := by
  unfold place
  split
  · exact trivial
  · exact trivial
  · exact isIn

theorem faultsIn_toFloat : FaultsIn source sourced.toFloat :=
  (faultsIn_number isIn _).map fun _ _ => trivial

theorem faultsIn_toInt : FaultsIn source sourced.toInt :=
  (faultsIn_number isIn _).map fun _ _ => trivial

theorem faultsIn_toBool : FaultsIn source sourced.toBool :=
  faultsIn_truth isIn _

end Sourced

theorem Mismatch.fault_isIn
    (mismatch : Mismatch)
    {whole left right : Span}
    (wholeIn : whole.IsIn source)
    (leftIn : left.IsIn source)
    (rightIn : right.IsIn source) :
    (mismatch.fault whole left right).IsIn source := by
  unfold Mismatch.fault
  split
  · exact leftIn
  · exact rightIn
  · exact wholeIn

/-! ## Settings -/

theorem Count.settled_ofValue
    {sourced : Sourced}
    (isIn : sourced.span.IsIn source) :
    Settled (Fault.IsIn source) (fun count => count.span.IsIn source) (ofValue sourced) := by
  unfold ofValue
  split
  · split
    · exact isIn
    · exact isIn
  · exact isIn

theorem Count.faultsIn_copies
    {count : Count}
    (isIn : count.span.IsIn source)
    (bytes : Nat)
    (element : α) :
    FaultsIn source (count.copies bytes element) := by
  unfold copies
  split
  · exact isIn
  · exact trivial

namespace Setting

section Changed

variable (spanIn : span.IsIn source)

include spanIn

theorem faultsIn_withScalar
    {sourced : Sourced}
    (isIn : sourced.span.IsIn source)
    (setting : Setting) :
    FaultsIn source (setting.withScalar span sourced) := by
  unfold withScalar
  split
  · exact (Sourced.faultsIn_toFloat isIn).map fun _ _ => trivial
  · exact (Sourced.faultsIn_toFloat isIn).map fun _ _ => trivial
  · exact (Sourced.faultsIn_toInt isIn).map fun _ _ => trivial
  · exact (Sourced.faultsIn_toBool isIn).map fun _ _ => trivial
  · exact trivial
  · exact spanIn

theorem faultsIn_withElement
    {sourced : Sourced}
    (isIn : sourced.span.IsIn source)
    (setting : Setting)
    (index : Option Nat) :
    FaultsIn source (setting.withElement index span sourced) := by
  unfold withElement
  split
  · exact spanIn
  · split
    · exact spanIn
    · split
      · exact spanIn
      · split
        · exact (Sourced.faultsIn_toFloat isIn).map fun _ _ => trivial
        · exact (Sourced.faultsIn_toFloat isIn).map fun _ _ => trivial
        · exact (Sourced.faultsIn_toInt isIn).map fun _ _ => trivial
        · exact (Sourced.faultsIn_toBool isIn).map fun _ _ => trivial
        · exact trivial
        · exact spanIn

omit spanIn in
theorem faultsIn_mapM
    {items : List Sourced}
    {check : Sourced → Except Fault α}
    (each : ∀ item ∈ items, FaultsIn source (check item)) :
    FaultsIn source (items.mapM check) := by
  induction items with
  | nil =>
      exact trivial
  | cons item rest ih =>
      rw [List.forall_mem_cons] at each
      rw [List.mapM_cons]
      exact each.1.bind fun _ _ => (ih each.2).bind fun _ _ => trivial

theorem faultsIn_withItems
    {items : List Sourced}
    (itemsIn : ∀ item ∈ items, item.span.IsIn source)
    (setting : Setting) :
    FaultsIn source (setting.withItems span items) := by
  have list {β : Type}
      (make : List β → Setting)
      {check : Sourced → Except Fault β}
      (each : ∀ item, item.span.IsIn source → FaultsIn source (check item)) :
      FaultsIn source (make <$> items.mapM check) :=
    (faultsIn_mapM fun item member => each item (itemsIn item member)).map fun _ _ => trivial
  unfold withItems
  split
  · exact list _ fun item isIn => (Sourced.faultsIn_toFloat isIn).map fun _ _ => trivial
  · exact list _ fun item isIn => (Sourced.faultsIn_toFloat isIn).map fun _ _ => trivial
  · exact list _ fun item isIn => (Sourced.faultsIn_toInt isIn).map fun _ _ => trivial
  · exact list _ fun item isIn => (Sourced.faultsIn_toBool isIn).map fun _ _ => trivial
  · exact trivial
  · exact spanIn

theorem faultsIn_withCopies
    {count : Count}
    {sourced : Sourced}
    (countIn : count.span.IsIn source)
    (isIn : sourced.span.IsIn source)
    (setting : Setting) :
    FaultsIn source (setting.withCopies span count sourced) := by
  have copies {β : Type} (make : List β → Setting) (bytes : Nat) (element : β) :
      FaultsIn source (make <$> count.copies bytes element) :=
    (count.faultsIn_copies countIn bytes element).map fun _ _ => trivial
  unfold withCopies
  split
  · exact (Sourced.faultsIn_toFloat isIn).bind fun _ _ => copies _ _ _
  · exact (Sourced.faultsIn_toFloat isIn).bind fun _ _ => copies _ _ _
  · exact (Sourced.faultsIn_toInt isIn).bind fun _ _ => copies _ _ _
  · exact (Sourced.faultsIn_toBool isIn).bind fun _ _ => copies _ _ _
  · exact copies _ _ _
  · exact spanIn

/-- Items that do not mix are blamed from the first to the last one. -/
theorem faultsIn_ofItems
    {items : List Sourced}
    (itemsIn : ∀ item ∈ items, item.span.IsIn source) :
    FaultsIn source (ofItems span items) := by
  cases items with
  | nil =>
      exact spanIn
  | cons first rest =>
      have last : rest.getLast?.getD first ∈ first :: rest := by
        cases found : rest.getLast? with
        | none => exact List.mem_cons_self
        | some last => exact List.mem_cons_of_mem _ (List.mem_of_getLast? found)
      unfold ofItems
      dsimp only
      split
      · exact faultsIn_withItems spanIn itemsIn _
      · exact (itemsIn first List.mem_cons_self).cover (itemsIn _ last)

theorem faultsIn_ofVector (vector : Setting) : FaultsIn source (ofVector span vector) := by
  unfold ofVector
  split
  · exact spanIn
  · split
    case h_6 => exact spanIn
    all_goals exact trivial

theorem faultsIn_elementText (setting : Setting) (index : Nat) :
    FaultsIn source (setting.elementText span index) := by
  unfold elementText
  dsimp only
  split
  · exact spanIn
  · split
    · exact spanIn
    · exact trivial

theorem faultsIn_textFor (setting : Setting) (extruder : Nat) :
    FaultsIn source (setting.textFor span extruder) := by
  unfold textFor
  split
  · exact faultsIn_elementText spanIn setting extruder
  · split
    · exact spanIn
    · exact trivial

end Changed

section New

variable {sourced : Sourced} (isIn : sourced.span.IsIn source)

include isIn

theorem faultsIn_ofValue : FaultsIn source (ofValue sourced) := by
  unfold ofValue
  split
  case h_5 => exact isIn
  all_goals exact trivial

theorem faultsIn_ofCopies
    {count : Count}
    (countIn : count.span.IsIn source) :
    FaultsIn source (ofCopies count sourced) := by
  have copies {β : Type} (make : List β → Setting) (bytes : Nat) (element : β) :
      FaultsIn source (make <$> count.copies bytes element) :=
    (count.faultsIn_copies countIn bytes element).map fun _ _ => trivial
  unfold ofCopies
  split
  case h_5 => exact isIn
  all_goals exact copies _ _ _

end New

end Setting

/-! ## Bindings -/

namespace Binding

variable
  {binding : Binding}
  (isIn : binding.span.IsIn source)
  (layers : Layers)
  (state : State)

include isIn

theorem faultsIn_setting : FaultsIn source (binding.setting layers state) := by
  unfold setting
  split
  · exact trivial
  · exact isIn

theorem faultsIn_notNil (cause : Cause) (value : Option α) :
    FaultsIn source (notNil binding.span cause value) := by
  cases value with
  | none => exact isIn
  | some a => exact trivial

theorem faultsIn_amountValue (extruder : Nat) (amount : Amount) :
    FaultsIn source (binding.amountValue layers extruder amount) := by
  unfold amountValue
  split
  · exact trivial
  · exact isIn

theorem faultsIn_element (extruder : Nat) (elements : List α) :
    FaultsIn source (binding.element extruder elements) := by
  unfold element
  split
  · exact trivial
  · exact isIn

theorem faultsIn_presentElement (extruder : Nat) (elements : List (Option α)) :
    FaultsIn source (binding.presentElement extruder elements) :=
  (faultsIn_element isIn extruder elements).bind fun value _ => faultsIn_notNil isIn _ value

theorem faultsIn_readScalar (extruder : Nat) (setting : Setting) :
    FaultsIn source (binding.readScalar layers extruder setting) := by
  unfold readScalar
  split
  · exact (faultsIn_notNil isIn _ _).map fun _ _ => trivial
  · exact (faultsIn_notNil isIn _ _).map fun _ _ => trivial
  · exact (faultsIn_notNil isIn _ _).map fun _ _ => trivial
  · exact (faultsIn_notNil isIn _ _).map fun _ _ => trivial
  · exact (faultsIn_notNil isIn _ _).bind fun amount _ =>
      faultsIn_amountValue isIn layers extruder amount
  · exact trivial
  · exact trivial

theorem faultsIn_readSetting (extruder : Nat) (setting : Setting) :
    FaultsIn source (binding.readSetting layers extruder setting) := by
  unfold readSetting
  split
  · exact (faultsIn_presentElement isIn extruder _).map fun _ _ => trivial
  · exact (faultsIn_presentElement isIn extruder _).map fun _ _ => trivial
  · exact (faultsIn_presentElement isIn extruder _).map fun _ _ => trivial
  · exact (faultsIn_presentElement isIn extruder _).map fun _ _ => trivial
  · exact (faultsIn_element isIn extruder _).map fun _ _ => trivial
  · exact (faultsIn_element isIn extruder _).map fun _ _ => trivial
  · exact (faultsIn_element isIn extruder _).bind fun _ _ => trivial
  · exact (faultsIn_presentElement isIn extruder _).bind fun amount _ =>
      faultsIn_amountValue isIn layers extruder amount
  · exact faultsIn_readScalar isIn layers extruder _

theorem faultsIn_read : FaultsIn source (binding.read layers state) :=
  (faultsIn_setting isIn layers state).bind fun setting _ =>
    faultsIn_readSetting isIn layers state.extruder setting

theorem faultsIn_isWholeVector : FaultsIn source (binding.isWholeVector layers state) := by
  unfold isWholeVector
  split
  · exact trivial
  · exact (faultsIn_setting isIn layers state).map fun _ _ => trivial

theorem faultsIn_isNil : FaultsIn source (binding.isNil layers state) := by
  refine (faultsIn_setting isIn layers state).bind fun setting _ => ?_
  split
  · exact trivial
  · split
    · exact isIn
    · split
      · exact isIn
      · exact trivial

theorem faultsIn_vectorSize (hasIndex : Bool) (cause : Cause) :
    FaultsIn source (binding.vectorSize hasIndex cause layers state) := by
  refine (faultsIn_setting isIn layers state).bind fun setting _ => ?_
  split
  · exact isIn
  · exact trivial

/-! ## Assignments -/

theorem faultsIn_update
    {change : Setting → Except Fault Setting}
    (changes : ∀ setting, FaultsIn source (change setting)) :
    FaultsIn source (binding.update layers state change) := by
  have target : FaultsIn source (binding.target layers state) := by
    unfold Binding.target
    split
    · exact faultsIn_setting isIn layers state
    · exact isIn
  exact target.bind fun setting _ => (changes setting).bind fun _ _ => trivial

theorem faultsIn_changedByScalar
    {sourced : Sourced}
    (sourcedIn : sourced.span.IsIn source)
    (setting : Setting) :
    FaultsIn source (binding.changedByScalar sourced setting) := by
  unfold changedByScalar
  split
  · exact Setting.faultsIn_withElement isIn sourcedIn setting binding.index
  · exact Setting.faultsIn_withScalar isIn sourcedIn setting

theorem faultsIn_assignScalar
    {sourced : Sourced}
    (sourcedIn : sourced.span.IsIn source) :
    FaultsIn source (binding.assignScalar sourced layers state) :=
  faultsIn_update isIn layers state (faultsIn_changedByScalar isIn sourcedIn)

theorem faultsIn_assignList
    {items : List Sourced}
    (itemsIn : ∀ item ∈ items, item.span.IsIn source) :
    FaultsIn source (binding.assignList items layers state) := by
  refine faultsIn_update isIn layers state fun setting => ?_
  split
  · split
    next item => exact faultsIn_changedByScalar isIn (itemsIn item List.mem_cons_self) setting
    next => exact isIn
  · exact Setting.faultsIn_withItems isIn itemsIn setting

theorem faultsIn_assignCopies
    {count value : Sourced}
    (countIn : count.span.IsIn source)
    (valueIn : value.span.IsIn source) :
    FaultsIn source (binding.assignCopies count value layers state) := by
  refine faultsIn_update isIn layers state fun setting => ?_
  split
  · exact (Count.settled_ofValue countIn).bind fun count here =>
      Setting.faultsIn_withCopies isIn here valueIn setting
  · exact valueIn

theorem faultsIn_assignVector
    {copied : Binding}
    (copiedIn : copied.span.IsIn source) :
    FaultsIn source (binding.assignVector copied layers state) := by
  refine (faultsIn_setting copiedIn layers state).bind fun vector _ => ?_
  split
  · exact isIn
  · split
    · exact copiedIn
    · refine faultsIn_update isIn layers state fun setting => ?_
      split
      · exact trivial
      · exact isIn

end Binding

theorem State.faultsIn_declared?
    (spanIn : span.IsIn source)
    (isGlobal : Bool)
    (name : String)
    (layers : Layers)
    (state : State) :
    Settled (Fault.IsIn source) (fun existing => ∀ binding ∈ existing, binding.span.IsIn source)
      (State.declared? isGlobal name span layers state) := by
  unfold State.declared?
  dsimp only
  split
  · exact spanIn
  · split
    · rintro _ ⟨⟩
      exact spanIn
    · exact nofun

/-! ## Tables -/

/-- If the first coordinate decreases, both of its points are blamed. -/
theorem Table.faultsIn_interpolate
    {table : Table}
    (tableIn : ∀ knot ∈ table, knot.span.IsIn source)
    (x : Float)
    (spanIn : span.IsIn source) :
    FaultsIn source (table.interpolate x span) := by
  unfold Table.interpolate
  split
  · exact spanIn
  · split
    next left right found =>
      have neighbours := List.of_mem_zip (List.mem_of_find?_eq_some found)
      exact (tableIn left neighbours.1).cover (tableIn right (List.mem_of_mem_drop neighbours.2))
    next =>
      split
      · exact trivial
      · split
        · exact trivial
        · exact spanIn

/-! ## Brackets -/

namespace Bracket

variable {name : String} (layers : Layers)

/-- The parts of a name make it up again. -/
theorem append_of_splitName?
    {front suffix : List Char}
    (split : splitName? name = some (front, suffix)) :
    front ++ '_' :: suffix = name.toList := by
  unfold splitName? at split
  dsimp only at split
  have parts := List.takeWhile_append_dropWhile (p := (· != '_')) (l := name.toList.reverse)
  split at split
  next => nomatch split
  next c rest found =>
    cases split
    have underscore : c = '_' := by
      have stopped := List.head?_dropWhile_not (· != '_') name.toList.reverse
      rw [found] at stopped
      simpa using stopped
    rw [found, underscore] at parts
    have reversed := congrArg List.reverse parts
    simpa only [List.reverse_append, List.reverse_cons, List.reverse_reverse, List.append_assoc,
      List.singleton_append] using reversed

/-- What is no number behind the last underscore of a name is blamed alone. -/
theorem faultsIn_suffixedText (holds : span.Holds source name.toList) :
    FaultsIn source (suffixedText name span layers) := by
  have spanIn := holds.isIn
  unfold suffixedText
  split
  next => exact spanIn
  next front suffix parts =>
    split
    · exact spanIn
    · split
      · split
        · have whole : name.toList = (front ++ ['_']) ++ suffix := by
            rw [← append_of_splitName? parts, List.append_assoc, List.singleton_append]
          have narrow : '_'.utf8Size = 1 := rfl
          rw [whole] at holds
          have behind := holds.isIn_behind
          rw [Text.byteWidth_append, Text.byteWidth_cons, Text.byteWidth_nil, narrow] at behind
          exact behind
        · exact Setting.faultsIn_elementText spanIn _ _
      · exact spanIn

theorem faultsIn_plainText
    (holds : span.Holds source name.toList)
    (extruder : Nat) :
    FaultsIn source (plainText name span layers extruder) := by
  unfold plainText
  split
  · exact Setting.faultsIn_textFor holds.isIn _ extruder
  · exact faultsIn_suffixedText layers holds

theorem faultsIn_indexOf
    (spanIn : span.IsIn source)
    (setting : Setting) :
    FaultsIn source (indexOf setting span) := by
  unfold indexOf
  split
  · split
    · exact spanIn
    · exact trivial
  · exact spanIn
  · exact spanIn

theorem faultsIn_indexedText
    {index : String}
    {indexSpan : Span}
    (spanIn : span.IsIn source)
    (indexIn : indexSpan.IsIn source) :
    FaultsIn source (indexedText name span index indexSpan layers) := by
  unfold indexedText
  split
  · exact spanIn
  · split
    · exact spanIn
    · split
      · exact spanIn
      · split
        · exact indexIn
        · exact (faultsIn_indexOf indexIn _).bind fun _ _ =>
            Setting.faultsIn_elementText spanIn _ _

theorem faultsIn_text
    {bracket : Bracket}
    (placed : bracket.Placed source)
    (state : State) :
    FaultsIn source (bracket.text layers state) := by
  have holds := placed.names.holds
  unfold text
  split
  · exact trivial
  · split
    next => exact faultsIn_plainText layers holds state.extruder
    next index indexSpan found =>
      exact faultsIn_indexedText layers holds.isIn
        (placed.index (index, indexSpan) found).1.isIn

end Bracket

end GcodeTemplate
