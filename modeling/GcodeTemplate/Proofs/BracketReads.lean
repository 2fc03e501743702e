import GcodeTemplate.Proofs.FaultSpans
import GcodeTemplate.Proofs.IndexedAssignment
import GcodeTemplate.Proofs.ReadBack

/-!
# Brackets and reading expressions

A setting of the read-only layers can be put into a text in brackets, or in braces as an
expression that reads it.  The two look it up, choose an element of a vector and write the
value as a text each in their own way.  For the kinds of settings whose values are written
like serialized ones they come to the same text, or fail for the same cause.

An element that is chosen by number has three forms: the number behind the name of the
vector and an underscore, the name of a setting that holds it, or an index of an expression.
-/

namespace GcodeTemplate

open Evaluation Eval Rendering

variable {layers : Layers} {page : Page}

/--
Two pieces put the same text out, or stop at faults with the same cause, which are then of
the same kind.  What they leave behind is the same.
-/
structure Piece.ActAlike (layers : Layers) (page : Page) (first second : Piece) : Prop where
  ends :
    (first.render layers page).1.mapError (·.cause) =
      (second.render layers page).1.mapError (·.cause)
  page : (first.render layers page).2 = (second.render layers page).2

/-- Whether the values of a setting are written in expressions as they are serialized. -/
def Setting.isWrittenAsSerialized : Setting → Bool
  | .float _ | .int _ | .choice _ _ | .point _ _ => true
  | .floats _ | .ints _ | .strings _ | .choices _ => true
  | _ => false

/-- The name of a vector with the number of one of its elements behind it. -/
def Bracket.numbered (name : String) (n : Int64) : String :=
  .ofList (name.toList ++ '_' :: Setting.intText n)

/-! ## What pieces do with a text that may not be there -/

/-- Put a text out, unless finding it has failed. -/
def Page.put (page : Page) : Except Fault String → Except Fault Unit × Page
  | .error fault => (.error fault, page)
  | .ok text => (.ok (), { page with output := page.output ++ text })

/-- A text that is missing for the same cause is missed alike. -/
theorem Page.put_alike
    (page : Page)
    {first second : Except Fault String}
    (alike : first.mapError (·.cause) = second.mapError (·.cause)) :
    (page.put first).1.mapError (·.cause) = (page.put second).1.mapError (·.cause) ∧
      (page.put first).2 = (page.put second).2 := by
  cases first with
  | error fault =>
      cases second with
      | error other => exact ⟨congrArg Except.error (Except.error.inj alike), rfl⟩
      | ok text => nomatch alike
  | ok text =>
      cases second with
      | error other => nomatch alike
      | ok other =>
          cases Except.ok.inj alike
          exact ⟨rfl, rfl⟩

section Render

variable (active : page.state.isSkipping = false)

include active

theorem Piece.render_bracket (bracket : Bracket) :
    (Piece.bracket bracket).render layers page = page.put (bracket.text layers page.state) := by
  rw [Piece.render, Rendering.unlessSkipping, active]
  cases looked : bracket.text layers page.state <;>
    simp [bind, quietly, inspect, looked, write, Page.put]

theorem Piece.render_expression
    {expr : Expr}
    {outcome : Except Fault Value}
    (evaluated : expr.eval layers page.state = (outcome, page.state)) :
    (Piece.expression expr).render layers page = page.put (Value.text <$> outcome) := by
  rw [Piece.render, Rendering.unlessSkipping, active]
  cases outcome <;>
    simp [bind, quietly, evaluated, write, Page.put]

/-- Pieces act alike if their texts are the same, or are missing for the same cause. -/
theorem Piece.actAlike_of_texts
    {bracket : Bracket}
    {expr : Expr}
    {outcome : Except Fault Value}
    (evaluated : expr.eval layers page.state = (outcome, page.state))
    (alike : (bracket.text layers page.state).mapError (·.cause) =
      (Value.text <$> outcome).mapError (·.cause)) :
    ActAlike layers page (.bracket bracket) (.expression expr) := by
  have same := page.put_alike alike
  rw [← render_bracket active, ← render_expression active evaluated] at same
  exact ⟨same.1, same.2⟩

end Render

/-! ## The text of an element -/

/-- Without an index the element of the extruder is read, or else the first one. -/
theorem Binding.readIndex_none (extruder size : Nat) :
    readIndex none extruder size = clamp extruder size := by
  simp only [readIndex, clamp]
  split <;> split <;> omega

namespace Setting

variable
  {setting : Setting}
  {binding : Binding}
  {extruder : Nat}
  (written : setting.isWrittenAsSerialized)

include written

/-- The serialized element at a place is the text of what a binding to that place reads. -/
theorem elementText_alike
    {place : Nat}
    (vector : setting.isVector)
    (aimed : Binding.readIndex binding.index extruder setting.size =
      Binding.clamp place setting.size)
    (span : Span) :
    (setting.elementText span place).mapError (·.cause) =
      (Value.text <$> binding.readSetting layers extruder setting).mapError (·.cause) := by
  cases setting
  case floats values | ints values =>
    simp only [size] at aimed
    simp only [elementText, elementTexts, isNilAt, nils, size, Binding.readSetting,
      Binding.presentElement, Binding.element, aimed, List.getElem?_map]
    rcases values[Binding.clamp place values.length]? with _ | _ | value <;> rfl
  case strings values | choices values =>
    simp only [size] at aimed
    simp only [elementText, elementTexts, isNilAt, nils, size, Binding.readSetting,
      Binding.element, aimed, List.getElem?_map]
    rcases values[Binding.clamp place values.length]? with _ | value
    · rfl
    · simp [Value.text, Functor.map, Except.map, Except.mapError]
  all_goals
    first
      | exact absurd written Bool.false_ne_true
      | exact absurd vector Bool.false_ne_true

omit written in
/-- There is no text of an element in an empty vector. -/
theorem elementText_of_empty
    (empty : setting.size = 0)
    (span : Span)
    (place : Nat) :
    setting.elementText span place = .error ⟨.emptyVector, span⟩ := by
  have none : setting.elementTexts = [] := by
    cases setting
    all_goals
      first
        | exact List.map_eq_nil_iff.2 (List.length_eq_zero_iff.1 empty)
        | exact absurd empty Nat.one_ne_zero
  simp [elementText, none]

/-- What a bracket shows of a setting is the text of what a binding without an index reads. -/
theorem textFor_alike
    (whole : binding.index = none)
    (span : Span) :
    (setting.textFor span extruder).mapError (·.cause) =
      (Value.text <$> binding.readSetting layers extruder setting).mapError (·.cause) := by
  cases vector : setting.isVector with
  | true =>
      rw [textFor, if_pos vector]
      refine elementText_alike written vector ?_ span
      rw [whole, Binding.readIndex_none]
  | false =>
      rw [textFor, vector]
      cases setting
      case float value | int value =>
        cases value <;> rfl
      case choice | point => rfl
      all_goals
        first
          | exact absurd written Bool.false_ne_true
          | exact absurd vector.symm Bool.false_ne_true

end Setting

/-! ## The number behind a name -/

namespace Bracket

/-- A name is split at its last underscore. -/
theorem splitName?_ofList
    {front suffix : List Char}
    (plain : '_' ∉ suffix) :
    splitName? (.ofList (front ++ '_' :: suffix)) = some (front, suffix) := by
  have passed : ∀ c ∈ suffix.reverse, (c != '_') = true := by
    intro c member
    simp only [bne_iff_ne]
    rintro rfl
    exact plain (List.mem_reverse.1 member)
  simp [splitName?, List.takeWhile_append_of_pos passed, List.dropWhile_append_of_pos passed]

/-- Digits have no sign in front of them. -/
theorem splitSign_of_isDigit
    {digits : List Char}
    (areDigits : ∀ c ∈ digits, c.isDigit = true) :
    splitSign digits = (false, digits) := by
  unfold splitSign
  split
  next => nomatch areDigits '-' List.mem_cons_self
  next => nomatch areDigits '+' List.mem_cons_self
  next => rfl

/-- The digits of a number that is an integer are read as that number. -/
theorem suffixNumber?_digits
    {number : Nat}
    (small : number < 1 <<< 63) :
    suffixNumber? (Number.digits number) = some number := by
  have present : Number.digits number ≠ [] := Nat.toDigits_ne_nil
  have areDigits : ∀ c ∈ Number.digits number, c.isDigit = true :=
    fun c member => Nat.isDigit_of_mem_toDigits (by decide) (by decide) member
  have back : Nat.ofDigitChars 10 (Number.digits number) 0 = number :=
    Nat.ofDigitChars_toDigits (by decide) (by decide)
  have all : (Number.digits number).all (·.isDigit) = true := List.all_eq_true.2 areDigits
  have empty : (Number.digits number).isEmpty = false := List.isEmpty_eq_false_iff.2 present
  simp only [suffixNumber?, splitSign_of_isDigit areDigits, all, empty, back, if_pos small,
    Bool.not_true, Bool.or_self, Bool.false_eq_true, if_false]

/-- A number behind the name of a vector reads the element of that number. -/
theorem suffixedText_numbered
    {name : String}
    {setting : Setting}
    {n : Int64}
    (found : layers.get? name = some setting)
    (vector : setting.isVector)
    (nonnegative : 0 ≤ n)
    (span : Span) :
    suffixedText (numbered name n) span layers = setting.elementText span n.toInt.toNat := by
  have positive : 0 ≤ n.toInt := Int64.le_iff_toInt_le.1 nonnegative
  have small : n.toInt.toNat < 1 <<< 63 := by
    have bound := Int64.toInt_lt n
    omega
  have digits : Setting.intText n = Number.digits n.toInt.toNat := by
    rw [Setting.intText, Number.wholeText, if_neg (by omega)]
    congr 1
    omega
  have plain : '_' ∉ Number.digits n.toInt.toNat := by
    intro member
    have isDigit := Nat.isDigit_of_mem_toDigits (by decide) (by decide) member
    nomatch isDigit
  rw [suffixedText, numbered, digits, splitName?_ofList plain]
  simp only [String.ofList_toList, found, vector, if_true, suffixNumber?_digits small]

/-- The value of a whole setting as an index reads the element of that number. -/
theorem indexedText_of_int
    {name index : String}
    {setting : Setting}
    {n : Int64}
    (found : layers.get? name = some setting)
    (vector : setting.isVector)
    (nonnegative : 0 ≤ n)
    (indexed : layers.get? index = some (.int (some n)))
    (span indexSpan : Span) :
    indexedText name span index indexSpan layers = setting.elementText span n.toInt.toNat := by
  have chosen : indexedSetting? name layers = some setting := by
    simp [indexedSetting?, found]
  have number : indexOf (.int (some n)) indexSpan = .ok n.toInt.toNat := by
    simp [indexOf, Int64.not_lt.2 nonnegative]
  unfold indexedText
  rw [chosen]
  by_cases none : setting.size = 0
  · -- an empty vector fails before its index is looked at, as it would for any element
    simp [vector, none, Setting.elementText_of_empty none]
  · simp [vector, none, indexed, number, bind, Except.bind]

end Bracket

/-! ## Brackets and braces -/

/-- A name of the read-only layers is found there in every state. -/
theorem exists_lookUp_of_get?
    {name : String}
    {setting : Setting}
    (found : layers.get? name = some setting) :
    ∃ scope, ∀ state, lookUp layers state name = some (setting, scope) := by
  rcases Option.map_eq_some_iff.1 found with ⟨⟨_, scope⟩, there, rfl⟩
  exact ⟨scope, fun state => by simp [lookUp, there]⟩

/-- A variable without an index is bound as it stands. -/
theorem Expr.eval_read_whole
    {state : State}
    {name : String}
    {setting : Setting}
    {scope : Scope}
    (active : state.isSkipping = false)
    (found : lookUp layers state name = some (setting, scope))
    (readSpan nameSpan span : Span) :
    (Expr.read readSpan ⟨name, nameSpan, none, span⟩).eval layers state =
      (Binding.read ⟨name, scope, none, span⟩ layers state, state) := by
  have resolved :
      resolve name nameSpan layers state = (.ok (scope, setting.isVector), state) := by
    simp [resolve, inspect, found]
  rw [Expr.eval.eq_def, Eval.unlessSkipping, active]
  refine bind_of_ok ?_
  rw [Reference.bind, bind_of_ok resolved]
  rfl

section Names

variable
  {name : String}
  {setting : Setting}
  {n : Int64}
  (active : page.state.isSkipping = false)
  (found : layers.get? name = some setting)
  (written : setting.isWrittenAsSerialized)

include active found written

theorem Piece.actAlike_whole (bracketNameSpan bracketSpan nameSpan span readSpan : Span) :
    ActAlike layers page
      (.bracket ⟨name, bracketNameSpan, none, bracketSpan⟩)
      (.expression (.read readSpan ⟨name, nameSpan, none, span⟩)) := by
  rcases exists_lookUp_of_get? found with ⟨scope, lookedUp⟩
  have there := lookedUp page.state
  refine actAlike_of_texts active
    (Expr.eval_read_whole active there readSpan nameSpan span) ?_
  rw [Binding.read_of_settingIn _ (settingIn_of_lookUp there)]
  simp only [Bracket.text, active, Bool.false_eq_true, if_false, Bracket.plainText, found]
  exact Setting.textFor_alike written rfl bracketNameSpan

/-- Any bracket that inserts the serialized element of a number acts like an index. -/
theorem Piece.actAlike_element
    {bracket : Bracket}
    {bracketNameSpan : Span}
    (vector : setting.isVector)
    (chosen : bracket.text layers page.state =
      setting.elementText bracketNameSpan n.toInt.toNat)
    (nameSpan literalSpan span readSpan : Span) :
    ActAlike layers page
      (.bracket bracket)
      (.expression (.read readSpan
        ⟨name, nameSpan, some (.literal literalSpan (.int n)), span⟩)) := by
  rcases exists_lookUp_of_get? found with ⟨scope, lookedUp⟩
  have there := lookedUp page.state
  have literal :
      (Expr.literal literalSpan (.int n)).eval layers page.state =
        (.ok (.int n), page.state) := by
    rw [Expr.eval.eq_def, Eval.unlessSkipping, active]
    rfl
  refine actAlike_of_texts active (Expr.eval_read_element there vector literal readSpan) ?_
  rw [Binding.read_of_settingIn _ (settingIn_of_lookUp there), chosen]
  exact Setting.elementText_alike written vector rfl bracketNameSpan

end Names

/--
Outside of blocks that are not taken, a name of the read-only layers is put out alike in
brackets and in braces, if it stands for a float, an integer, a choice or a point, or for
a vector of floats, integers, strings or choices.  So is an element of such a vector, be
there one or not: with a number behind the name, unless the two are a name themselves, or
with the name of an integer for an index, a bracket does what an expression does that has
the same number for an index.
-/
theorem brackets_act_as_expressions
    (layers : Layers)
    (page : Page)
    (name : String)
    (setting : Setting)
    (active : page.state.suppressed = 0)
    (found : layers.get? name = some setting)
    (written : setting.isWrittenAsSerialized) :
    (∀ bracketNameSpan bracketSpan nameSpan span readSpan,
      Piece.ActAlike layers page
        (.bracket ⟨name, bracketNameSpan, none, bracketSpan⟩)
        (.expression (.read readSpan ⟨name, nameSpan, none, span⟩))) ∧
      ∀ (n : Int64) (bracketNameSpan bracketSpan nameSpan literalSpan span readSpan : Span),
        setting.isVector → 0 ≤ n →
          let element := Piece.expression (.read readSpan
            ⟨name, nameSpan, some (.literal literalSpan (.int n)), span⟩)
          (layers.get? (Bracket.numbered name n) = none →
            Piece.ActAlike layers page
              (.bracket ⟨Bracket.numbered name n, bracketNameSpan, none, bracketSpan⟩)
              element) ∧
            ∀ index indexSpan, layers.get? index = some (.int (some n)) →
              Piece.ActAlike layers page
                (.bracket ⟨name, bracketNameSpan, some (index, indexSpan), bracketSpan⟩)
                element := by
  have notSkipping : page.state.isSkipping = false := by
    simp [State.isSkipping, active]
  refine ⟨Piece.actAlike_whole notSkipping found written, ?_⟩
  intro n bracketNameSpan bracketSpan nameSpan literalSpan span readSpan vector nonnegative
    element
  constructor
  · intro absent
    have chosen :
        Bracket.text ⟨Bracket.numbered name n, bracketNameSpan, none, bracketSpan⟩ layers
            page.state =
          setting.elementText bracketNameSpan n.toInt.toNat := by
      simp only [Bracket.text, notSkipping, Bool.false_eq_true, if_false, Bracket.plainText,
        absent, Bracket.suffixedText_numbered found vector nonnegative]
    exact Piece.actAlike_element notSkipping found written vector chosen _ _ _ _
  · intro index indexSpan indexed
    have chosen :
        Bracket.text ⟨name, bracketNameSpan, some (index, indexSpan), bracketSpan⟩ layers
            page.state =
          setting.elementText bracketNameSpan n.toInt.toNat := by
      simp only [Bracket.text, notSkipping, Bool.false_eq_true, if_false,
        Bracket.indexedText_of_int found vector nonnegative indexed]
    exact Piece.actAlike_element notSkipping found written vector chosen _ _ _ _

/-- The second of two temperatures is put out by all three forms, while the first one is unset. -/
theorem second_temperature_put_out_alike :
    let layers : Layers :=
      { process := .ofList [("second", .int (some 1)), ("temps", .ints [none, some 210])] }
    let page : Page := ⟨{}, ""⟩
    let element : Piece :=
      .expression (.read {} ⟨"temps", {}, some (.literal {} (.int 1)), {}⟩)
    let numbered : Piece := .bracket ⟨"temps_1", {}, none, {}⟩
    let indexed : Piece := .bracket ⟨"temps", {}, some ("second", {}), {}⟩
    let whole : Piece := .expression (.read {} ⟨"temps", {}, none, {}⟩)
    let plain : Piece := .bracket ⟨"temps", {}, none, {}⟩
    (element.render layers page).2.output = "210" ∧
      Piece.ActAlike layers page numbered element ∧
      Piece.ActAlike layers page indexed element ∧
      (whole.render layers page).1 = .error ⟨.nilElement, {}⟩ ∧
      Piece.ActAlike layers page plain whole := by
  intro layers page element numbered indexed whole plain
  have both :=
    brackets_act_as_expressions layers page "temps" (.ints [none, some 210]) rfl rfl rfl
  have alike := both.2 1 {} {} {} {} {} {} rfl (by decide)
  exact ⟨rfl, alike.1 rfl, alike.2 "second" {} rfl, rfl, both.1 {} {} {} {} {}⟩

end GcodeTemplate
