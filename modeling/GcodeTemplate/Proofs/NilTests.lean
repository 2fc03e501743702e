import GcodeTemplate.Proofs.PlainVariables
import GcodeTemplate.Proofs.Suppression

/-!
# Asking for nils

A template can ask whether a variable is nil before it reads it.  Asking and reading each
have their own way from an index to an element, and asking wants an index of a vector where
reading makes do without one.  But where asking has an answer, it is about the element
that is read: reading fails at a nil exactly if the answer was yes.
-/

namespace GcodeTemplate

open Evaluation Eval

/-- Whether a fault is due to a nil that was read. -/
def Cause.isNil : Cause → Bool
  | nilScalar | nilElement => true
  | _ => false

/-- A nil that is read is a failure at run time. -/
theorem Cause.kind_of_isNil
    {cause : Cause}
    (ofNil : cause.isNil) :
    cause.kind = .runtime := by
  cases cause <;> first | rfl | nomatch ofNil

/-- What is found by looking at the context can be turned into something else. -/
theorem Eval.map_inspect
    {α β : Type}
    (look : Layers → State → Except Fault α)
    (f : α → β)
    (layers : Layers)
    (state : State) :
    (f <$> inspect look) layers state = (f <$> look layers state, state) := by
  rw [map_eq_pure_bind]
  cases seen : look layers state with
  | error fault => exact bind_of_error (congrArg (·, state) seen)
  | ok a => exact bind_of_ok (congrArg (·, state) seen)

namespace Binding

variable {binding : Binding} {layers : Layers} {extruder : Nat}

/--
An outcome is the fault of a nil if there is one, and otherwise a result or the fault of a
percentage that does not resolve.
-/
structure FailsAtNil
    {α : Type}
    (binding : Binding)
    (unset : Bool)
    (outcome : Except Fault α) : Prop where
  nil : unset = true →
    ∃ cause : Cause, cause.isNil ∧ outcome = .error ⟨cause, binding.span⟩
  present : unset = false →
    (∃ a, outcome = .ok a) ∨ outcome = .error ⟨.unresolvedRatio, binding.span⟩

/-! ## Values that may be nil -/

section FailsAtNil

variable {α β : Type} {unset : Bool} {outcome : Except Fault α}

theorem failsAtNil_ok (a : α) : binding.FailsAtNil false (.ok a) :=
  ⟨nofun, fun _ => .inl ⟨a, rfl⟩⟩

/-- After a value that is there only a percentage can be at fault. -/
theorem FailsAtNil.bind
    (fails : binding.FailsAtNil unset outcome)
    {next : α → Except Fault β}
    (nextFails : ∀ a, binding.FailsAtNil false (next a)) :
    binding.FailsAtNil unset (outcome >>= next) where
  nil isUnset := by
    rcases fails.nil isUnset with ⟨cause, ofNil, rfl⟩
    exact ⟨cause, ofNil, rfl⟩
  present isThere := by
    rcases fails.present isThere with ⟨a, rfl⟩ | rfl
    · exact (nextFails a).present rfl
    · exact .inr rfl

theorem FailsAtNil.map
    (fails : binding.FailsAtNil unset outcome)
    (f : α → β) :
    binding.FailsAtNil unset (f <$> outcome) := by
  rw [map_eq_pure_bind]
  exact fails.bind fun a => failsAtNil_ok (f a)

theorem notNil_failsAtNil
    {cause : Cause}
    (ofNil : cause.isNil)
    (value : Option α) :
    binding.FailsAtNil value.isNone (notNil binding.span cause value) := by
  cases value with
  | none => exact ⟨fun _ => ⟨cause, ofNil, rfl⟩, nofun⟩
  | some a => exact failsAtNil_ok a

end FailsAtNil

theorem amountValue_failsAtNil (amount : Amount) :
    binding.FailsAtNil false (binding.amountValue layers extruder amount) := by
  refine ⟨nofun, fun _ => ?_⟩
  unfold amountValue
  split
  · exact .inl ⟨_, rfl⟩
  · exact .inr rfl

/-! ## Scalars and elements -/

/-- Reading a scalar fails at a nil if it is one. -/
theorem readSetting_failsAtNil_of_scalar
    {setting : Setting}
    (scalar : setting.isVector = false) :
    binding.FailsAtNil setting.isNil (binding.readSetting layers extruder setting) := by
  cases setting
  case float value | percent value | int value | bool value =>
    exact (notNil_failsAtNil rfl value).map _
  case amount value =>
    exact (notNil_failsAtNil rfl value).bind amountValue_failsAtNil
  case string | choice | point => exact failsAtNil_ok _
  all_goals nomatch scalar

section Elements

variable {α : Type} {place : Nat} (aimed : binding.index = some place)

include aimed

/-- What is read at an index is the element that the index is clamped to. -/
theorem element_of_index
    (extruder : Nat)
    {elements : List α}
    (filled : elements.length ≠ 0) :
    ∃ a, elements[clamp place elements.length]? = some a ∧
      binding.element extruder elements = .ok a := by
  have inside : clamp place elements.length < elements.length := by
    simpa only [readIndex, aimed] using
      readIndex_lt (Nat.pos_of_ne_zero filled) binding.index extruder
  have there := List.getElem?_eq_getElem inside
  exact ⟨_, there, by simp only [element, readIndex, aimed, there]⟩

/-- Reading an element that may be nil fails at a nil if there is one at its index. -/
theorem presentElement_failsAtNil
    {values : List (Option α)}
    (filled : values.length ≠ 0) :
    binding.FailsAtNil ((values.map (·.isNone))[clamp place values.length]?.getD false)
      (binding.presentElement extruder values) := by
  rcases element_of_index aimed extruder filled with ⟨value, there, found⟩
  rw [presentElement, found, List.getElem?_map, there]
  exact notNil_failsAtNil rfl value

/-- Reading an element of a vector fails at a nil if there is one at its index. -/
theorem readSetting_failsAtNil_of_vector
    {setting : Setting}
    (vector : setting.isVector)
    (filled : setting.size ≠ 0) :
    binding.FailsAtNil (setting.isNilAt (clamp place setting.size))
      (binding.readSetting layers extruder setting) := by
  cases setting
  case floats | percents | ints | bools =>
    exact (presentElement_failsAtNil aimed filled).map _
  case amounts =>
    exact (presentElement_failsAtNil aimed filled).bind amountValue_failsAtNil
  case strings | choices | points =>
    rcases element_of_index aimed extruder filled with ⟨a, _, found⟩
    simp only [readSetting, found]
    exact failsAtNil_ok _
  all_goals nomatch vector

end Elements

/-! ## The answer -/

section Answer

variable
  {state : State}
  {setting : Setting}
  (found : binding.setting layers state = .ok setting)

include found

/-- Where asking for a nil has an answer, reading fails at a nil if the answer is yes. -/
theorem read_failsAtNil
    {unset : Bool}
    (answered : binding.isNil layers state = .ok unset) :
    binding.FailsAtNil unset (binding.read layers state) := by
  rw [isNil, found] at answered
  rw [Binding.read, found]
  change (if _ then _ else _) = _ at answered
  change binding.FailsAtNil unset (binding.readSetting layers state.extruder setting)
  split at answered
  next scalar =>
    cases answered
    exact readSetting_failsAtNil_of_scalar (by simpa using scalar)
  next vector =>
    split at answered
    next => cases answered
    next place aimed =>
      split at answered
      next => cases answered
      next filled =>
        cases answered
        exact readSetting_failsAtNil_of_vector aimed (by simpa using vector) filled

/-- Only for vectors there is no answer: as a whole, or at an index if they are empty. -/
theorem isNil_eq_error_iff {fault : Fault} :
    binding.isNil layers state = .error fault ↔
      setting.isVector ∧
        (binding.index = none ∧ fault = ⟨.vectorWhereScalarExpected, binding.span⟩ ∨
          binding.index.isSome ∧ setting.size = 0 ∧ fault = ⟨.emptyVector, binding.span⟩) := by
  rw [isNil, found]
  change (if _ then _ else _) = _ ↔ _
  cases vector : setting.isVector with
  | false =>
      exact ⟨nofun, nofun⟩
  | true =>
      cases aimed : binding.index with
      | none => simp [eq_comm]
      | some place =>
          by_cases empty : setting.size = 0 <;> simp [empty, eq_comm, pure, Except.pure]

end Answer

end Binding

/-! ## References -/

/-- Why there is no answer to the question whether a variable is nil. -/
inductive Reference.Unanswered
    (layers : Layers)
    (state : State)
    (reference : Reference Expr) : Fault → Prop where
  /-- There is no variable of that name. -/
  | unknown
      (missing : lookUp layers state reference.name = none) :
      Unanswered layers state reference ⟨.unknownVariable, reference.nameSpan⟩
  /-- The index cannot be evaluated. -/
  | index
      {index : Expr}
      {fault : Fault}
      (known : (lookUp layers state reference.name).isSome)
      (indexed : reference.index = some index)
      (failed : (index.eval layers state).1 = .error fault) :
      Unanswered layers state reference fault
  /-- The index is something, but not a whole number. -/
  | notWhole
      {index : Expr}
      {value : Value}
      (known : (lookUp layers state reference.name).isSome)
      (indexed : reference.index = some index)
      (evaluated : (index.eval layers state).1 = .ok value)
      (notInt : ∀ n, value ≠ .int n)
      (notEmpty : value ≠ .empty) :
      Unanswered layers state reference ⟨.indexNotWhole, index.span⟩
  /-- The variable is a vector without an index, or with one that is empty. -/
  | wholeVector
      {setting : Setting}
      {scope : Scope}
      (found : lookUp layers state reference.name = some (setting, scope))
      (vector : setting.isVector)
      (unindexed : ∀ index, reference.index = some index →
        (index.eval layers state).1 = .ok .empty) :
      Unanswered layers state reference ⟨.vectorWhereScalarExpected, reference.span⟩
  /-- The variable is a vector without elements, so there is none at the index. -/
  | emptyVector
      {setting : Setting}
      {scope : Scope}
      {index : Expr}
      {n : Int64}
      (found : lookUp layers state reference.name = some (setting, scope))
      (vector : setting.isVector)
      (indexed : reference.index = some index)
      (evaluated : (index.eval layers state).1 = .ok (.int n))
      (empty : setting.size = 0) :
      Unanswered layers state reference ⟨.emptyVector, reference.span⟩

section Reference

variable {layers : Layers} {state ready : State} {reference : Reference Expr}

theorem Reference.bind_of_missing
    (missing : lookUp layers state reference.name = none) :
    reference.bind layers state =
      (.error ⟨.unknownVariable, reference.nameSpan⟩, state) := by
  have unresolved :
      resolve reference.name reference.nameSpan layers state =
        (.error ⟨.unknownVariable, reference.nameSpan⟩, state) := by
    simp [resolve, inspect, missing]
  rcases reference with ⟨name, nameSpan, _ | index, span⟩
  case none => rw [Reference.bind, bind_of_error unresolved]
  case some => rw [Reference.bind, bind_of_error unresolved]

/-- A binding stands for the whole of its reference. -/
theorem Reference.span_of_bind
    {binding : Binding}
    (bound : reference.bind layers state = (.ok binding, ready)) :
    binding.span = reference.span := by
  rcases reference with ⟨name, nameSpan, _ | index, span⟩ <;> rw [Reference.bind] at bound
  case none =>
    rcases Evaluation.bind_eq_ok bound with ⟨_, _, _, bound⟩
    cases bound
    rfl
  case some =>
    rcases Evaluation.bind_eq_ok bound with ⟨_, _, _, bound⟩
    rcases Evaluation.bind_eq_ok bound with ⟨_, _, _, bound⟩
    cases bound
    rfl

section Found

variable
  {setting : Setting}
  {scope : Scope}
  (found : lookUp layers state reference.name = some (setting, scope))

include found

/-- The setting that a name stands for is that of its binding. -/
theorem Reference.setting_of_lookUp
    {binding : Binding}
    (bound : reference.bind layers state = (.ok binding, ready)) :
    binding.setting layers ready = .ok setting := by
  rcases Reference.setting_of_bind bound with ⟨_, same, aimed⟩
  cases found.symm.trans same
  exact aimed

theorem Reference.resolve_of_lookUp :
    resolve reference.name reference.nameSpan layers state =
      (.ok (scope, setting.isVector), state) := by
  simp [resolve, inspect, found]

theorem Reference.bind_of_unindexed
    (unindexed : reference.index = none) :
    reference.bind layers state = (.ok ⟨reference.name, scope, none, reference.span⟩, state) := by
  have resolved := reference.resolve_of_lookUp found
  obtain ⟨name, nameSpan, index, span⟩ := reference
  obtain rfl : index = none := unindexed
  rw [Reference.bind, bind_of_ok resolved]
  rfl

variable {index : Expr} (indexed : reference.index = some index)

include indexed

/-- An index that cannot be evaluated is at fault for the whole reference. -/
theorem Reference.bind_of_index_error
    {fault : Fault}
    (failed : index.eval layers state = (.error fault, ready)) :
    reference.bind layers state = (.error fault, ready) := by
  have resolved := reference.resolve_of_lookUp found
  obtain ⟨name, nameSpan, written, span⟩ := reference
  obtain rfl : written = some index := indexed
  have unplaced :
      expecting (Sourced.place setting.isVector) index.span index.eval layers state =
        (.error fault, ready) :=
    bind_of_error failed
  rw [Reference.bind, bind_of_ok resolved]
  exact bind_of_error unplaced

/-- A reference is bound to the place that its index stands for, if it stands for one. -/
theorem Reference.bind_of_index
    {value : Value}
    (evaluated : index.eval layers state = (.ok value, ready)) :
    reference.bind layers state =
      ((⟨reference.name, scope, ·, reference.span⟩) <$>
        Sourced.place setting.isVector ⟨value, index.span⟩, ready) := by
  have resolved := reference.resolve_of_lookUp found
  obtain ⟨name, nameSpan, written, span⟩ := reference
  obtain rfl : written = some index := indexed
  rw [Reference.bind, bind_of_ok resolved]
  cases placed : Sourced.place setting.isVector ⟨value, index.span⟩ with
  | error fault =>
      apply bind_of_error
      rw [expecting, bind_of_ok evaluated, placed]
      rfl
  | ok place =>
      apply bind_of_ok
      rw [expecting, bind_of_ok evaluated, placed]
      rfl

end Found

section Asking

variable (active : state.suppressed = 0)

include active

theorem Expr.eval_read_of_bound
    {result : Except Fault Binding}
    (bound : reference.bind layers state = (result, ready))
    (span : Span) :
    (Expr.read span reference).eval layers state =
      (result >>= fun binding => binding.read layers ready, ready) := by
  rw [Expr.eval.eq_def, unlessSkipping_of_active _ active]
  cases result with
  | error fault => exact bind_of_error bound
  | ok binding => exact bind_of_ok bound

theorem Expr.eval_isNil_of_bound
    {result : Except Fault Binding}
    (bound : reference.bind layers state = (result, ready))
    (span : Span) :
    (Expr.call span (.isNil reference)).eval layers state =
      (result >>= fun binding => .bool <$> binding.isNil layers ready, ready) := by
  rw [Expr.eval.eq_def, unlessSkipping_of_active _ active]
  simp only [Call.eval]
  cases result with
  | error fault => exact bind_of_error bound
  | ok binding => exact (bind_of_ok bound).trans (map_inspect _ _ _ _)

/-- Where there is an answer, reading the same variable fails at a nil if it is yes. -/
theorem Reference.read_failsAtNil
    {askSpan : Span}
    {value : Value}
    (answered : ((Expr.call askSpan (.isNil reference)).eval layers state).1 = .ok value)
    (readSpan : Span) :
    ∃ (unset : Bool) (binding : Binding), value = .bool unset ∧
      binding.span = reference.span ∧
      binding.FailsAtNil unset ((Expr.read readSpan reference).eval layers state).1 := by
  cases bound : reference.bind layers state with
  | mk result ready =>
      rw [Expr.eval_isNil_of_bound active bound] at answered
      rw [Expr.eval_read_of_bound active bound]
      cases result with
      | error fault => nomatch answered
      | ok binding =>
          rcases Fault.map_eq_ok_iff.1 answered with ⟨unset, asked, rfl⟩
          rcases setting_of_bind bound with ⟨setting, _, aimed⟩
          exact ⟨unset, binding, rfl, span_of_bind bound, Binding.read_failsAtNil aimed asked⟩

/-- There is no answer about a whole vector, nor about an element of an empty one. -/
theorem Reference.isNil_eq_error_iff_of_bound
    {setting : Setting}
    {scope : Scope}
    {binding : Binding}
    {span : Span}
    {fault : Fault}
    (found : lookUp layers state reference.name = some (setting, scope))
    (bound : reference.bind layers state = (.ok binding, ready)) :
    ((Expr.call span (.isNil reference)).eval layers state).1 = .error fault ↔
      setting.isVector ∧
        (binding.index = none ∧ fault = ⟨.vectorWhereScalarExpected, reference.span⟩ ∨
          binding.index.isSome ∧ setting.size = 0 ∧ fault = ⟨.emptyVector, reference.span⟩) := by
  rw [Expr.eval_isNil_of_bound active bound, ← span_of_bind bound]
  exact Fault.map_eq_error_iff.trans (Binding.isNil_eq_error_iff (setting_of_lookUp found bound))

/-- Where the index has a value and there is no answer, that value or the vector is at fault. -/
theorem Reference.unanswered_of_index_value
    {setting : Setting}
    {scope : Scope}
    {index : Expr}
    {value : Value}
    {span : Span}
    {fault : Fault}
    (found : lookUp layers state reference.name = some (setting, scope))
    (indexed : reference.index = some index)
    (evaluated : index.eval layers state = (.ok value, ready))
    (failed : ((Expr.call span (.isNil reference)).eval layers state).1 = .error fault) :
    reference.Unanswered layers state fault := by
  have bound := bind_of_index found indexed evaluated
  have evaluated := congrArg Prod.fst evaluated
  cases value with
  | int n =>
      rcases (isNil_eq_error_iff_of_bound active found bound).1 failed with
        ⟨vector, ⟨whole, _⟩ | ⟨_, empty, rfl⟩⟩
      · simp [vector] at whole
      · exact .emptyVector found vector indexed evaluated empty
  | empty =>
      rcases (isNil_eq_error_iff_of_bound active found bound).1 failed with
        ⟨vector, ⟨_, rfl⟩ | ⟨some, _⟩⟩
      · refine .wholeVector found vector fun other same => ?_
        cases indexed.symm.trans same
        exact evaluated
      · nomatch some
  | bool | double | string =>
      rw [Expr.eval_isNil_of_bound active bound] at failed
      cases failed
      exact .notWhole (by simp [found]) indexed evaluated nofun nofun

/-- Where there is no answer, the name, the index or the vector is at fault. -/
theorem Reference.unanswered_of_isNil
    {span : Span}
    {fault : Fault}
    (failed : ((Expr.call span (.isNil reference)).eval layers state).1 = .error fault) :
    reference.Unanswered layers state fault := by
  cases found : lookUp layers state reference.name with
  | none =>
      rw [Expr.eval_isNil_of_bound active (bind_of_missing found)] at failed
      cases failed
      exact .unknown found
  | some entry =>
      obtain ⟨setting, scope⟩ := entry
      cases indexed : reference.index with
      | none =>
          have bound := bind_of_unindexed found indexed
          rcases (isNil_eq_error_iff_of_bound active found bound).1 failed with
            ⟨vector, ⟨_, rfl⟩ | ⟨some, _⟩⟩
          · exact .wholeVector found vector (by simp [indexed])
          · nomatch some
      | some index =>
          cases evaluated : index.eval layers state with
          | mk result ready =>
              cases result with
              | error fault =>
                  rw [Expr.eval_isNil_of_bound active
                    (bind_of_index_error found indexed evaluated)] at failed
                  cases failed
                  exact .index (by simp [found]) indexed (congrArg Prod.fst evaluated)
              | ok value =>
                  exact unanswered_of_index_value active found indexed evaluated failed

/-- Where the name, the index or the vector is at fault, there is no answer. -/
theorem Reference.isNil_of_unanswered
    {fault : Fault}
    (unanswered : reference.Unanswered layers state fault)
    (span : Span) :
    ((Expr.call span (.isNil reference)).eval layers state).1 = .error fault := by
  cases unanswered with
  | unknown missing =>
      rw [Expr.eval_isNil_of_bound active (bind_of_missing missing)]
      rfl
  | index known indexed failed =>
      obtain ⟨⟨setting, scope⟩, found⟩ := Option.isSome_iff_exists.1 known
      rw [Expr.eval_isNil_of_bound active
        (bind_of_index_error found indexed (Prod.ext failed rfl))]
      rfl
  | @notWhole index value known indexed evaluated notInt notEmpty =>
      obtain ⟨⟨setting, scope⟩, found⟩ := Option.isSome_iff_exists.1 known
      rw [Expr.eval_isNil_of_bound active
        (bind_of_index found indexed (Prod.ext evaluated rfl))]
      cases value with
      | int n => exact absurd rfl (notInt n)
      | empty => exact absurd rfl notEmpty
      | bool | double | string => rfl
  | wholeVector found vector unindexed =>
      cases indexed : reference.index with
      | none =>
          exact (isNil_eq_error_iff_of_bound active found (bind_of_unindexed found indexed)).2
            ⟨vector, .inl ⟨rfl, rfl⟩⟩
      | some index =>
          have bound := bind_of_index found indexed (Prod.ext (unindexed index indexed) rfl)
          exact (isNil_eq_error_iff_of_bound active found bound).2 ⟨vector, .inl ⟨rfl, rfl⟩⟩
  | emptyVector found vector indexed evaluated empty =>
      have bound := bind_of_index found indexed (Prod.ext evaluated rfl)
      exact (isNil_eq_error_iff_of_bound active found bound).2
        ⟨vector, .inr ⟨by simp [vector], empty, rfl⟩⟩

end Asking

end Reference

/--
Ask whether a variable, or an element of one, is nil, and read it in the same context.  If
the answer is yes, reading fails at a nil; if it is no, reading yields a value, or fails
because a percentage does not resolve.  There is no other answer, and none at all exactly if
the name is unknown, the index fails or is no whole number, or the variable is a vector that
is asked about as a whole or has no elements.  If nothing in the index has an effect, both
leave the context as it was.
-/
theorem nil_test_guards_reading
    (layers : Layers)
    (state : State)
    (reference : Reference Expr)
    (askSpan readSpan : Span)
    (active : state.suppressed = 0) :
    let asked := (Expr.call askSpan (.isNil reference)).eval layers state
    let read := (Expr.read readSpan reference).eval layers state
    (asked.1 = .ok (.bool true) →
      ∃ cause : Cause, cause.isNil ∧ cause.kind = .runtime ∧
        read.1 = .error ⟨cause, reference.span⟩) ∧
    (asked.1 = .ok (.bool false) →
      (∃ value, read.1 = .ok value) ∨
        read.1 = .error ⟨.unresolvedRatio, reference.span⟩) ∧
    (∀ value, asked.1 = .ok value → ∃ unset, value = .bool unset) ∧
    (∀ fault, asked.1 = .error fault ↔ reference.Unanswered layers state fault) ∧
    ((∀ effect, reference.has effect = false) → asked.2 = state ∧ read.2 = state) := by
  intro asked read
  refine ⟨?_, ?_, ?_, ?_, ?_⟩
  · intro yes
    rcases Reference.read_failsAtNil active yes readSpan with ⟨_, binding, same, span, fails⟩
    cases same
    rcases fails.nil rfl with ⟨cause, ofNil, failed⟩
    exact ⟨cause, ofNil, cause.kind_of_isNil ofNil, span ▸ failed⟩
  · intro no
    rcases Reference.read_failsAtNil active no readSpan with ⟨_, binding, same, span, fails⟩
    cases same
    rw [← span]
    exact fails.present rfl
  · intro value answered
    rcases Reference.read_failsAtNil active answered readSpan with ⟨unset, _, same, _⟩
    exact ⟨unset, same⟩
  · intro fault
    exact ⟨Reference.unanswered_of_isNil active, fun unanswered =>
      Reference.isNil_of_unanswered active unanswered askSpan⟩
  · intro effectless
    have only (effect : Effect) (has : reference.has effect = true) : False :=
      Bool.false_ne_true ((effectless effect).symm.trans has)
    have permits := State.permits_eq layers
    exact ⟨((Expr.call askSpan (.isNil reference)).eval_keeps permits only state).symm,
      ((Expr.read readSpan reference).eval_keeps permits only state).symm⟩

/-- Of two elements the second one is nil; beyond both it is the first one that counts. -/
theorem hole_of_two_elements_told :
    let layers : Layers := { process := .ofList [("holes", .floats [some 1.5, none])] }
    let holes (n : Int64) : Reference Expr :=
      ⟨"holes", ⟨0, 5⟩, some (.literal ⟨6, 7⟩ (.int n)), ⟨0, 8⟩⟩
    ({} : State).suppressed = 0 ∧
      (∃ cause : Cause, cause.isNil ∧ cause.kind = .runtime ∧
        ((Expr.read {} (holes 1)).eval layers {}).1 = .error ⟨cause, ⟨0, 8⟩⟩) ∧
      ((Expr.call {} (.isNil (holes 9))).eval layers {}).1 = .ok (.bool false) ∧
      ((Expr.read {} (holes 9)).eval layers {}).1 = .ok (.double 1.5) := by
  intro layers holes
  exact ⟨rfl, (nil_test_guards_reading layers {} (holes 1) {} {} rfl).1 rfl, rfl, rfl⟩

end GcodeTemplate
