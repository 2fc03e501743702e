import GcodeTemplate.Proofs.Elements
import GcodeTemplate.Proofs.Locality
import GcodeTemplate.Proofs.PlainVariables
import GcodeTemplate.Proofs.Suppression

/-!
# Assignments to an element

An assignment to a vector with an index puts one value into one place.  It is strict
where reading is lenient: an index beyond the end is refused, while the same index
reads the first element.  A negative index is taken for zero before either of them
looks at the vector, so it is never beyond the end of a vector with elements.

Equal elements by number are the exception.  They replace the vector as a whole, with
or without an index.
-/

namespace GcodeTemplate

open Evaluation Eval Rendering
open State (SameFrame)

variable {layers : Layers}

/-! ## Binding an element -/

/-- Expressions only have a whole number as their value where they are evaluated. -/
theorem Expr.not_isSkipping_of_int
    {expr : Expr}
    {state after : State}
    {n : Int64}
    (evaluated : expr.eval layers state = (.ok (.int n), after)) :
    state.isSkipping = false := by
  cases skipping : state.isSkipping with
  | false => rfl
  | true => nomatch (expr.eval_of_isSkipping skipping).symm.trans evaluated

/-- The layer that a name is found in is the same one after an expression was evaluated. -/
theorem State.SameFrame.lookUp_eq
    {before after : State}
    (same : SameFrame before after)
    (name : String) :
    lookUp layers after name = lookUp layers before name := by
  simp only [lookUp_eq_findSome?, same.settingIn_eq]

section Element

variable
  {state ready : State}
  {name : String}
  {nameSpan span : Span}
  {index : Expr}
  {setting : Setting}
  {scope : Scope}
  {n : Int64}
  (found : lookUp layers state name = some (setting, scope))
  (vector : setting.isVector)
  (indexed : index.eval layers state = (.ok (.int n), ready))

include indexed in
/-- Where an index was evaluated a number that is written there is evaluated too. -/
theorem eval_literal_of_index
    (literalSpan : Span)
    (m : Int64) :
    (Expr.literal literalSpan (.int m)).eval layers ready = (.ok (.int m), ready) := by
  have same : SameFrame state (index.eval layers state).2 := index.eval_keepsFrame state
  rw [indexed] at same
  have active := index.not_isSkipping_of_int indexed
  rw [State.isSkipping, ← same.suppressed] at active
  rw [Expr.eval.eq_def, Eval.unlessSkipping, State.isSkipping, active]
  rfl

include found indexed in
/-- What a vector stands for is the same once its index has been evaluated. -/
theorem lookUp_of_index : lookUp layers ready name = some (setting, scope) := by
  have same : SameFrame state (index.eval layers state).2 := index.eval_keepsFrame state
  rw [indexed] at same
  rw [same.lookUp_eq, found]

include found vector indexed

/-- A vector is bound to the place that its index says, or to the first for a negative index. -/
theorem Reference.bind_element :
    Reference.bind ⟨name, nameSpan, some index, span⟩ layers state =
      (.ok ⟨name, scope, some n.toInt.toNat, span⟩, ready) := by
  have resolved :
      resolve name nameSpan layers state = (.ok (scope, setting.isVector), state) := by
    simp [resolve, inspect, found]
  have placed :
      expecting (Sourced.place setting.isVector) index.span index.eval layers state =
        (.ok (some n.toInt.toNat), ready) := by
    rw [expecting, bind_of_ok indexed, vector]
    rfl
  rw [Reference.bind, bind_of_ok resolved]
  exact bind_of_ok placed

/-- Reading an element reads the place that its index says. -/
theorem Expr.eval_read_element (readSpan : Span) :
    (Expr.read readSpan ⟨name, nameSpan, some index, span⟩).eval layers state =
      (Binding.read ⟨name, scope, some n.toInt.toNat, span⟩ layers ready, ready) := by
  rw [Expr.eval.eq_def, Eval.unlessSkipping, index.not_isSkipping_of_int indexed]
  exact bind_of_ok (Reference.bind_element found vector indexed)

/-- An index that is not in the vector reads the first element. -/
theorem Expr.eval_read_outside
    (outside : setting.size ≤ n.toInt ∨ n.toInt < 0)
    (readSpan zeroSpan : Span) :
    (Expr.read readSpan ⟨name, nameSpan, some index, span⟩).eval layers state =
      (Expr.read readSpan
        ⟨name, nameSpan, some (.literal zeroSpan (.int 0)), span⟩).eval layers ready := by
  have foundReady := lookUp_of_index found indexed
  have there := settingIn_of_lookUp foundReady
  have first : (0 : Int64).toInt.toNat = 0 := rfl
  rw [eval_read_element found vector indexed,
    eval_read_element foundReady vector (eval_literal_of_index indexed zeroSpan 0), first]
  congr 1
  simp only [Binding.read, Binding.setting, there, bind, Except.bind]
  rcases outside with beyond | negative
  · exact Binding.readSetting_of_beyond vector (by omega) layers ready.extruder
  · have taken : n.toInt.toNat = 0 := by omega
    rw [taken]

/-- Assigning to an element goes on with the place that its index says. -/
theorem Piece.render_assign_element
    (output : String)
    (initializer : Initializer) :
    let assigned := initializer.assignTo ⟨name, scope, some n.toInt.toNat, span⟩ layers ready
    (Piece.assign ⟨name, nameSpan, some index, span⟩ initializer).render layers ⟨state, output⟩ =
      (assigned.1, ⟨assigned.2, output⟩) := by
  have active : state.suppressed = 0 := by
    simpa [State.isSkipping] using index.not_isSkipping_of_int indexed
  rw [Piece.render, unlessSkipping_quietly active,
    bind_of_ok (Reference.bind_element found vector indexed)]

/-- Assigning at a negative index goes on as assigning to the first element. -/
theorem Piece.render_assign_negative
    (negative : n.toInt < 0)
    (zeroSpan : Span)
    (output : String)
    (initializer : Initializer) :
    (Piece.assign ⟨name, nameSpan, some index, span⟩ initializer).render layers ⟨state, output⟩ =
      (Piece.assign ⟨name, nameSpan, some (.literal zeroSpan (.int 0)), span⟩ initializer).render
        layers ⟨ready, output⟩ := by
  have taken : n.toInt.toNat = (0 : Int64).toInt.toNat := by
    have zero : (0 : Int64).toInt.toNat = 0 := rfl
    omega
  rw [render_assign_element found vector indexed,
    render_assign_element (lookUp_of_index found indexed) vector
      (eval_literal_of_index indexed zeroSpan 0), taken]

end Element

/-- A target with an index is no whole vector. -/
theorem Binding.isWholeVector_of_index
    {binding : Binding}
    {place : Nat}
    (indexed : binding.index = some place)
    (layers : Layers)
    (state : State) :
    binding.isWholeVector layers state = .ok false := by
  rw [isWholeVector, indexed]

/-! ## What is written -/

/-- If a layer has a vector under a name, then it still does, and at most one element is new. -/
def State.WritesElement
    (layers : Layers)
    (scope : Scope)
    (name : String)
    (place : Nat)
    (before after : State) : Prop :=
  ∀ old, settingIn layers before scope name = some old → old.isVector →
    ∃ new, settingIn layers after scope name = some new ∧ old.SameButAt place new

namespace Binding

open State (WritesElement)

variable {binding : Binding} {place : Nat} {before after : State}

/-- An update that changes one place of a vector writes one element. -/
theorem writesElement_of_update
    {change : Setting → Except Fault Setting}
    (changes : ∀ old new, old.isVector → change old = .ok new → old.SameButAt place new)
    (updated : binding.update layers before change = .ok after) :
    WritesElement layers binding.scope binding.key place before after := by
  rcases settingIn_of_update updated with ⟨old, new, found, made, written, _⟩
  intro there same vector
  cases found.symm.trans same
  exact ⟨new, written, changes old new vector made⟩

section

variable (indexed : binding.index = some place)

include indexed

theorem sameButAt_changedByScalar
    {source : Sourced}
    {old new : Setting}
    (vector : old.isVector)
    (made : binding.changedByScalar source old = .ok new) :
    old.SameButAt place new := by
  rw [changedByScalar, if_pos vector, indexed] at made
  exact Setting.sameButAt_withElement made

theorem assignScalar_writesElement
    {source : Sourced}
    (assigned : binding.assignScalar source layers before = .ok after) :
    WritesElement layers binding.scope binding.key place before after :=
  writesElement_of_update (fun _ _ => sameButAt_changedByScalar indexed) assigned

/-- A list is assigned to an element if it has one item. -/
theorem assignList_writesElement
    {items : List Sourced}
    (assigned : binding.assignList items layers before = .ok after) :
    WritesElement layers binding.scope binding.key place before after := by
  refine writesElement_of_update (fun old new vector made => ?_) assigned
  simp only [indexed, Option.isSome_some, Bool.or_true, if_true] at made
  split at made
  · exact sameButAt_changedByScalar indexed vector made
  · nomatch made

end

end Binding

/-- A target with an index gets a value in its place, unless equal elements are assigned. -/
theorem Initializer.assignTo_writesElement
    {target : Binding}
    {place : Nat}
    (indexed : target.index = some place)
    {initializer : Initializer}
    (noCopies : ∀ span count value, initializer ≠ .fill span count value)
    (state : State) :
    Atomic (State.WritesElement layers target.scope target.key place) layers state
      (initializer.assignTo target) := by
  cases initializer with
  | list span items =>
      apply Atomic.bind (Sourced.ofExprs_keepsFrame items)
      intro sources _ _
      exact .ofChange fun _ => Binding.assignList_writesElement indexed
  | fill span count value =>
      exact absurd rfl (noCopies span count value)
  | reference referred =>
      apply Atomic.bind referred.bind_keepsFrame
      intro source _ _
      apply Atomic.bind (keeps_inspect target.isWholeVector)
      intro whole _ asked
      rw [inspect, Binding.isWholeVector_of_index indexed] at asked
      cases asked
      apply Atomic.bind (Sourced.ofBinding_keepsFrame source)
      intro value _ _
      exact .ofChange fun _ => Binding.assignScalar_writesElement indexed
  | expression expr =>
      apply Atomic.bind (Sourced.ofExpr_keepsFrame expr)
      intro source _ _
      exact .ofChange fun _ => Binding.assignScalar_writesElement indexed

/--
Assign to an element of a vector, and let the assignment succeed or fail.  The vector
keeps its kind and the number of its elements, and of its elements all but the one that
the index addresses.  The only assignments of which this does not hold are those of a
number of equal elements that are carried out.
-/
theorem indexed_assignment_touches_one_element
    (layers : Layers)
    (page : Page)
    (name : String)
    (nameSpan span : Span)
    (index : Expr)
    (initializer : Initializer)
    {setting : Setting}
    {scope : Scope}
    {n : Int64}
    {ready : State}
    (found : lookUp layers page.state name = some (setting, scope))
    (vector : setting.isVector)
    (indexed : index.eval layers page.state = (.ok (.int n), ready))
    (copiesFail : ∀ fillSpan count value, initializer = .fill fillSpan count value →
      ((Piece.assign ⟨name, nameSpan, some index, span⟩ initializer).render layers page).1 ≠
        .ok ()) :
    let target : Reference Expr := ⟨name, nameSpan, some index, span⟩
    let after := ((Piece.assign target initializer).render layers page).2.state
    ∃ new, settingIn layers after scope name = some new ∧
      setting.SameButAt n.toInt.toNat new := by
  intro target after
  have there : settingIn layers ready scope name = some setting :=
    settingIn_of_lookUp (lookUp_of_index found indexed)
  simp only [Piece.render_assign_element found vector indexed page.output] at copiesFail
  simp only [after, target, Piece.render_assign_element found vector indexed page.output]
  cases outcome : initializer.assignTo ⟨name, scope, some n.toInt.toNat, span⟩ layers ready with
  | mk result last =>
      rw [outcome] at copiesFail
      cases result with
      | error fault =>
          have unchanged := (initializer.assignTo_atomic _).failed outcome
          exact ⟨setting, by rw [unchanged.settingIn_eq, there], .same _ setting⟩
      | ok _ =>
          have noCopies (fillSpan : Span) (count value : Expr) :
              initializer ≠ .fill fillSpan count value :=
            fun copies => copiesFail fillSpan count value copies rfl
          rcases (Initializer.assignTo_writesElement rfl noCopies ready).succeeded outcome with
            ⟨between, unchanged, written⟩
          exact written setting (by rw [unchanged.settingIn_eq, there]) vector

/-- The second of two elements is replaced by what a reference to another vector reads. -/
theorem second_element_replaced_by_other_vector :
    let page : Page := ⟨{ locals := .ofList [("v", .ints [some 1, some 2])], extruder := 1 }, ""⟩
    let layers : Layers := { process := .ofList [("temps", .ints [some 200, some 210])] }
    let target : Reference Expr := ⟨"v", {}, some (.literal {} (.int 1)), {}⟩
    let source : Initializer := .reference ⟨"temps", {}, none, {}⟩
    let after := ((Piece.assign target source).render layers page).2.state
    lookUp layers page.state "v" = some (.ints [some 1, some 2], .localVariable) ∧
      settingIn layers after .localVariable "v" = some (.ints [some 1, some 210]) ∧
      ∃ new, settingIn layers after .localVariable "v" = some new ∧
        (Setting.ints [some 1, some 2]).SameButAt 1 new := by
  intro page layers target source after
  refine ⟨rfl, rfl, ?_⟩
  exact indexed_assignment_touches_one_element layers page "v" {} {} (.literal {} (.int 1))
    source rfl rfl rfl nofun

/-- With equal elements by number an assignment to one element replaces all three of them. -/
theorem copies_replace_whole_vector_at_index :
    let page : Page := ⟨{ locals := .ofList [("v", .ints [some 1, some 2, some 3])] }, ""⟩
    let index : Expr := .literal {} (.int 1)
    let copies : Initializer := .fill {} (.literal {} (.int 2)) (.literal {} (.int 9))
    let assigned := (Piece.assign ⟨"v", {}, some index, {}⟩ copies).render { process := ∅ } page
    lookUp { process := ∅ } page.state "v" =
        some (.ints [some 1, some 2, some 3], .localVariable) ∧
      index.eval { process := ∅ } page.state = (.ok (.int 1), page.state) ∧
      settingIn { process := ∅ } assigned.2.state .localVariable "v" =
        some (.ints [some 9, some 9]) ∧
      ¬ ∃ new, settingIn { process := ∅ } assigned.2.state .localVariable "v" = some new ∧
        (Setting.ints [some 1, some 2, some 3]).SameButAt 1 new := by
  intro page index copies assigned
  have left : settingIn { process := ∅ } assigned.2.state .localVariable "v" =
      some (.ints [some 9, some 9]) := rfl
  refine ⟨rfl, rfl, left, ?_⟩
  rintro ⟨new, there, same⟩
  cases left.symm.trans there
  nomatch same.size

/-! ## Places that are not there -/

/-- What an initializer evaluates to that stands for one value. -/
def Initializer.scalar? : Initializer → Option (Eval Sourced)
  | .expression expr => some (Sourced.ofExpr expr)
  | .reference referred => some (referred.bind >>= Sourced.ofBinding)
  | .list _ _ | .fill _ _ _ => none

theorem Initializer.scalar?_keepsFrame
    {initializer : Initializer}
    {evaluation : Eval Sourced}
    (scalar : initializer.scalar? = some evaluation) :
    evaluation.Keeps SameFrame layers := by
  cases initializer with
  | list | fill => nomatch scalar
  | expression expr =>
      cases scalar
      exact Sourced.ofExpr_keepsFrame expr
  | reference referred =>
      cases scalar
      exact referred.bind_keepsFrame.bind fun source => Sourced.ofBinding_keepsFrame source

/-- What stands for one value is assigned to an element as a scalar. -/
theorem Initializer.assignTo_of_scalar?
    {target : Binding}
    {place : Nat}
    (indexed : target.index = some place)
    {initializer : Initializer}
    {evaluation : Eval Sourced}
    (scalar : initializer.scalar? = some evaluation) :
    initializer.assignTo target =
      (do
        let source ← evaluation
        change (target.assignScalar source)) := by
  cases initializer with
  | list | fill => nomatch scalar
  | expression expr =>
      cases scalar
      rfl
  | reference referred =>
      cases scalar
      have asked : (inspect target.isWholeVector : Eval Bool) = pure false := by
        funext layers state
        rw [inspect, Binding.isWholeVector_of_index indexed]
        rfl
      rw [assignTo, bind_assoc]
      congr 1
      funext source
      rw [asked, pure_bind]
      rfl

/-- A value cannot be put into a place that a vector does not have. -/
theorem Binding.assignScalar_of_beyond
    (binding : Binding)
    {state : State}
    {setting : Setting}
    {place : Nat}
    (writable : binding.scope.isWritable)
    (there : settingIn layers state binding.scope binding.key = some setting)
    (vector : setting.isVector)
    (indexed : binding.index = some place)
    (beyond : setting.size ≤ place)
    (source : Sourced) :
    ∃ cause : Cause, cause.kind = .range ∧
      binding.assignScalar source layers state = .error ⟨cause, binding.span⟩ := by
  rcases Setting.withElement_of_beyond beyond binding.span source with ⟨cause, range, failed⟩
  refine ⟨cause, range, ?_⟩
  rw [assignScalar, update_of_settingIn writable there, changedByScalar, if_pos vector, indexed,
    failed]
  rfl

/--
Take an element of a vector that can be written, at an index that is not in the
vector, and a value to assign to it.  If the index is beyond the end, or if there are
no elements at all, then assigning to the element is out of range and changes nothing.
A negative index is taken for zero: once it is evaluated the assignment goes on as one
to the first element.  Reading goes on as reading the first element in either case.
-/
theorem vector_write_strict_beyond_end
    (layers : Layers)
    (page : Page)
    (name : String)
    (nameSpan span zeroSpan readSpan : Span)
    (index : Expr)
    (initializer : Initializer)
    {setting : Setting}
    {scope : Scope}
    {n : Int64}
    {ready done : State}
    {evaluation : Eval Sourced}
    {source : Sourced}
    (found : lookUp layers page.state name = some (setting, scope))
    (writable : scope.isWritable)
    (vector : setting.isVector)
    (indexed : index.eval layers page.state = (.ok (.int n), ready))
    (scalar : initializer.scalar? = some evaluation)
    (evaluated : evaluation layers ready = (.ok source, done)) :
    let target : Reference Expr := ⟨name, nameSpan, some index, span⟩
    let first : Reference Expr := ⟨name, nameSpan, some (.literal zeroSpan (.int 0)), span⟩
    (setting.size ≤ n.toInt ∨ setting.size = 0 →
      ∃ fault after,
        (Piece.assign target initializer).render layers page = (.error fault, after) ∧
          fault.cause.kind = .range ∧
          fault.span = span ∧
          SameFrame page.state after.state ∧
          settingIn layers after.state scope name = some setting ∧
          after.output = page.output) ∧
    (n.toInt < 0 →
      (Piece.assign target initializer).render layers page =
        (Piece.assign first initializer).render layers ⟨ready, page.output⟩) ∧
    (setting.size ≤ n.toInt ∨ n.toInt < 0 →
      (Expr.read readSpan target).eval layers page.state =
        (Expr.read readSpan first).eval layers ready) := by
  intro target first
  refine ⟨fun beyond => ?_, fun negative => ?_, fun outside => ?_⟩
  · have same : SameFrame page.state (index.eval layers page.state).2 :=
      index.eval_keepsFrame page.state
    have unchanged : SameFrame ready (evaluation layers ready).2 :=
      Initializer.scalar?_keepsFrame scalar ready
    rw [indexed] at same
    rw [evaluated] at unchanged
    have there : settingIn layers done scope name = some setting := by
      rw [unchanged.settingIn_eq, same.settingIn_eq, settingIn_of_lookUp found]
    rcases Binding.assignScalar_of_beyond ⟨name, scope, some n.toInt.toNat, span⟩
      writable there vector rfl (by omega) source with ⟨cause, range, failed⟩
    refine ⟨⟨cause, span⟩, ⟨done, page.output⟩, ?_, range, rfl,
      IsTrans.trans _ _ _ same unchanged, there, rfl⟩
    rw [Piece.render_assign_element found vector indexed page.output,
      Initializer.assignTo_of_scalar? rfl scalar, bind_of_ok evaluated, change, failed]
  · exact Piece.render_assign_negative found vector indexed negative zeroSpan page.output
      initializer
  · exact Expr.eval_read_outside found vector indexed outside readSpan zeroSpan

/-- A vector of two elements has no third one to write, and the first one to read for it. -/
theorem third_of_two_elements_out_of_range :
    let page : Page := ⟨{ locals := .ofList [("v", .ints [some 1, some 2])] }, ""⟩
    let target : Reference Expr := ⟨"v", {}, some (.literal {} (.int 2)), ⟨1, 5⟩⟩
    let seven : Initializer := .expression (.literal {} (.int 7))
    let outcome := (Piece.assign target seven).render { process := ∅ } page
    lookUp { process := ∅ } page.state "v" = some (.ints [some 1, some 2], .localVariable) ∧
      (∃ fault after, outcome = (.error fault, after) ∧ fault.cause.kind = .range ∧
        settingIn { process := ∅ } after.state .localVariable "v" =
          some (.ints [some 1, some 2])) ∧
      (Expr.read {} target).eval { process := ∅ } page.state = (.ok (.int 1), page.state) := by
  intro page target seven outcome
  let two : Expr := .literal {} (.int 2)
  have indexed : two.eval { process := ∅ } page.state = (.ok (.int 2), page.state) := rfl
  have evaluated :
      Sourced.ofExpr (.literal {} (.int 7)) { process := ∅ } page.state =
        (.ok ⟨.int 7, {}⟩, page.state) := rfl
  rcases vector_write_strict_beyond_end { process := ∅ } page "v" {} ⟨1, 5⟩ {} {} two seven
    rfl rfl rfl indexed rfl evaluated with ⟨write, _, read⟩
  rcases write (.inl (by decide)) with ⟨fault, after, failed, range, _, _, there, _⟩
  refine ⟨rfl, ⟨fault, after, failed, range, there⟩, ?_⟩
  exact (read (.inl (by decide))).trans rfl

/-- A negative index is written to as well: it is no index outside of a vector for a target. -/
theorem negative_index_writes_first_element :
    let page : Page := ⟨{ locals := .ofList [("v", .ints [some 1, some 2])] }, ""⟩
    let index : Expr := .unary {} .negate (.literal {} (.int 1))
    let nine : Initializer := .expression (.literal {} (.int 9))
    let outcome := (Piece.assign ⟨"v", {}, some index, {}⟩ nine).render { process := ∅ } page
    lookUp { process := ∅ } page.state "v" = some (.ints [some 1, some 2], .localVariable) ∧
      index.eval { process := ∅ } page.state = (.ok (.int (-1)), page.state) ∧
      outcome.1 = .ok () ∧
      settingIn { process := ∅ } outcome.2.state .localVariable "v" =
        some (.ints [some 9, some 2]) := by
  intro page index nine outcome
  exact ⟨rfl, rfl, rfl, rfl⟩

end GcodeTemplate
