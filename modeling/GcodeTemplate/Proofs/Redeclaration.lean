import GcodeTemplate.Proofs.AlikeContexts
import GcodeTemplate.Proofs.Locality
import GcodeTemplate.Proofs.Merging
import GcodeTemplate.Proofs.Suppression

/-!
# Declarations that are run again

The first run of a declaration makes a variable, and a further one in the same scope
assigns to it.  Making and assigning work differently: one finds out what kind of
variable there has to be, the other looks at the kind that there is.  They agree on
everything but the copy of a vector of percentages, which is made as a vector of floats
and cannot be assigned afterwards.
-/

namespace GcodeTemplate

open Evaluation Eval Rendering

/-! ## Writing again what was written -/

namespace State

/-- A setting that is written over itself changes nothing. -/
theorem store_of_settingIn
    {layers : Layers}
    {state : State}
    {scope : Scope}
    {key : String}
    {setting : Setting}
    (there : settingIn layers state scope key = some setting) :
    state.store scope key setting = state := by
  rcases state with ⟨outputs, shared, locals, extruder, suppressed⟩
  cases scope with
  | output =>
      rcases Option.bind_eq_some_iff.1 there with ⟨dictionary, rfl, found⟩
      simp only [store, Option.map_some, dictionary.insert_of_get? found]
  | globalVariable =>
      rcases Option.bind_eq_some_iff.1 there with ⟨dictionary, present, found⟩
      rcases Option.bind_eq_some_iff.1 present with ⟨⟨random, globals⟩, rfl, rfl⟩
      simp only [store, Option.map_some, dictionary.insert_of_get? found]
  | localVariable =>
      simp only [store, locals.insert_of_get? there]
  | override | process | external => rfl

/-- A write to the layer of a declaration does not stand in the way of another declaration. -/
theorem obstacle?_storeVariable
    (layers : Layers)
    (state : State)
    (isGlobal : Bool)
    (name : String)
    (setting : Setting) :
    (state.storeVariable isGlobal name setting).obstacle? layers isGlobal name =
      state.obstacle? layers isGlobal name := by
  cases isGlobal with
  | false =>
      rfl
  | true =>
      have globals : (state.storeVariable true name setting).globals? =
          state.globals?.map (·.insert name setting) :=
        globals?_store state .globalVariable name setting
      simp only [obstacle?, if_true, globals, Option.isNone_map]
      rfl

theorem settingIn_storeVariable
    {layers : Layers}
    {state : State}
    {isGlobal : Bool}
    {name : String}
    (allowed : state.obstacle? layers isGlobal name = none)
    (setting : Setting) :
    settingIn layers (state.storeVariable isGlobal name setting)
      (Scope.ofVariable isGlobal) name = some setting :=
  (settingIn_store (dictionary?_of_obstacle? allowed) name setting _ name).trans
    (if_pos ⟨rfl, rfl⟩)

end State

namespace Evaluation

variable {σ α β : Type} {layers : Layers}

/-- If the first of two evaluations changes nothing, the second one begins where it began. -/
theorem bind_eq_ok_of_keeps_eq
    {first : Evaluation σ α}
    {next : α → Evaluation σ β}
    {state after : σ}
    {b : β}
    (stays : first.Keeps Eq layers)
    (run : (first >>= next) layers state = (.ok b, after)) :
    ∃ a, first layers state = (.ok a, state) ∧ next a layers state = (.ok b, after) := by
  rcases bind_eq_ok run with ⟨a, between, found, run⟩
  obtain rfl : state = between := (stays state).trans (congrArg Prod.snd found)
  exact ⟨a, found, run⟩

end Evaluation

/-! ## Settings that are made again -/

namespace Setting

/-- The value of a new scalar is assigned to it without a change. -/
theorem withScalar_of_ofValue
    {source : Sourced}
    {setting : Setting}
    (made : ofValue source = .ok setting)
    (span : Span) :
    setting.isVector = false ∧ setting.withScalar span source = .ok setting := by
  rcases source with ⟨value, valueSpan⟩
  cases value with
  | empty => nomatch made
  | bool | int | double | string =>
      cases made
      exact ⟨rfl, rfl⟩

/-- What items are made into they are made into again, in place of whatever was there. -/
theorem withItems_of_withItems
    {vector setting : Setting}
    {span : Span}
    {items : List Sourced}
    (made : vector.withItems span items = .ok setting)
    (other : Span) :
    setting.isVector ∧ setting.withItems other items = .ok setting := by
  cases vector with
  | strings texts =>
      cases made
      exact ⟨rfl, rfl⟩
  | floats | percents | ints | bools =>
      rcases Fault.map_eq_ok_iff.1 made with ⟨elements, _, rfl⟩
      exact ⟨rfl, made⟩
  | _ => nomatch made

theorem withItems_of_ofItems
    {span : Span}
    {items : List Sourced}
    {setting : Setting}
    (made : ofItems span items = .ok setting)
    (other : Span) :
    setting.isVector ∧ setting.withItems other items = .ok setting := by
  unfold ofItems at made
  split at made
  · nomatch made
  · split at made
    · exact withItems_of_withItems made other
    · nomatch made

/-- Equal elements that a vector was made of are assigned to it without a change. -/
theorem withCopies_of_ofCopies
    {count : Count}
    {source : Sourced}
    {setting : Setting}
    (made : ofCopies count source = .ok setting)
    (span : Span) :
    setting.isVector ∧ setting.withCopies span count source = .ok setting := by
  rcases source with ⟨value, valueSpan⟩
  cases value with
  | empty => nomatch made
  | bool | int | double | string =>
      rcases Fault.map_eq_ok_iff.1 made with ⟨elements, copied, rfl⟩
      exact ⟨rfl, made⟩

/-- A new vector is a copy of the other one, unless that one had percentages in it. -/
theorem ofVector_eq_ok
    {span : Span}
    {vector setting : Setting}
    (made : ofVector span vector = .ok setting) :
    vector.hasNil = false ∧ vector.isVector ∧
      ((∀ values, vector ≠ .percents values) ∧ setting = vector ∨
        ∃ values, vector = .percents values ∧ setting = .floats values) := by
  unfold ofVector at made
  split at made
  next => nomatch made
  next present =>
    refine ⟨by simpa using present, ?_⟩
    cases vector with
    | floats | ints | strings | bools =>
        cases made
        exact ⟨rfl, .inl ⟨fun _ => nofun, rfl⟩⟩
    | percents values =>
        cases made
        exact ⟨rfl, .inr ⟨values, rfl, rfl⟩⟩
    | _ => nomatch made

end Setting

/-! ## Assigning what a variable was declared with -/

/-- Whether a variable is declared with the percentages of a whole vector. -/
def Initializer.CopiesPercents
    (layers : Layers)
    (state : State)
    (initializer : Initializer) : Prop :=
  ∃ referred source values, initializer = .reference referred ∧
    (referred.bind layers state).1 = .ok source ∧
    source.index = none ∧
    source.setting layers state = .ok (.percents values)

theorem Initializer.copiesPercents_iff
    {layers : Layers}
    {state : State}
    {referred : Reference Expr}
    {source : Binding}
    (bound : (referred.bind layers state).1 = .ok source) :
    (reference referred).CopiesPercents layers state ↔
      source.index = none ∧ ∃ values, source.setting layers state = .ok (.percents values) := by
  constructor
  · rintro ⟨_, other, values, same, sameBound, unindexed, copied⟩
    cases same
    obtain rfl : source = other := Except.ok.inj (bound.symm.trans sameBound)
    exact ⟨unindexed, values, copied⟩
  · rintro ⟨unindexed, values, copied⟩
    exact ⟨referred, source, values, rfl, bound, unindexed, copied⟩

/-- Nothing but a reference copies percentages. -/
theorem Initializer.not_copiesPercents
    {layers : Layers}
    {state : State}
    {initializer : Initializer}
    (other : ∀ referred, initializer ≠ reference referred) :
    ¬ initializer.CopiesPercents layers state := by
  rintro ⟨referred, _, _, same, _⟩
  exact other referred same

section Again

variable
  {layers : Layers}
  {state after : State}
  {target : Binding}
  {initializer : Initializer}
  {nameSpan : Span}
  {setting : Setting}
  (writable : target.scope.isWritable)
  (there : settingIn layers state target.scope target.key = some setting)

include writable there

/-- A list that a vector was made of is assigned to it without a change. -/
theorem Binding.assignList_again
    (whole : target.index = none)
    {items : List Sourced}
    (made : Setting.ofItems nameSpan items = .ok setting) :
    target.assignList items layers state =
      .ok (state.store target.scope target.key setting) := by
  rcases Setting.withItems_of_ofItems made target.span with ⟨vector, same⟩
  rw [assignList, update_of_settingIn writable there, if_neg (by simp [vector, whole]), same]
  rfl

theorem Binding.assignScalar_again
    {source : Sourced}
    (made : Setting.ofValue source = .ok setting) :
    setting.isVector = false ∧ target.assignScalar source layers state =
      .ok (state.store target.scope target.key setting) := by
  rcases Setting.withScalar_of_ofValue made target.span with ⟨scalar, same⟩
  refine ⟨scalar, ?_⟩
  rw [assignScalar, update_of_settingIn writable there, changedByScalar, if_neg (by simp [scalar]),
    same]
  rfl

theorem Binding.assignCopies_again
    {number value : Sourced}
    {count : Count}
    (counted : Count.ofValue number = .ok count)
    (made : Setting.ofCopies count value = .ok setting) :
    setting.isVector ∧ target.assignCopies number value layers state =
      .ok (state.store target.scope target.key setting) := by
  rcases Setting.withCopies_of_ofCopies made target.span with ⟨vector, same⟩
  refine ⟨vector, ?_⟩
  rw [assignCopies, update_of_settingIn writable there, if_pos vector, counted]
  exact congrArg (state.store target.scope target.key <$> ·) same

/-- A whole vector without nils is compared with the one that is there. -/
theorem Binding.assignVector_of_ofVector
    {source : Binding}
    {span : Span}
    {vector : Setting}
    (unindexed : source.index = none)
    (copied : source.setting layers state = .ok vector)
    (made : Setting.ofVector span vector = .ok setting) :
    setting.isVector ∧ target.assignVector source layers state =
      if setting.kind = vector.kind then
        .ok (state.store target.scope target.key vector)
      else
        .error ⟨.incompatibleVectors setting.kind.element, target.span⟩ := by
  rcases Setting.ofVector_eq_ok made with ⟨present, isVector, same⟩
  have vectorThere : setting.isVector := by
    rcases same with ⟨_, rfl⟩ | ⟨values, rfl, rfl⟩
    · exact isVector
    · rfl
  refine ⟨vectorThere, ?_⟩
  simp only [assignVector, copied, bind, Except.bind, unindexed, isVector, present,
    update_of_settingIn writable there, vectorThere, Option.isSome_none, Bool.not_true,
    Bool.or_self, Bool.false_eq_true, if_false, if_true]
  split <;> rfl

omit writable in
/-- What a declaration asks of a variable that is there already. -/
theorem Binding.asked_isVector :
    ((·.isVector) <$> Eval.setting target) layers state = (.ok setting.isVector, state) := by
  have found : Eval.setting target layers state = (.ok setting, state) := by
    simp [Eval.setting, inspect, Binding.setting, there]
  rw [map_eq_pure_bind, bind_of_ok found]
  rfl

end Again

/-- A binding that stands for a whole vector has no index. -/
theorem Binding.index_of_isWholeVector
    {layers : Layers}
    {state : State}
    {binding : Binding}
    (whole : binding.isWholeVector layers state = .ok true) :
    binding.index = none := by
  unfold isWholeVector at whole
  split at whole
  · nomatch whole
  · assumption

theorem Eval.change_of_ok
    {layers : Layers}
    {state changed : State}
    {step : Layers → State → Except Fault State}
    (taken : step layers state = .ok changed) :
    change step layers state = (.ok (), changed) := by
  rw [change, taken]

namespace Initializer

section Redeclare

variable
  {layers : Layers}
  {state after : State}
  (target : Binding)
  {nameSpan : Span}
  {setting : Setting}
  (writable : target.scope.isWritable)
  (there : settingIn layers state target.scope target.key = some setting)

include writable there

theorem redeclare_list_again
    (whole : target.index = none)
    {span : Span}
    {items : List Expr}
    (effectless : ∀ effect, (list span items).has effect = true → False)
    (made : (list span items).newSetting nameSpan layers state = (.ok setting, after)) :
    (list span items).redeclare target layers state =
      (.ok (), state.store target.scope target.key setting) := by
  rcases bind_eq_ok_of_keeps_eq
    (Sourced.ofExprs_keeps (State.permits_eq layers) items effectless) made with
    ⟨sources, listed, made⟩
  have assigned := Binding.assignList_again writable there whole (congrArg Prod.fst made)
  rw [redeclare, bind_of_ok (Binding.asked_isVector there)]
  exact (bind_of_ok listed).trans (change_of_ok assigned)

theorem redeclare_fill_again
    {span : Span}
    {count value : Expr}
    (effectless : ∀ effect, (fill span count value).has effect = true → False)
    (made : (fill span count value).newSetting nameSpan layers state = (.ok setting, after)) :
    (fill span count value).redeclare target layers state =
      (.ok (), state.store target.scope target.key setting) := by
  have permits := State.permits_eq layers
  simp only [Initializer.has, Bool.or_eq_true, or_imp, forall_and] at effectless
  rcases bind_eq_ok_of_keeps_eq (Sourced.ofExpr_keeps permits count effectless.1) made with
    ⟨number, numbered, made⟩
  rcases bind_eq_ok_of_keeps_eq (Sourced.ofExpr_keeps permits value effectless.2) made with
    ⟨source, valued, made⟩
  rcases bind_eq_ok made with ⟨copies, _, counted, made⟩
  rcases Binding.assignCopies_again writable there (congrArg Prod.fst counted)
    (congrArg Prod.fst made) with ⟨vector, assigned⟩
  rw [redeclare, bind_of_ok (Binding.asked_isVector there), vector]
  exact (bind_of_ok numbered).trans ((bind_of_ok valued).trans (change_of_ok assigned))

theorem redeclare_expression_again
    {expr : Expr}
    (effectless : ∀ effect, (expression expr).has effect = true → False)
    (made : (expression expr).newSetting nameSpan layers state = (.ok setting, after)) :
    (expression expr).redeclare target layers state =
      (.ok (), state.store target.scope target.key setting) := by
  rcases bind_eq_ok_of_keeps_eq
    (Sourced.ofExpr_keeps (State.permits_eq layers) expr effectless) made with
    ⟨source, valued, made⟩
  rcases Binding.assignScalar_again writable there (congrArg Prod.fst made) with
    ⟨scalar, assigned⟩
  rw [redeclare, bind_of_ok (Binding.asked_isVector there), scalar]
  exact (bind_of_ok valued).trans (change_of_ok assigned)

omit writable in
/-- What is done with a reference depends on whether the variable is a vector. -/
theorem redeclare_reference
    (whole : target.index = none)
    {referred : Reference Expr}
    {source : Binding}
    (bound : referred.bind layers state = (.ok source, state)) :
    (reference referred).redeclare target layers state =
      (if setting.isVector then
        change (target.assignVector source)
      else do
        let value ← Sourced.ofBinding source
        change (target.assignScalar value)) layers state := by
  rw [redeclare, bind_of_ok (Binding.asked_isVector there)]
  refine (bind_of_ok bound).trans (bind_of_ok ?_)
  simp [inspect, Binding.isWholeVector, whole, Binding.setting, there, Functor.map, Except.map]

/--
A variable that has the setting which it would be declared with from another one is
assigned that setting again, unless percentages are copied.
-/
theorem redeclare_reference_again
    (whole : target.index = none)
    {referred : Reference Expr}
    (effectless : ∀ effect, (reference referred).has effect = true → False)
    (made : (reference referred).newSetting nameSpan layers state = (.ok setting, after)) :
    (¬ (reference referred).CopiesPercents layers state →
      (reference referred).redeclare target layers state =
        (.ok (), state.store target.scope target.key setting)) ∧
    ((reference referred).CopiesPercents layers state →
      (reference referred).redeclare target layers state =
        (.error ⟨.incompatibleVectors .float, target.span⟩, state)) := by
  rcases bind_eq_ok_of_keeps_eq (referred.bind_keeps (State.permits_eq layers) effectless)
    made with ⟨source, bound, made⟩
  rcases bind_eq_ok_of_keeps_eq (keeps_inspect source.isWholeVector) made with
    ⟨answer, answered, made⟩
  have answered := congrArg Prod.fst answered
  rw [redeclare_reference target there whole bound, copiesPercents_iff (congrArg Prod.fst bound)]
  cases answer with
  | false =>
      rcases bind_eq_ok_of_keeps_eq (Sourced.ofBinding_keeps source) made with
        ⟨value, valued, made⟩
      rcases Binding.assignScalar_again writable there (congrArg Prod.fst made) with
        ⟨scalar, assigned⟩
      rw [scalar]
      refine ⟨fun _ => (bind_of_ok valued).trans (change_of_ok assigned), ?_⟩
      rintro ⟨unindexed, values, copied⟩
      change source.isWholeVector layers state = .ok false at answered
      rw [Binding.isWholeVector, unindexed, copied] at answered
      cases answered
  | true =>
      rcases bind_eq_ok made with ⟨vector, _, copied, made⟩
      have copied := congrArg Prod.fst copied
      have made := congrArg Prod.fst made
      have unindexed := Binding.index_of_isWholeVector answered
      rcases Binding.assignVector_of_ofVector writable there unindexed copied made with
        ⟨vectorThere, assigned⟩
      rw [if_pos vectorThere]
      rcases Setting.ofVector_eq_ok made with ⟨_, _, ⟨other, rfl⟩ | ⟨values, rfl, rfl⟩⟩
      · refine ⟨fun _ => change_of_ok (assigned.trans (if_pos rfl)), ?_⟩
        rintro ⟨_, values, percents⟩
        exact absurd (Except.ok.inj (copied.symm.trans percents)) (other values)
      · refine ⟨fun others => absurd ⟨unindexed, values, copied⟩ others, fun _ => ?_⟩
        rw [change, assigned, if_neg (by simp [Setting.kind])]
        rfl

/--
A variable that has the setting which it would be declared with is assigned that
setting again, unless percentages are copied: what these make is a vector of floats,
and to such a vector they cannot be copied.
-/
theorem redeclare_of_newSetting
    (whole : target.index = none)
    {initializer : Initializer}
    (effectless : ∀ effect, initializer.has effect = true → False)
    (made : initializer.newSetting nameSpan layers state = (.ok setting, after)) :
    (¬ initializer.CopiesPercents layers state →
      initializer.redeclare target layers state =
        (.ok (), state.store target.scope target.key setting)) ∧
    (initializer.CopiesPercents layers state →
      initializer.redeclare target layers state =
        (.error ⟨.incompatibleVectors .float, target.span⟩, state)) := by
  cases initializer with
  | list span items =>
      exact ⟨fun _ => redeclare_list_again target writable there whole effectless made,
        fun copies => absurd copies (not_copiesPercents nofun)⟩
  | fill span count value =>
      exact ⟨fun _ => redeclare_fill_again target writable there effectless made,
        fun copies => absurd copies (not_copiesPercents nofun)⟩
  | expression expr =>
      exact ⟨fun _ => redeclare_expression_again target writable there effectless made,
        fun copies => absurd copies (not_copiesPercents nofun)⟩
  | reference referred =>
      exact redeclare_reference_again target writable there whole effectless made

end Redeclare

section Alike

variable
  {layers : Layers}
  {state there after : State}
  {initializer : Initializer}
  (alike : State.AlikeOn {name | name ∈ initializer.names} layers state there)

include alike

/-- The setting of a new variable is made again where the names in it stand for the same. -/
theorem newSetting_of_alike
    {nameSpan : Span}
    {setting : Setting}
    (effectless : ∀ effect, initializer.has effect = true → False)
    (made : initializer.newSetting nameSpan layers state = (.ok setting, after)) :
    initializer.newSetting nameSpan layers there = (.ok setting, there) := by
  have stays := initializer.newSetting_keeps (State.permits_eq layers) nameSpan effectless there
  have runsAlike := initializer.newSetting_runsAlike (State.AlikeOn.couples _ layers) nameSpan
    (fun _ mentioned => mentioned) state there alike
  rw [made] at runsAlike
  exact Prod.ext runsAlike.1 stays.symm

/-- Whether percentages are copied depends on the same names. -/
theorem copiesPercents_of_alike :
    initializer.CopiesPercents layers there ↔ initializer.CopiesPercents layers state := by
  have couples := State.AlikeOn.couples {name | name ∈ initializer.names} layers
  refine exists_congr fun referred => exists_congr fun source => exists_congr fun values =>
    and_congr_right ?_
  rintro rfl
  rw [(referred.bind_runsAlike couples (fun _ mentioned => mentioned) state there alike).1]
  refine and_congr_right fun bound => ?_
  have named : source.key = referred.name := (Reference.bind_eq_ok (Prod.ext bound rfl)).1
  have mentioned : source.key ∈ referred.names := named ▸ referred.name_mem_names
  rw [couples.setting_eq mentioned alike]

end Alike

end Initializer

namespace Declaration

/-- The variable that a declaration makes. -/
def target (declaration : Declaration) : Binding :=
  ⟨declaration.name, Scope.ofVariable declaration.isGlobal, none, declaration.nameSpan⟩

theorem target_isWritable (declaration : Declaration) :
    declaration.target.scope.isWritable := by
  rcases declaration with ⟨_ | _, name, nameSpan, initializer⟩ <;> rfl

variable
  {layers : Layers}
  {state after : State}
  {declaration : Declaration}

/-- The first run of a declaration makes a setting and stores it. -/
theorem run_of_fresh
    (fresh : settingIn layers state declaration.target.scope declaration.name = none)
    (declared : declaration.run layers state = (.ok (), after)) :
    state.obstacle? layers declaration.isGlobal declaration.name = none ∧
      ∃ setting ready,
        declaration.initializer.newSetting declaration.nameSpan layers state =
          (.ok setting, ready) ∧
        after = ready.storeVariable declaration.isGlobal declaration.name setting := by
  rcases declaration with ⟨isGlobal, name, nameSpan, initializer⟩
  dsimp only [target] at fresh
  rcases bind_eq_ok_of_keeps_eq (keeps_inspect _) declared with ⟨existing, asked, declared⟩
  have asked : State.declared? isGlobal name nameSpan layers state = .ok existing :=
    congrArg Prod.fst asked
  have allowed := (State.declared?_eq_ok asked).1
  obtain rfl : none = existing := by
    simpa [State.declared?, allowed, fresh] using asked
  rcases bind_eq_ok declared with ⟨setting, ready, made, stored⟩
  exact ⟨allowed, setting, ready, made, (congrArg Prod.snd stored).symm⟩

/-- All that a declaration leaves is a setting under its name, if nothing in it has an effect. -/
theorem exists_storeVariable
    (fresh : settingIn layers state declaration.target.scope declaration.name = none)
    (effectless : ∀ effect, declaration.initializer.has effect = true → False)
    (declared : declaration.run layers state = (.ok (), after)) :
    state.obstacle? layers declaration.isGlobal declaration.name = none ∧
      ∃ setting,
        declaration.initializer.newSetting declaration.nameSpan layers state =
          (.ok setting, state) ∧
        after = state.storeVariable declaration.isGlobal declaration.name setting := by
  rcases run_of_fresh fresh declared with ⟨allowed, setting, ready, made, stored⟩
  obtain rfl : state = ready :=
    (declaration.initializer.newSetting_keeps (State.permits_eq layers) declaration.nameSpan
      effectless state).trans (congrArg Prod.snd made)
  exact ⟨allowed, setting, made, stored⟩

/-- A declaration of a variable that is there assigns to it. -/
theorem run_of_present
    {setting : Setting}
    (allowed : state.obstacle? layers declaration.isGlobal declaration.name = none)
    (present :
      settingIn layers state declaration.target.scope declaration.name = some setting) :
    declaration.run layers state =
      declaration.initializer.redeclare declaration.target layers state := by
  have present :
      (settingIn layers state (Scope.ofVariable declaration.isGlobal)
        declaration.name).isSome = true :=
    Option.isSome_of_eq_some present
  have found :
      inspect (State.declared? declaration.isGlobal declaration.name declaration.nameSpan)
        layers state = (.ok (some declaration.target), state) := by
    simp only [inspect, State.declared?, allowed, present, if_true]
    rfl
  exact bind_of_ok found

/--
A variable that was made is there with its setting in every context that has the same
under its name and the names it was made from: the declaration stores that setting again
there, which changes nothing, or it fails and stores nothing.
-/
theorem run_again
    {there : State}
    (fresh : settingIn layers state declaration.target.scope declaration.name = none)
    (unmentioned : declaration.name ∉ declaration.initializer.names)
    (effectless : ∀ effect, declaration.initializer.has effect = true → False)
    (declared : declaration.run layers state = (.ok (), after))
    (alike : State.AlikeOn {name | name ∈ declaration.name :: declaration.initializer.names}
      layers after there)
    (globals : there.globals?.isNone = after.globals?.isNone) :
    (¬ declaration.initializer.CopiesPercents layers state →
      declaration.run layers there = (.ok (), there)) ∧
    (declaration.initializer.CopiesPercents layers state →
      declaration.run layers there =
        (.error ⟨.incompatibleVectors .float, declaration.nameSpan⟩, there)) := by
  rcases exists_storeVariable fresh effectless declared with ⟨allowed, setting, made, rfl⟩
  have allowedThere : there.obstacle? layers declaration.isGlobal declaration.name = none := by
    rw [State.obstacle?_of_settingIn
      (fun scope => alike.settings scope _ List.mem_cons_self) globals,
      State.obstacle?_storeVariable, allowed]
  have present : settingIn layers there declaration.target.scope declaration.name =
      some setting :=
    (alike.settings _ _ List.mem_cons_self).trans (State.settingIn_storeVariable allowed setting)
  have alikeSources :
      State.AlikeOn {name | name ∈ declaration.initializer.names} layers state there :=
    (State.AlikeOn.ofStore unmentioned layers state _ setting).trans
      (alike.mono fun _ => List.mem_cons_of_mem _)
  have again := Initializer.newSetting_of_alike alikeSources effectless made
  rcases Initializer.redeclare_of_newSetting declaration.target declaration.target_isWritable
    present rfl effectless again with ⟨same, refused⟩
  rw [Initializer.copiesPercents_of_alike alikeSources,
    show there.store declaration.target.scope declaration.target.key setting = there from
      State.store_of_settingIn present] at same
  rw [Initializer.copiesPercents_of_alike alikeSources] at refused
  rw [run_of_present allowedThere present]
  exact ⟨same, refused⟩

end Declaration

/-- Outside of blocks that are not taken a declaration is run and puts nothing out. -/
theorem Piece.render_declare
    {state : State}
    (active : state.suppressed = 0)
    (layers : Layers)
    (declaration : Declaration)
    (output : String) :
    (declare declaration).render layers ⟨state, output⟩ =
      ((declaration.run layers state).1, ⟨(declaration.run layers state).2, output⟩) := by
  rw [Piece.render]
  exact unlessSkipping_quietly active

end GcodeTemplate
