import GcodeTemplate.Proofs.Mentions
import GcodeTemplate.Proofs.Resolution

/-!
# Two runs in contexts that agree

The same evaluation goes on in two contexts whose layers have the same settings under
some names and may differ in everything else.  As long as it only asks for these names
and only writes to them, nothing tells the two contexts apart: the results are the
same, the contexts that are left agree again, and neither has changed elsewhere.
-/

namespace GcodeTemplate

/-- Two contexts that have the same under certain names, and the same extruder and generator. -/
structure AgreeOn
    (names : Set String)
    (layers other : Layers)
    (state there : State) : Prop where
  settings (scope : Scope) (name : String) :
    name ∈ names → settingIn other there scope name = settingIn layers state scope name
  /-- The same of the layers that can be written are there at all. -/
  present (scope : Scope) :
    (there.dictionary? scope).isSome = (state.dictionary? scope).isSome
  extruder : there.extruder = state.extruder
  random : there.random? = state.random?
  suppressed : there.suppressed = state.suppressed

/-- No layer has changed anything but under certain names. -/
def State.Untouched
    (names : Set String)
    (layers : Layers)
    (before after : State) : Prop :=
  ∀ scope name, name ∉ names →
    settingIn layers after scope name = settingIn layers before scope name

/-- Two runs that know the same parents of keys, begun on a page each. -/
structure Twins where
  names : Set String
  parents : List (String × String)
  layers : Layers
  other : Layers
  begun : Page
  begunThere : Page
  definitions : layers.definitions = .ofParents parents
  definitionsThere : other.definitions = .ofParents parents
  closed (key above : String) :
    key ∈ names → parents.lookup key = some above → above ∈ names

namespace Twins

variable (twins : Twins)

/-- States that the two runs can be in at the same time. -/
structure Coupled (state there : State) : Prop where
  agree : AgreeOn twins.names twins.layers twins.other state there
  untouched : State.Untouched twins.names twins.layers twins.begun.state state
  untouchedThere : State.Untouched twins.names twins.other twins.begunThere.state there

/-- Pages that the two runs can be on at the same time, with the same text since they began. -/
structure CoupledPages (page there : Page) : Prop where
  state : twins.Coupled page.state there.state
  output : ∃ text, page.output = twins.begun.output ++ text ∧
    there.output = twins.begunThere.output ++ text

/--
From related states the two runs of an evaluation come to the same result, and leave
states that are related again.
-/
def Respects
    {σ α : Type}
    (relation : σ → σ → Prop)
    (evaluation : Evaluation σ α) : Prop :=
  ∀ state there, relation state there →
    (evaluation twins.other there).1 = (evaluation twins.layers state).1 ∧
      relation (evaluation twins.layers state).2 (evaluation twins.other there).2

end Twins

namespace State

variable {layers : Layers} {state after : State}

/-- What the layers have is in the dictionaries. -/
theorem settingIn_of_dictionary?
    (same : ∀ scope, after.dictionary? scope = state.dictionary? scope)
    (scope : Scope)
    (name : String) :
    settingIn layers after scope name = settingIn layers state scope name := by
  by_cases writable : scope.isWritable
  · rw [settingIn_eq_dictionary? writable, settingIn_eq_dictionary? writable, same]
  · exact settingIn_of_not_isWritable writable layers after state name

@[simp]
theorem dictionary?_withRandom
    (state : State)
    (random : RandomSource)
    (scope : Scope) :
    (state.withRandom random).dictionary? scope = state.dictionary? scope := by
  cases scope with
  | globalVariable => exact (SameFrame.ofRandom state random).globals?_eq
  | _ => rfl

@[simp]
theorem dictionary?_enter
    (state : State)
    (active : Bool)
    (scope : Scope) :
    (state.enter active).dictionary? scope = state.dictionary? scope := by
  rw [enter_eq]
  cases scope <;> rfl

@[simp]
theorem dictionary?_leave
    (state before : State)
    (active : Bool)
    (scope : Scope) :
    (state.leave before active).dictionary? scope = state.dictionary? scope := by
  rw [leave_eq]
  cases scope <;> rfl

/-- There is a generator afterwards if there was one. -/
theorem random?_withRandom
    {source : RandomSource}
    (present : state.random? = some source)
    (random : RandomSource) :
    (state.withRandom random).random? = some random := by
  cases shared : state.shared with
  | none => simp [random?, shared] at present
  | some shared => simp [random?, withRandom, *]

@[simp]
theorem extruder_store
    (state : State)
    (scope : Scope)
    (key : String)
    (setting : Setting) :
    (state.store scope key setting).extruder = state.extruder := by
  cases scope <;> rfl

@[simp]
theorem random?_store
    (state : State)
    (scope : Scope)
    (key : String)
    (setting : Setting) :
    (state.store scope key setting).random? = state.random? := by
  cases scope with
  | globalVariable => cases shared : state.shared <;> simp [store, random?, shared]
  | _ => rfl

end State

/-! ## What looking a name up depends on -/

section Looks

variable
  {layers other : Layers}
  {state there : State}
  {name : String}
  (settings : ∀ scope, settingIn other there scope name = settingIn layers state scope name)

include settings

theorem Layers.find?_of_settingIn : other.find? name = layers.find? name := by
  have overridden := settings .override
  have processed := settings .process
  have external := settings .external
  simp only [settingIn] at overridden processed external
  simp only [find?, overridden, processed, external]

/-- Whether a name may be declared also depends on whether there are global variables at all. -/
theorem State.obstacle?_of_settingIn
    (globals : there.globals?.isNone = state.globals?.isNone)
    (isGlobal : Bool) :
    there.obstacle? other isGlobal name = state.obstacle? layers isGlobal name := by
  have contained (dictionary : Option Dictionary) :
      dictionary.any (·.contains name) = (dictionary.bind (·.get? name)).isSome := by
    cases dictionary <;> rfl
  have outputs := settings .output
  have shared := settings .globalVariable
  have locals : there.locals.contains name = state.locals.contains name :=
    congrArg Option.isSome (settings .localVariable)
  simp only [settingIn] at outputs shared
  simp only [obstacle?, Layers.find?_of_settingIn settings, contained, outputs, shared, locals,
    globals]

end Looks

namespace AgreeOn

variable
  {names : Set String}
  {layers other : Layers}
  {state there : State}
  (agree : AgreeOn names layers other state there)

include agree

/-- States with the same dictionaries as these agree too, if they do in all else. -/
theorem ofDictionaries
    {after thereAfter : State}
    (same : ∀ scope, after.dictionary? scope = state.dictionary? scope)
    (sameThere : ∀ scope, thereAfter.dictionary? scope = there.dictionary? scope)
    (extruder : thereAfter.extruder = after.extruder)
    (random : thereAfter.random? = after.random?)
    (suppressed : thereAfter.suppressed = after.suppressed) :
    AgreeOn names layers other after thereAfter where
  settings scope name mentioned := by
    rw [State.settingIn_of_dictionary? same, State.settingIn_of_dictionary? sameThere]
    exact agree.settings scope name mentioned
  present scope := by
    rw [same, sameThere]
    exact agree.present scope
  extruder := extruder
  random := random
  suppressed := suppressed

/-- A write of the same setting to the same place keeps an agreement. -/
theorem store
    (scope : Scope)
    (key : String)
    (setting : Setting) :
    AgreeOn names layers other (state.store scope key setting) (there.store scope key setting) where
  settings target name mentioned := by
    have same := agree.settings target name mentioned
    cases present : (state.dictionary? scope).isSome with
    | true =>
        rw [State.settingIn_store present, State.settingIn_store (agree.present scope ▸ present),
          same]
    | false =>
        rw [State.settingIn_store_of_isNone present,
          State.settingIn_store_of_isNone (agree.present scope ▸ present), same]
  present target := by
    have present := agree.present target
    rw [State.dictionary?_store, State.dictionary?_store]
    split <;> simpa using present
  extruder := by simpa using agree.extruder
  random := by simpa using agree.random
  suppressed := by simpa using agree.suppressed

theorem isSkipping_eq : there.isSkipping = state.isSkipping := by
  rw [State.isSkipping, State.isSkipping, agree.suppressed]

theorem suppresses_eq (active : Bool) : there.suppresses active = state.suppresses active := by
  rw [State.suppresses, State.suppresses, agree.isSkipping_eq]

section Looks

variable {name : String} (mentioned : name ∈ names)

include mentioned

theorem find?_eq : other.find? name = layers.find? name :=
  Layers.find?_of_settingIn fun scope => agree.settings scope name mentioned

theorem get?_eq : other.get? name = layers.get? name := by
  rw [Layers.get?, Layers.get?, agree.find?_eq mentioned]

/-- A name that is mentioned may be declared in both contexts or in none. -/
theorem obstacle?_eq (isGlobal : Bool) :
    there.obstacle? other isGlobal name = state.obstacle? layers isGlobal name := by
  have globals : there.globals?.isSome = state.globals?.isSome := agree.present .globalVariable
  apply State.obstacle?_of_settingIn fun scope => agree.settings scope name mentioned
  rw [← Option.not_isSome, ← Option.not_isSome, globals]

theorem declared?_eq
    (isGlobal : Bool)
    (span : Span) :
    State.declared? isGlobal name span other there =
      State.declared? isGlobal name span layers state := by
  simp only [State.declared?, agree.obstacle?_eq mentioned, agree.settings _ name mentioned]

end Looks

end AgreeOn

/-! ## What bindings look at -/

section Bindings

variable
  {names : Set String}
  {layers other : Layers}
  {state there : State}
  {binding : Binding}
  (agree : AgreeOn names layers other state there)
  (mentioned : binding.key ∈ names)

include agree mentioned

theorem Binding.setting_eq : binding.setting other there = binding.setting layers state := by
  rw [Binding.setting, Binding.setting, agree.settings _ _ mentioned]

theorem Binding.target_eq : binding.target other there = binding.target layers state := by
  rw [Binding.target, Binding.target, binding.setting_eq agree mentioned]

theorem Binding.isWholeVector_eq :
    binding.isWholeVector other there = binding.isWholeVector layers state := by
  rw [Binding.isWholeVector, Binding.isWholeVector, binding.setting_eq agree mentioned]

end Bindings

theorem Layers.width?_of_parents
    {layers : Layers}
    {parents : List (String × String)}
    (definitions : layers.definitions = .ofParents parents)
    (extruder : Nat)
    (key : String) :
    layers.width? extruder key = none := by
  rw [Layers.width?, definitions]
  rfl

theorem Layers.ratioOver_of_parents
    {layers : Layers}
    {parents : List (String × String)}
    (definitions : layers.definitions = .ofParents parents)
    (key : String) :
    layers.definitions.ratioOver key = parents.lookup key := by
  rw [definitions]
  rfl

namespace Twins

variable {twins : Twins} {state there : State}

theorem followRatio_eq
    (agree : AgreeOn twins.names twins.layers twins.other state there)
    (extruder steps : Nat)
    {key : String}
    (mentioned : key ∈ twins.names)
    (ratio : Float) :
    twins.other.followRatio extruder steps key ratio =
      twins.layers.followRatio extruder steps key ratio := by
  induction steps generalizing key ratio with
  | zero =>
      rfl
  | succ steps ih =>
      rw [Layers.followRatio, Layers.followRatio]
      simp only [Layers.ratioOver_of_parents twins.definitions,
        Layers.ratioOver_of_parents twins.definitionsThere,
        Layers.width?_of_parents twins.definitions,
        Layers.width?_of_parents twins.definitionsThere]
      cases found : twins.parents.lookup key with
      | none =>
          rfl
      | some above =>
          -- the names are closed under parents, so the chain goes on inside of them
          have aboveMentioned := twins.closed key above mentioned found
          simp only [Option.bind_eq_bind, Option.bind_some, agree.get?_eq aboveMentioned,
            ih aboveMentioned]

theorem resolve?_eq
    (agree : AgreeOn twins.names twins.layers twins.other state there)
    (extruder : Nat)
    {key : String}
    (mentioned : key ∈ twins.names)
    (amount : Amount) :
    twins.other.resolve? extruder key amount = twins.layers.resolve? extruder key amount := by
  simp only [Layers.resolve?, Layers.width?_of_parents twins.definitions,
    Layers.width?_of_parents twins.definitionsThere, followRatio_eq agree _ _ mentioned]

/-- A variable that is mentioned has the same value in both contexts. -/
theorem read_eq
    (agree : AgreeOn twins.names twins.layers twins.other state there)
    {binding : Binding}
    (mentioned : binding.key ∈ twins.names) :
    binding.read twins.other there = binding.read twins.layers state := by
  have amountValue (extruder : Nat) (amount : Amount) :
      binding.amountValue twins.other extruder amount =
        binding.amountValue twins.layers extruder amount := by
    rw [Binding.amountValue, Binding.amountValue, resolve?_eq agree extruder mentioned]
  have readSetting (extruder : Nat) (setting : Setting) :
      binding.readSetting twins.other extruder setting =
        binding.readSetting twins.layers extruder setting := by
    cases setting <;>
      simp only [Binding.readSetting, Binding.readScalar, amountValue]
  simp only [Binding.read, Binding.setting_eq agree mentioned, agree.extruder, readSetting]

end Twins

/-! ## What brackets look at -/

namespace Bracket

theorem name_mem_names (bracket : Bracket) : bracket.name ∈ bracket.names :=
  List.mem_cons_self

theorem stem_mem_names
    {bracket : Bracket}
    {front suffix : List Char}
    (split : splitName? bracket.name = some (front, suffix)) :
    .ofList front ∈ bracket.names := by
  simp [names, stem?, split]

theorem index_mem_names
    {bracket : Bracket}
    {index : String × Span}
    (indexed : bracket.index = some index) :
    index.1 ∈ bracket.names := by
  simp [names, indexed]

/-- A name with an underscore behind it is split there. -/
theorem splitName?_of_trailing
    {name : String}
    {front : List Char}
    (trailing : name.toList.reverse = '_' :: front) :
    splitName? name = some (front.reverse, []) := by
  simp [splitName?, trailing]

variable
  {names : Set String}
  {layers other : Layers}
  {state there : State}
  {bracket : Bracket}
  (agree : AgreeOn names layers other state there)
  (mentioned : ∀ name ∈ bracket.names, name ∈ names)

include agree mentioned

theorem suffixedText_eq (span : Span) :
    suffixedText bracket.name span other = suffixedText bracket.name span layers := by
  unfold suffixedText
  cases split : splitName? bracket.name with
  | none =>
      rfl
  | some parts =>
      simp only [agree.get?_eq (mentioned _ (stem_mem_names split))]

theorem plainText_eq (span : Span) :
    plainText bracket.name span other there.extruder =
      plainText bracket.name span layers state.extruder := by
  rw [plainText, plainText, agree.get?_eq (mentioned _ bracket.name_mem_names),
    suffixedText_eq agree mentioned, agree.extruder]

theorem indexedSetting?_eq :
    indexedSetting? bracket.name other = indexedSetting? bracket.name layers := by
  unfold indexedSetting?
  rw [agree.get?_eq (mentioned _ bracket.name_mem_names)]
  split
  next front trailing =>
    rw [agree.get?_eq (mentioned _ (stem_mem_names (splitName?_of_trailing trailing)))]
  next =>
    rfl

/-- A bracket inserts the same text in both contexts. -/
theorem text_eq : bracket.text other there = bracket.text layers state := by
  rw [text, text, agree.isSkipping_eq]
  split
  · rfl
  · cases indexed : bracket.index with
    | none =>
        exact plainText_eq agree mentioned bracket.nameSpan
    | some index =>
        have same := agree.get?_eq (mentioned _ (index_mem_names indexed))
        simp only [indexedText, indexedSetting?_eq agree mentioned, same]

end Bracket

end GcodeTemplate
