import GcodeTemplate.Proofs.FullExpressions
import GcodeTemplate.Proofs.LazyExpressions
import GcodeTemplate.Proofs.ReadBack
import GcodeTemplate.Proofs.Redeclaration

/-!
# Values that are not empty

The empty value is what an expression has in a block that is not taken, and what going over
to another extruder leaves.  Nothing else makes one: operators and functions have results of
their own, and variables hold none.  So an expression without a call that switches, begun
outside of all blocks that are not taken, has a value, and a list of such expressions has an
element for each of them.
-/

namespace GcodeTemplate

open Evaluation Eval

/-! ## What an evaluation yields -/

namespace Evaluation

variable {σ α β : Type} {layers : Layers} {good : α → Prop}

/-- Whatever an evaluation yields has a property, wherever it begins. -/
def Yields (good : α → Prop) (layers : Layers) (evaluation : Evaluation σ α) : Prop :=
  ∀ ⦃state a after⦄, evaluation layers state = (.ok a, after) → good a

theorem yields_pure
    {a : α}
    (holds : good a) :
    Yields good layers (pure a : Evaluation σ α) := by
  rintro state _ _ ⟨⟩
  exact holds

/-- What is evaluated first does not matter. -/
theorem Yields.after
    {first : Evaluation σ β}
    {next : β → Evaluation σ α}
    (nextYields : ∀ b, Yields good layers (next b)) :
    Yields good layers (first >>= next) := by
  intro state a after run
  rcases bind_eq_ok run with ⟨b, between, _, run⟩
  exact nextYields b run

theorem yields_map
    {evaluation : Evaluation σ β}
    {f : β → α}
    (holds : ∀ b, good (f b)) :
    Yields good layers (f <$> evaluation) := by
  rw [map_eq_pure_bind]
  exact .after fun b => yields_pure (holds b)

theorem yields_inspect
    {look : Layers → State → Except Fault α}
    (holds : ∀ state a, look layers state = .ok a → good a) :
    Yields good layers (inspect look) :=
  fun _ a _ run => holds _ a (congrArg Prod.fst run)

/-- An operator yields nothing but its own results. -/
theorem yields_operate
    {good : Value → Prop}
    {result : Except Mismatch Value}
    (holds : ∀ value, result = .ok value → good value)
    (whole left right : Span) :
    Yields good layers (operate result whole left right) := by
  intro state value after run
  cases result with
  | error mismatch => nomatch run
  | ok found =>
      cases run
      exact holds value rfl

/-- A result that is passed on comes from the state where the evaluation ends. -/
theorem map_eq_ok
    {evaluation : Evaluation σ α}
    {f : α → β}
    {state after : σ}
    {b : β}
    (run : (f <$> evaluation) layers state = (.ok b, after)) :
    ∃ a, evaluation layers state = (.ok a, after) ∧ f a = b := by
  rw [map_eq_pure_bind] at run
  rcases bind_eq_ok run with ⟨a, between, found, answered⟩
  cases answered
  exact ⟨a, found, rfl⟩

end Evaluation

theorem Eval.change_eq_ok
    {layers : Layers}
    {step : Layers → State → Except Fault State}
    {state after : State}
    (changed : change step layers state = (.ok (), after)) :
    step layers state = .ok after := by
  unfold change at changed
  split at changed
  · nomatch changed
  · rename_i stepped
    cases changed
    exact stepped

/-! ## Operators, functions and variables -/

namespace Value

variable {left right value result : Value}

theorem isFull_of_calculate
    {operator : ArithmeticOperator}
    (made : calculate operator left right = .ok result) :
    result.IsFull := by
  unfold calculate at made
  repeat' split at made
  all_goals cases made
  all_goals rfl

theorem isFull_of_arithmetic
    {operator : ArithmeticOperator}
    (made : left.arithmetic operator right = .ok result) :
    result.IsFull := by
  unfold arithmetic at made
  split at made
  · cases made
    rfl
  · exact isFull_of_calculate made

theorem isFull_of_logic
    {operator : LogicalOperator}
    (made : left.logic operator right = .ok result) :
    result.IsFull := by
  unfold logic at made
  repeat' split at made
  all_goals cases made
  all_goals rfl

theorem isFull_of_negate (made : value.negate = .ok result) : result.IsFull := by
  cases value with
  | int | double =>
      cases made
      rfl
  | _ => nomatch made

theorem isFull_of_invert (made : value.invert = .ok result) : result.IsFull := by
  cases value with
  | bool =>
      cases made
      rfl
  | _ => nomatch made

theorem isFull_of_toInt
    {rounding : Number.Rounding}
    (made : value.toInt rounding = .ok result) :
    result.IsFull := by
  cases value with
  | int | double =>
      cases made
      rfl
  | _ => nomatch made

theorem isFull_of_extreme
    (extreme : Extreme)
    (left right : Value) :
    (extreme.of left right).IsFull := by
  unfold Extreme.of
  split <;> rfl

end Value

/-- No operator between two values makes an empty one, not even of empty ones. -/
theorem BinaryOperator.isFull_of_apply
    {operator : BinaryOperator}
    {left right result : Value}
    (made : operator.apply left right = .ok result) :
    result.IsFull := by
  cases operator with
  | arithmetic operator => exact Value.isFull_of_arithmetic made
  | logic operator => exact Value.isFull_of_logic made
  | compare comparison =>
      change .bool <$> left.compare comparison right = .ok result at made
      cases compared : left.compare comparison right with
      | error mismatch =>
          rw [compared] at made
          nomatch made
      | ok holds =>
          rw [compared] at made
          cases made
          rfl

theorem RandomSource.isFull_of_draw?
    {source : RandomSource}
    {low high : Value}
    {drawn : Value × RandomSource}
    (made : source.draw? low high = some drawn) :
    drawn.1.IsFull := by
  unfold draw? at made
  split at made
  · split at made
    · nomatch made
    · cases made
      rfl
  · dsimp only at made
    repeat' split at made
    all_goals cases made
    all_goals rfl

namespace Binding

variable {binding : Binding} {layers : Layers} {extruder : Nat} {value : Value}

theorem isFull_of_amountValue
    {amount : Amount}
    (made : binding.amountValue layers extruder amount = .ok value) :
    value.IsFull := by
  unfold amountValue at made
  split at made
  · cases made
    rfl
  · nomatch made

/-- No setting is read as an empty value. -/
theorem isFull_of_readSetting
    {setting : Setting}
    (made : binding.readSetting layers extruder setting = .ok value) :
    value.IsFull := by
  cases setting with
  | amount amount | amounts amounts =>
      rcases Fault.bind_eq_ok_iff.1 made with ⟨found, _, made⟩
      exact isFull_of_amountValue made
  | points points =>
      rcases Fault.bind_eq_ok_iff.1 made with ⟨found, _, made⟩
      cases made
      rfl
  | string text | choice name ordinal | point x y =>
      cases made
      rfl
  | _ =>
      rcases Fault.map_eq_ok_iff.1 made with ⟨found, _, rfl⟩
      rfl

theorem isFull_of_read
    {state : State}
    (made : binding.read layers state = .ok value) :
    value.IsFull := by
  rcases Fault.bind_eq_ok_iff.1 made with ⟨setting, _, made⟩
  exact isFull_of_readSetting made

end Binding

variable {layers : Layers}

theorem Eval.yields_draw
    (span : Span)
    (low high : Value) :
    (draw span low high).Yields Value.IsFull layers := by
  intro state value after run
  unfold draw at run
  split at run
  · nomatch run
  · split at run
    · nomatch run
    · rename_i drawn
      cases run
      exact RandomSource.isFull_of_draw? drawn

/-- Of all functions only the one that switches yields an empty value. -/
theorem Call.eval_yields
    (call : Call)
    (span : Span)
    (unswitched : call.has .switch = false) :
    (call.eval span).Yields Value.IsFull layers := by
  cases call with
  | minimum left right | maximum left right =>
      rw [Call.eval]
      exact .after fun first => .after fun second =>
        yields_pure (Value.isFull_of_extreme _ first second)
  | random low high =>
      rw [Call.eval]
      exact .after fun first => .after fun second => yields_draw span first second
  | changeFilament filament => nomatch unswitched
  | digits zeros value width places =>
      cases places with
      | none =>
          rw [Call.eval]
          exact .after fun value => .after fun width => yields_pure rfl
      | some places =>
          rw [Call.eval]
          exact .after fun value => .after fun width => .after fun places => yields_pure rfl
  | round rounding argument =>
      rw [Call.eval]
      exact .after fun value => yields_operate (fun _ => Value.isFull_of_toInt) _ _ _
  | isNil reference =>
      rw [Call.eval]
      exact .after fun binding => yields_map fun _ => rfl
  | isEmpty reference | size reference =>
      rw [Call.eval]
      exact .after fun binding => .after fun size => yields_pure rfl
  | oneOf subject candidates =>
      rw [Call.eval]
      exact .after fun value => yields_map fun _ => rfl
  | interpolate abscissa table =>
      rw [Call.eval]
      exact .after fun x => .after fun knots => yields_map fun _ => rfl

/-! ## Expressions and lists of them -/

/-- Outside of blocks that are not taken an expression leaves no such block open. -/
theorem Expr.active_of_eval
    {expr : Expr}
    {state after : State}
    {result : Except Fault Value}
    (active : state.suppressed = 0)
    (run : expr.eval layers state = (result, after)) :
    after.suppressed = 0 := by
  have same : State.SameFrame state (expr.eval layers state).2 := expr.eval_keepsFrame state
  rw [run] at same
  exact same.suppressed.trans active

/--
The empty value of the branch that is not taken goes no further: what is handed on is the
value of the other branch, which is evaluated outside of all blocks that are not taken.
-/
theorem Expr.isFull_of_eval
    (expr : Expr)
    (full : expr.IsFull)
    (unswitched : expr.has .switch = false)
    {state after : State}
    {value : Value}
    (active : state.suppressed = 0)
    (run : expr.eval layers state = (.ok value, after)) :
    value.IsFull := by
  rw [Expr.eval.eq_def, unlessSkipping_of_active _ active] at run
  cases expr with
  | literal span written =>
      cases run
      exact full
  | read span reference =>
      have reading (binding : Binding) : (Eval.read binding).Yields Value.IsFull layers :=
        yields_inspect fun _ _ => Binding.isFull_of_read
      exact Yields.after reading run
  | unary span operator operand =>
      rcases bind_eq_ok run with ⟨inside, between, evaluated, run⟩
      have insideFull := operand.isFull_of_eval full unswitched active evaluated
      refine yields_operate (fun _ made => ?_) _ _ _ run
      cases operator with
      | negate => exact Value.isFull_of_negate made
      | not => exact Value.isFull_of_invert made
      | plus =>
          cases made
          exact insideFull
  | binary span operator left right =>
      exact Yields.after (fun first => .after fun second =>
        yields_operate (fun _ => BinaryOperator.isFull_of_apply) _ _ _) run
  | fullMatch span negated subject source sourceSpan =>
      refine Yields.after (fun text => .after fun pattern => ?_) run
      exact yields_pure rfl
  | call span call => exact call.eval_yields span unswitched run
  | conditional span condition yes no =>
      simp only [Expr.has, Bool.or_eq_false_iff] at unswitched
      rcases bind_eq_ok run with ⟨holds, begun, decided, run⟩
      have same : State.SameFrame state (condition.evalCondition layers state).2 :=
        condition.evalCondition_keepsFrame state
      rw [Expr.evalCondition, decided] at same
      have activeThere : begun.suppressed = 0 := same.suppressed.trans active
      rcases bind_eq_ok run with ⟨first, between, one, run⟩
      rcases bind_eq_ok run with ⟨second, last, other, answered⟩
      cases answered
      cases holds with
      | true =>
          rw [within_true _ activeThere] at one
          exact yes.isFull_of_eval full.1 unswitched.2.1 activeThere one
      | false =>
          rw [within_false] at one
          cases one
          rw [Bool.not_false, within_true _ activeThere] at other
          exact no.isFull_of_eval full.2 unswitched.2.2 activeThere other

/-- A list of expressions that are full and do not switch loses none of its items. -/
theorem Sourced.length_ofExprs
    {items : List Expr}
    (each : ∀ item ∈ items, item.IsFull ∧ item.has .switch = false)
    {state after : State}
    {sources : List Sourced}
    (active : state.suppressed = 0)
    (run : ofExprs items layers state = (.ok sources, after)) :
    sources.length = items.length := by
  induction items generalizing state sources with
  | nil =>
      cases run
      rfl
  | cons item rest ih =>
      rw [List.forall_mem_cons] at each
      rcases bind_eq_ok run with ⟨value, between, evaluated, run⟩
      rcases bind_eq_ok run with ⟨others, last, further, answered⟩
      cases answered
      have valueFull := item.isFull_of_eval each.1.1 each.1.2 active evaluated
      rw [if_neg (by simp [show value.isEmpty = false from valueFull]), List.length_cons,
        ih each.2 (Expr.active_of_eval active evaluated) further, List.length_cons]

/-! ## Vectors that are built and assigned -/

namespace Setting

theorem size_of_scalar
    {setting : Setting}
    (scalar : setting.isVector = false) :
    setting.size = 1 := by
  cases setting <;> first | rfl | nomatch scalar

theorem size_of_ofItems
    {span : Span}
    {items : List Sourced}
    {setting : Setting}
    (made : ofItems span items = .ok setting) :
    setting.size = items.length := by
  unfold ofItems at made
  split at made
  · nomatch made
  · split at made
    · exact (valueAt?_withItems made).2.1
    · nomatch made

end Setting

/-- A variable that is assigned a list gets an element for each item; one place takes one item. -/
theorem Binding.size_of_assignList
    {binding : Binding}
    {items : List Sourced}
    {before after : State}
    (assigned : binding.assignList items layers before = .ok after) :
    ∃ setting, settingIn layers after binding.scope binding.key = some setting ∧
      if binding.index.isSome then items.length = 1 else setting.size = items.length := by
  rcases settingIn_of_update assigned with ⟨old, new, _, made, there, _⟩
  refine ⟨new, there, ?_⟩
  split at made
  next narrow =>
    split at made
    next item =>
      split
      next => rfl
      next unindexed =>
        have scalar : old.isVector = false := by simpa [unindexed] using narrow
        refine Setting.size_of_scalar ?_
        rw [← scalar]
        exact congrArg (·.isVector) (replacedBy_changedByScalar made).kind
    next => nomatch made
  next wide =>
    rw [if_neg (by simp_all)]
    exact (Setting.valueAt?_withItems made).2.1

section Lists

variable
  {span : Span}
  {items : List Expr}
  (each : ∀ item ∈ items, item.IsFull ∧ item.has .switch = false)
  {state after : State}
  (active : state.suppressed = 0)

include each active

theorem Initializer.size_of_assignTo
    {binding : Binding}
    (run : (Initializer.list span items).assignTo binding layers state = (.ok (), after)) :
    ∃ setting, settingIn layers after binding.scope binding.key = some setting ∧
      if binding.index.isSome then items.length = 1 else setting.size = items.length := by
  rcases bind_eq_ok run with ⟨sources, between, evaluated, changed⟩
  rw [← Sourced.length_ofExprs each active evaluated]
  exact Binding.size_of_assignList (change_eq_ok changed)

/-- A declaration makes a variable of the list, or assigns it to the one that is there. -/
theorem Declaration.size_of_run
    {isGlobal : Bool}
    {name : String}
    {nameSpan : Span}
    (run : (⟨isGlobal, name, nameSpan, .list span items⟩ : Declaration).run layers state =
      (.ok (), after)) :
    ∃ setting, settingIn layers after (Scope.ofVariable isGlobal) name = some setting ∧
      setting.size = items.length := by
  rcases bind_eq_ok run with ⟨existing, asked, looked, run⟩
  rcases State.declared?_eq_ok (congrArg Prod.fst looked) with ⟨allowed, known⟩
  obtain rfl : state = asked := congrArg Prod.snd looked
  cases existing with
  | some binding =>
      obtain rfl : binding = _ := known
      rcases bind_eq_ok run with ⟨isVector, ready, inspected, run⟩
      rcases map_eq_ok inspected with ⟨setting, found, _⟩
      obtain rfl : state = ready := congrArg Prod.snd found
      exact Initializer.size_of_assignTo each active run
  | none =>
      rcases bind_eq_ok run with ⟨setting, ready, made, stored⟩
      rcases bind_eq_ok made with ⟨sources, between, evaluated, built⟩
      have same : State.SameFrame state (Sourced.ofExprs items layers state).2 :=
        Sourced.ofExprs_keepsFrame items state
      rw [evaluated] at same
      obtain rfl : between = ready := congrArg Prod.snd built
      have allowedThere : between.obstacle? layers isGlobal name = none :=
        (same.obstacle?_eq layers isGlobal name).trans allowed
      cases change_eq_ok stored
      refine ⟨setting, State.settingIn_storeVariable allowedThere setting, ?_⟩
      rw [← Sourced.length_ofExprs each active evaluated]
      exact Setting.size_of_ofItems (congrArg Prod.fst built)

end Lists

open Grammar in
/--
No source has an empty literal in a place where it could be the value of an expression, be it
in an expression or in what something is assigned or declared with.  Without a call that
switches, and outside of all blocks that are not taken, such an expression has no empty value:
if it has a value at all, that one is there.  So a list of such expressions drops no item.  A
variable that is declared with the list has an element for each expression, and so has a
vector that the list is assigned to; an element takes a list of a single expression only.
-/
theorem empty_values_stay_in_untaken_blocks (layers : Layers) :
    (∀ levels,
      Parser.Yields Expr.IsFull (expressions levels).conditional ∧
        Parser.Yields Initializer.IsFull (initializer (expressions levels))) ∧
    (∀ (expr : Expr) (state after : State) (value : Value),
      expr.IsFull → expr.has .switch = false → state.suppressed = 0 →
        expr.eval layers state = (.ok value, after) → value.isEmpty = false) ∧
    ∀ (span : Span) (items : List Expr) (page after : Page),
      (∀ item ∈ items, item.IsFull ∧ item.has .switch = false) → page.state.suppressed = 0 →
        (∀ isGlobal name nameSpan,
          (Piece.declare ⟨isGlobal, name, nameSpan, .list span items⟩).render layers page =
              (.ok (), after) →
            ∃ setting, settingIn layers after.state (.ofVariable isGlobal) name = some setting ∧
              setting.size = items.length) ∧
        ∀ target,
          (Piece.assign target (.list span items)).render layers page = (.ok (), after) →
            ∃ binding setting, (target.bind layers page.state).1 = .ok binding ∧
              settingIn layers after.state binding.scope binding.key = some setting ∧
              if binding.index.isSome then items.length = 1
              else setting.size = items.length := by
  refine ⟨fun levels => ?read, fun expr state after value full unswitched active run =>
    expr.isFull_of_eval full unswitched active run,
    fun span items page after each active => ⟨?declared, ?assigned⟩⟩
  case read =>
    exact ⟨(expressions_full levels).conditional, (expressions_full levels).initializer⟩
  case declared =>
    intro isGlobal name nameSpan run
    rw [Piece.render, Rendering.unlessSkipping_quietly active] at run
    rcases Prod.mk.inj run with ⟨succeeded, rfl⟩
    exact Declaration.size_of_run each active (Prod.ext succeeded rfl)
  case assigned =>
    intro target run
    rw [Piece.render, Rendering.unlessSkipping_quietly active] at run
    rcases Prod.mk.inj run with ⟨succeeded, rfl⟩
    rcases bind_eq_ok (Prod.ext succeeded rfl) with ⟨binding, between, bound, assigned⟩
    have same : State.SameFrame page.state (target.bind layers page.state).2 :=
      target.bind_keepsFrame page.state
    rw [bound] at same
    have activeThere : between.suppressed = 0 := same.suppressed.trans active
    rcases Initializer.size_of_assignTo each activeThere assigned with ⟨setting, there, size⟩
    exact ⟨binding, setting, by rw [bound], there, size⟩

/-- A plus sign in front of a conditional in a conditional hands on what is there. -/
theorem nested_conditional_not_dropped :
    let layers : Layers := { process := ∅ }
    let number (n : Int64) : Expr := .literal {} (.int n)
    let inner : Expr := .conditional {} (.literal {} (.bool false)) (number 1) (number 2)
    let outer : Expr :=
      .conditional {} (.literal {} (.bool true)) (.unary {} .plus inner) (number 3)
    let items : List Expr := [outer, number 4]
    let holding (temps : List (Option Int64)) : Page :=
      ⟨{ locals := .ofList [("temps", .ints temps)] }, ""⟩
    let target : Reference Expr := ⟨"temps", {}, none, {}⟩
    (outer.eval layers {} = (.ok (.int 2), {}) ∧ (Value.int 2).isEmpty = false) ∧
      ((Piece.declare ⟨false, "temps", {}, .list {} items⟩).render layers ⟨{}, ""⟩ =
          (.ok (), holding [some 2, some 4]) ∧
        ∃ setting,
          settingIn layers (holding [some 2, some 4]).state .localVariable "temps" =
              some setting ∧
            setting.size = items.length) ∧
      (Piece.assign target (.list {} items)).render layers (holding []) =
          (.ok (), holding [some 2, some 4]) ∧
        ∃ binding setting, (target.bind layers (holding []).state).1 = .ok binding ∧
          settingIn layers (holding [some 2, some 4]).state binding.scope binding.key =
              some setting ∧
            if binding.index.isSome then items.length = 1 else setting.size = items.length := by
  intro layers number inner outer items holding target
  rcases empty_values_stay_in_untaken_blocks layers with ⟨_, full, sized⟩
  have outerFull : outer.IsFull := ⟨⟨rfl, rfl⟩, rfl⟩
  have each : ∀ item ∈ items, item.IsFull ∧ item.has .switch = false :=
    List.forall_mem_cons.2 ⟨⟨outerFull, rfl⟩, List.forall_mem_cons.2 ⟨⟨rfl, rfl⟩, nofun⟩⟩
  have evaluated : outer.eval layers {} = (.ok (.int 2), {}) := rfl
  have declared :
      (Piece.declare ⟨false, "temps", {}, .list {} items⟩).render layers ⟨{}, ""⟩ =
        (.ok (), holding [some 2, some 4]) :=
    rfl
  have assigned :
      (Piece.assign target (.list {} items)).render layers (holding []) =
        (.ok (), holding [some 2, some 4]) :=
    rfl
  exact ⟨⟨evaluated, full outer {} {} (.int 2) outerFull rfl rfl evaluated⟩,
    ⟨declared, (sized {} items ⟨{}, ""⟩ _ each rfl).1 false "temps" {} declared⟩,
    assigned, (sized {} items (holding []) _ each rfl).2 target assigned⟩

end GcodeTemplate
