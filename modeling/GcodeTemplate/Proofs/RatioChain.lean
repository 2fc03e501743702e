import GcodeTemplate.Binding

/-!
# Chains of percentages

A percentage is taken of its parent.  That may be a percentage as well, so one goes up
from parent to parent until one of them stands for a number by itself.  The number that
is read is the product of all amounts on the way, each percentage as a hundredth.

Parents that are no amounts at all, or that are unset, are the exception: they are passed
over, and what is behind them counts in their place.  `Follows` says how a chain is
followed with such parents in it, `EndsWithin` how it is without.
-/

namespace GcodeTemplate

/-- The amount that a setting is for a percentage of it; a float is meant absolutely. -/
def Setting.amount? : Setting → Option Amount
  | .float x => x.map fun value => ⟨value, false⟩
  | .amount value => value
  | _ => none

namespace Layers

variable {layers : Layers} {extruder : Nat} {key parentKey : String} {parent : Setting}

/-- The key that a percentage under a key is taken of, with the setting that is there. -/
def parent? (layers : Layers) (key : String) : Option (String × Setting) := do
  let parentKey ← layers.definitions.ratioOver key
  let parent ← layers.get? parentKey
  pure (parentKey, parent)

/--
Going up from a key one meets a parent, past others that are all percentages.  Of these
the nearest comes first.
-/
inductive Meets (layers : Layers) : String → List Float → String → Setting → Prop where
  | nearest
      {key parentKey : String}
      {parent : Setting}
      (found : layers.parent? key = some (parentKey, parent)) :
      Meets layers key [] parentKey parent
  | above
      {key between parentKey : String}
      {passed parent : Setting}
      {percentage : Float}
      {percentages : List Float}
      (found : layers.parent? key = some (between, passed))
      (percent : passed.amount? = some ⟨percentage, true⟩)
      (meets : Meets layers between percentages parentKey parent) :
      Meets layers key (percentage :: percentages) parentKey parent

/-- Within a number of steps up from a key all parents are amounts, and none is a width. -/
def AmountsWithin (layers : Layers) (key : String) (steps : Nat) : Prop :=
  ∀ percentages parentKey parent,
    layers.Meets key percentages parentKey parent → percentages.length < steps →
      isWidthKey parentKey = false ∧ parent.amount?.isSome

/-- Within a number of steps an absolute parent is met, past percentages only. -/
def EndsWithin
    (layers : Layers)
    (key : String)
    (steps : Nat)
    (percentages : List Float)
    (x : Float) :
    Prop :=
  percentages.length < steps ∧ ∃ parentKey parent,
    layers.Meets key percentages parentKey parent ∧ parent.amount? = some ⟨x, false⟩

/--
How the parents of a key are followed for a number of steps.  A width that is derived and
an absolute amount end the chain.  A percentage is kept, and a parent that is unset or no
amount at all is passed over: in both cases its own parent comes next.
-/
inductive Follows
    (layers : Layers)
    (extruder : Nat) :
    Nat → String → List Float → Float → Prop where
  | width
      {steps : Nat}
      {key parentKey : String}
      {parent : Setting}
      {x : Float}
      (found : layers.parent? key = some (parentKey, parent))
      (wide : isWidthKey parentKey = true)
      (derived : layers.width? extruder parentKey = some x) :
      Follows layers extruder (steps + 1) key [] x
  | absolute
      {steps : Nat}
      {key parentKey : String}
      {parent : Setting}
      {x : Float}
      (found : layers.parent? key = some (parentKey, parent))
      (narrow : isWidthKey parentKey = false)
      (counts : parent.amount? = some ⟨x, false⟩) :
      Follows layers extruder (steps + 1) key [] x
  | percentage
      {steps : Nat}
      {key parentKey : String}
      {parent : Setting}
      {percentage x : Float}
      {percentages : List Float}
      (found : layers.parent? key = some (parentKey, parent))
      (narrow : isWidthKey parentKey = false)
      (counts : parent.amount? = some ⟨percentage, true⟩)
      (further : Follows layers extruder steps parentKey percentages x) :
      Follows layers extruder (steps + 1) key (percentage :: percentages) x
  | passed
      {steps : Nat}
      {key parentKey : String}
      {parent : Setting}
      {x : Float}
      {percentages : List Float}
      (found : layers.parent? key = some (parentKey, parent))
      (narrow : isWidthKey parentKey = false)
      (noAmount : parent.amount? = none)
      (further : Follows layers extruder steps parentKey percentages x) :
      Follows layers extruder (steps + 1) key percentages x

/-- A ratio taken of percentages, one after the other. -/
def scale (ratio : Float) (percentages : List Float) : Float :=
  percentages.foldl (fun ratio percentage => ratio * percentage * 0.01) ratio

/-! ## One step -/

theorem parent?_eq_some_iff :
    layers.parent? key = some (parentKey, parent) ↔
      layers.definitions.ratioOver key = some parentKey ∧
        layers.get? parentKey = some parent := by
  simp only [parent?, Option.bind_eq_bind, Option.bind_eq_some_iff, Option.pure_def,
    Option.some.injEq, Prod.mk.injEq]
  constructor
  · rintro ⟨_, above, _, there, rfl, rfl⟩
    exact ⟨above, there⟩
  · rintro ⟨above, there⟩
    exact ⟨parentKey, above, parent, there, rfl, rfl⟩

/-- A percentage of nothing is not resolved. -/
theorem followRatio_of_orphan
    (orphan : layers.parent? key = none)
    (steps : Nat)
    (ratio : Float) :
    layers.followRatio extruder steps key ratio = none := by
  cases steps with
  | zero => rfl
  | succ steps =>
      simp only [parent?, Option.bind_eq_bind, Option.pure_def, Option.bind_eq_none_iff] at orphan
      rw [followRatio]
      cases above : layers.definitions.ratioOver key with
      | none => rfl
      | some parentKey =>
          cases there : layers.get? parentKey with
          | none => simp [there]
          | some parent => nomatch orphan parentKey above parent there

section Step

variable (found : layers.parent? key = some (parentKey, parent))

include found

/-- A parent that is a width counts as it is derived. -/
theorem followRatio_of_width
    (wide : isWidthKey parentKey = true)
    (steps : Nat)
    (ratio : Float) :
    layers.followRatio extruder (steps + 1) key ratio =
      (layers.width? extruder parentKey).map (ratio * ·) := by
  rcases parent?_eq_some_iff.1 found with ⟨above, there⟩
  rw [followRatio]
  simp only [above, there, wide, Option.bind_eq_bind, Option.bind_some, if_true,
    Option.pure_def]
  exact Option.map_eq_bind.symm

/-- A parent that is an amount ends the chain, or has its own parent counted too. -/
theorem followRatio_succ
    {amount : Amount}
    (narrow : isWidthKey parentKey = false)
    (counts : parent.amount? = some amount)
    (steps : Nat)
    (ratio : Float) :
    layers.followRatio extruder (steps + 1) key ratio =
      if amount.percent then
        layers.followRatio extruder steps parentKey (ratio * amount.value * 0.01)
      else
        some (ratio * amount.value) := by
  rcases parent?_eq_some_iff.1 found with ⟨above, there⟩
  rw [followRatio]
  simp only [above, there, narrow, Option.bind_eq_bind, Option.bind_some, Bool.false_eq_true,
    if_false, Option.pure_def]
  cases parent with
  | float value =>
      rcases Option.map_eq_some_iff.1 counts with ⟨x, rfl, rfl⟩
      rfl
  | amount value =>
      cases counts
      rfl
  | _ => nomatch counts

/-- In place of a parent that is unset or no amount, its own parent is followed. -/
theorem followRatio_of_passed
    (narrow : isWidthKey parentKey = false)
    (noAmount : parent.amount? = none)
    (steps : Nat)
    (ratio : Float) :
    layers.followRatio extruder (steps + 1) key ratio =
      layers.followRatio extruder steps parentKey ratio := by
  rcases parent?_eq_some_iff.1 found with ⟨above, there⟩
  rw [followRatio]
  simp only [above, there, narrow, Option.bind_eq_bind, Option.bind_some, Bool.false_eq_true,
    if_false, Option.pure_def]
  cases parent with
  | float value =>
      cases Option.map_eq_none_iff.1 noAmount
      rfl
  | amount value =>
      cases noAmount
      rfl
  | _ => rfl

end Step

/-! ## The whole chain -/

section Chain

variable {steps : Nat} {percentages : List Float} {x : Float}

/-- What is come to is multiplied with the ratio and all percentages that are kept. -/
theorem Follows.followRatio_eq
    (follows : layers.Follows extruder steps key percentages x)
    (ratio : Float) :
    layers.followRatio extruder steps key ratio = some (scale ratio percentages * x) := by
  induction follows generalizing ratio with
  | width found wide derived =>
      rw [followRatio_of_width found wide, derived]
      rfl
  | absolute found narrow counts =>
      rw [followRatio_succ found narrow counts]
      rfl
  | percentage found narrow counts _ ih =>
      rw [followRatio_succ found narrow counts]
      exact ih _
  | passed found narrow noAmount _ ih =>
      rw [followRatio_of_passed found narrow noAmount]
      exact ih ratio

/-- A ratio resolves only along parents that can be followed to the end. -/
theorem exists_follows
    {ratio y : Float}
    (resolved : layers.followRatio extruder steps key ratio = some y) :
    ∃ percentages x, layers.Follows extruder steps key percentages x ∧
      y = scale ratio percentages * x := by
  induction steps generalizing key ratio with
  | zero => nomatch resolved
  | succ steps ih =>
      cases found : layers.parent? key with
      | none => nomatch resolved.symm.trans (followRatio_of_orphan found _ ratio)
      | some near =>
          obtain ⟨nearKey, near⟩ := near
          cases wide : isWidthKey nearKey with
          | true =>
              rw [followRatio_of_width found wide] at resolved
              obtain ⟨x, derived, rfl⟩ := Option.map_eq_some_iff.1 resolved
              exact ⟨[], x, .width found wide derived, rfl⟩
          | false =>
              cases counts : near.amount? with
              | none =>
                  rw [followRatio_of_passed found wide counts] at resolved
                  obtain ⟨percentages, x, further, rfl⟩ := ih resolved
                  exact ⟨percentages, x, .passed found wide counts further, rfl⟩
              | some amount =>
                  obtain ⟨value, percent⟩ := amount
                  rw [followRatio_succ found wide counts] at resolved
                  cases percent with
                  | false =>
                      cases resolved
                      exact ⟨[], value, .absolute found wide counts, rfl⟩
                  | true =>
                      obtain ⟨percentages, x, further, rfl⟩ := ih resolved
                      exact ⟨value :: percentages, x,
                        .percentage found wide counts further, rfl⟩

/-- From a percentage on there is one step less to go. -/
theorem AmountsWithin.above
    {percentage : Float}
    (amounts : layers.AmountsWithin key (steps + 1))
    (found : layers.parent? key = some (parentKey, parent))
    (percent : parent.amount? = some ⟨percentage, true⟩) :
    layers.AmountsWithin parentKey steps :=
  fun _ _ _ meets short =>
    amounts _ _ _ (.above found percent meets) (Nat.succ_lt_succ short)

/-- Where all parents that are met are amounts, none is a width and none is passed over. -/
theorem follows_iff_endsWithin
    (amounts : layers.AmountsWithin key steps) :
    layers.Follows extruder steps key percentages x ↔
      layers.EndsWithin key steps percentages x := by
  constructor
  · intro follows
    induction follows with
    | width found wide =>
        nomatch wide.symm.trans (amounts [] _ _ (.nearest found) (Nat.succ_pos _)).1
    | absolute found _ counts =>
        exact ⟨Nat.succ_pos _, _, _, .nearest found, counts⟩
    | percentage found _ counts _ ih =>
        rcases ih (amounts.above found counts) with ⟨short, endKey, last, meets, absolute⟩
        exact ⟨Nat.succ_lt_succ short, endKey, last, .above found counts meets, absolute⟩
    | passed found _ noAmount =>
        have isAmount := (amounts [] _ _ (.nearest found) (Nat.succ_pos _)).2
        rw [noAmount] at isAmount
        nomatch isAmount
  · rintro ⟨short, endKey, last, meets, absolute⟩
    -- one step is taken for each percentage that the last parent is met behind
    induction meets generalizing steps with
    | nearest found =>
        cases steps with
        | zero => nomatch short
        | succ steps =>
            exact .absolute found (amounts [] _ _ (.nearest found) short).1 absolute
    | above found percent _ ih =>
        cases steps with
        | zero => nomatch short
        | succ steps =>
            exact .percentage found
              (amounts [] _ _ (.nearest found) (Nat.succ_pos steps)).1 percent
              (ih (amounts.above found percent) (Nat.lt_of_succ_lt_succ short) absolute)

end Chain

end Layers

/-! ## Reading a percentage -/

/-- What is read of an amount is the number that it stands for, in a scalar or in a vector. -/
theorem Binding.read_amount
    {binding : Binding}
    {layers : Layers}
    {state : State}
    {setting : Setting}
    {amount : Amount}
    (found : binding.setting layers state = .ok setting)
    (there : setting = .amount (some amount) ∨
      ∃ amounts, setting = .amounts amounts ∧
        binding.presentElement state.extruder amounts = .ok amount) :
    binding.read layers state = binding.amountValue layers state.extruder amount := by
  rw [read, found]
  rcases there with rfl | ⟨amounts, rfl, element⟩
  · rfl
  · show (binding.presentElement state.extruder amounts >>= _) = _
    rw [element]
    rfl

/--
Read a percentage that is no width, whatever its parents are.  Either they can be followed
to a width or an absolute amount, and the number that is read is the product of that and
of all percentages on the way, or they cannot and reading fails.  So a parent that is
passed over does not make reading fail, but neither does it resolve anything by itself.
-/
theorem Binding.read_percentage
    {binding : Binding}
    {layers : Layers}
    {state : State}
    {setting : Setting}
    {amount : Amount}
    (found : binding.setting layers state = .ok setting)
    (there : setting = .amount (some amount) ∨
      ∃ amounts, setting = .amounts amounts ∧
        binding.presentElement state.extruder amounts = .ok amount)
    (percent : amount.percent)
    (narrow : isWidthKey binding.key = false) :
    (∃ percentages x,
      layers.Follows state.extruder maximalRatioSteps binding.key percentages x ∧
        binding.read layers state =
          .ok (.double (Layers.scale (amount.value * 0.01) percentages * x))) ∨
      (∀ percentages x,
        ¬ layers.Follows state.extruder maximalRatioSteps binding.key percentages x) ∧
        binding.read layers state = .error ⟨.unresolvedRatio, binding.span⟩ := by
  have resolves :
      layers.resolve? state.extruder binding.key amount =
        layers.followRatio state.extruder maximalRatioSteps binding.key
          (amount.value * 0.01) := by
    simp [Layers.resolve?, narrow, percent]
  rw [read_amount found there, amountValue, resolves]
  cases resolved :
      layers.followRatio state.extruder maximalRatioSteps binding.key (amount.value * 0.01) with
  | some y =>
      obtain ⟨percentages, x, follows, rfl⟩ := Layers.exists_follows resolved
      exact .inl ⟨percentages, x, follows, rfl⟩
  | none =>
      refine .inr ⟨fun percentages x follows => ?_, rfl⟩
      nomatch resolved.symm.trans (follows.followRatio_eq _)

/--
Read a percentage that is no width, as a scalar or as an element of a vector.  Say that no
parent which is met on the way up is a width, is unset or is anything but a float or an
amount.  Then either there is an absolute parent behind percentages only, fewer of them
than a chain may have parents, and the number that is read is the product of all of them;
or there is none, and reading fails.
-/
theorem percentage_resolves_through_parents
    (binding : Binding)
    (layers : Layers)
    (state : State)
    (setting : Setting)
    (amount : Amount)
    (found : binding.setting layers state = .ok setting)
    (there : setting = .amount (some amount) ∨
      ∃ amounts, setting = .amounts amounts ∧
        binding.presentElement state.extruder amounts = .ok amount)
    (percent : amount.percent)
    (narrow : isWidthKey binding.key = false)
    (amounts : layers.AmountsWithin binding.key maximalRatioSteps) :
    (∃ percentages x, layers.EndsWithin binding.key maximalRatioSteps percentages x ∧
      binding.read layers state =
        .ok (.double (Layers.scale (amount.value * 0.01) percentages * x))) ∨
      (∀ percentages x, ¬ layers.EndsWithin binding.key maximalRatioSteps percentages x) ∧
        ∃ fault, binding.read layers state = .error fault ∧
          fault.cause.kind = .runtime ∧ fault.span = binding.span := by
  rcases Binding.read_percentage found there percent narrow with
    ⟨percentages, x, follows, read⟩ | ⟨endless, failed⟩
  · exact .inl ⟨percentages, x, (Layers.follows_iff_endsWithin amounts).1 follows, read⟩
  · refine .inr ⟨fun percentages x ends => ?_, _, failed, rfl, rfl⟩
    exact endless percentages x ((Layers.follows_iff_endsWithin amounts).2 ends)

/-- Half of twice a width of a nozzle is read as the product of all three. -/
theorem half_of_double_nozzle_resolved :
    let layers : Layers := {
      process := .ofList [
        ("gap", .amount (some ⟨50, true⟩)),
        ("nozzle", .float (some 0.5)),
        ("track", .amount (some ⟨200, true⟩))]
      definitions := .ofParents [("gap", "track"), ("track", "nozzle")] }
    let gap : Binding := ⟨"gap", .process, none, ⟨0, 3⟩⟩
    layers.Meets "gap" [200] "nozzle" (.float (some 0.5)) ∧
      gap.read layers {} = .ok (.double (50 * 0.01 * 200 * 0.01 * 0.5)) := by
  intro layers gap
  have ofGap : layers.parent? "gap" = some ("track", .amount (some ⟨200, true⟩)) := rfl
  have ofTrack : layers.parent? "track" = some ("nozzle", .float (some 0.5)) := rfl
  have met : ∀ percentages parentKey parent,
      layers.Meets "gap" percentages parentKey parent →
        percentages = [] ∧ parentKey = "track" ∧ parent = .amount (some ⟨200, true⟩) ∨
          percentages = [200] ∧ parentKey = "nozzle" ∧ parent = .float (some 0.5) := by
    intro percentages parentKey parent meets
    cases meets with
    | nearest found =>
        cases ofGap.symm.trans found
        exact .inl ⟨rfl, rfl, rfl⟩
    | above found percent further =>
        cases ofGap.symm.trans found
        cases percent
        cases further with
        | nearest found =>
            cases ofTrack.symm.trans found
            exact .inr ⟨rfl, rfl, rfl⟩
        | above found percent _ =>
            cases ofTrack.symm.trans found
            nomatch percent
  have meetsNozzle : layers.Meets "gap" [200] "nozzle" (.float (some 0.5)) :=
    .above ofGap rfl (.nearest ofTrack)
  refine ⟨meetsNozzle, ?_⟩
  have amounts : layers.AmountsWithin "gap" maximalRatioSteps := by
    intro percentages parentKey parent meets _
    rcases met percentages parentKey parent meets with ⟨-, rfl, rfl⟩ | ⟨-, rfl, rfl⟩ <;>
      exact ⟨by decide, rfl⟩
  rcases percentage_resolves_through_parents gap layers {} (.amount (some ⟨50, true⟩))
    ⟨50, true⟩ rfl (.inl rfl) rfl (by decide) amounts with
    ⟨percentages, x, ⟨_, parentKey, parent, meets, ends⟩, read⟩ | ⟨endless, _⟩
  · rcases met percentages parentKey parent meets with ⟨-, rfl, rfl⟩ | ⟨rfl, rfl, rfl⟩
    · nomatch ends
    · cases ends
      exact read
  · exact absurd ⟨by decide, "nozzle", _, meetsNozzle, rfl⟩ (endless [200] 0.5)

/-- An unset parent and one that is a whole number are passed over: what is behind them counts. -/
theorem unset_and_whole_parents_passed_over :
    let layers : Layers := {
      process := .ofList [
        ("nozzle", .float (some 0.5)),
        ("over_unset", .amount (some ⟨50, true⟩)),
        ("over_whole", .amount (some ⟨50, true⟩)),
        ("unset", .float none),
        ("whole", .int (some 7))]
      definitions := .ofParents [
        ("over_unset", "unset"), ("unset", "nozzle"),
        ("over_whole", "whole"), ("whole", "nozzle")] }
    layers.parent? "over_unset" = some ("unset", .float none) ∧
      layers.parent? "over_whole" = some ("whole", .int (some 7)) ∧
      Binding.read ⟨"over_unset", .process, none, ⟨0, 10⟩⟩ layers {} =
        .ok (.double (50 * 0.01 * 0.5)) ∧
      Binding.read ⟨"over_whole", .process, none, ⟨0, 10⟩⟩ layers {} =
        .ok (.double (50 * 0.01 * 0.5)) := by
  intro layers
  exact ⟨rfl, rfl, rfl, rfl⟩

end GcodeTemplate
