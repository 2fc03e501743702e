import GcodeTemplate.Setting
import GcodeTemplate.Proofs.DoubleOrder

/-!
# When settings are equal

Settings are compared with their doubles as numbers, and an undefined double is equal to
nothing.  So a setting is equal to itself unless there is an undefined double in it, and one
with an undefined double is equal to no setting at all.
-/

namespace GcodeTemplate

/-! ## Things that are equal to something -/

/--
Some things of a type are defined: these are equal to themselves, and the others are equal
to nothing.
-/
structure EqualWhereDefined {α : Type} [BEq α] (defined : α → Bool) : Prop where
  self {a : α} : defined a → a == a
  of_beq {a b : α} : a == b → defined b

namespace EqualWhereDefined

variable {α β : Type} [BEq α] [BEq β] {defined : α → Bool} {definedToo : β → Bool}

theorem option (equal : EqualWhereDefined defined) :
    EqualWhereDefined fun value : Option α => value.all defined where
  self {value} all := by
    cases value with
    | none => rfl
    | some a => exact equal.self all
  of_beq {first second} same := by
    cases second with
    | none => rfl
    | some b =>
        cases first with
        | none => nomatch same
        | some a => exact equal.of_beq same

theorem prod
    (equal : EqualWhereDefined defined)
    (equalToo : EqualWhereDefined definedToo) :
    EqualWhereDefined fun (a, b) => defined a && definedToo b where
  self both := by
    rcases Bool.and_eq_true_iff.1 both with ⟨first, second⟩
    exact Bool.and_eq_true_iff.2 ⟨equal.self first, equalToo.self second⟩
  of_beq same := by
    rcases Bool.and_eq_true_iff.1 same with ⟨first, second⟩
    exact Bool.and_eq_true_iff.2 ⟨equal.of_beq first, equalToo.of_beq second⟩

theorem list (equal : EqualWhereDefined defined) :
    EqualWhereDefined fun values : List α => values.all defined where
  self {values} all := by
    induction values with
    | nil => rfl
    | cons a rest ih =>
        rcases Bool.and_eq_true_iff.1 all with ⟨first, others⟩
        exact Bool.and_eq_true_iff.2 ⟨equal.self first, ih others⟩
  of_beq {first second} same := by
    induction second generalizing first with
    | nil => rfl
    | cons b rest ih =>
        cases first with
        | nil => nomatch same
        | cons a others =>
            rcases Bool.and_eq_true_iff.1 same with ⟨sameFirst, sameRest⟩
            exact Bool.and_eq_true_iff.2 ⟨equal.of_beq sameFirst, ih sameRest⟩

end EqualWhereDefined

/-- Whether a double is a number, be it infinite. -/
def Number.isDefined (x : Float) : Bool :=
  ! x.isNaN

theorem Number.equalWhereDefined : EqualWhereDefined isDefined where
  self {x} defined := by
    have number : x.isNaN = false := by simpa [isDefined] using defined
    exact beq_iff_rank.2 ⟨number, number, rfl⟩
  of_beq same := by
    simpa [isDefined] using (beq_iff_rank.1 same).2.1

/-- Whether the number of an amount is one. -/
def Amount.isDefined (amount : Amount) : Bool :=
  Number.isDefined amount.value

theorem Amount.equalWhereDefined : EqualWhereDefined isDefined where
  self defined :=
    Bool.and_eq_true_iff.2 ⟨Number.equalWhereDefined.self defined, BEq.rfl⟩
  of_beq same :=
    Number.equalWhereDefined.of_beq (Bool.and_eq_true_iff.1 same).1

/-! ## Settings -/

namespace Setting

/-- Whether there is no undefined double in a setting. -/
def isDefined : Setting → Bool
  | float value | percent value => value.all Number.isDefined
  | amount value => value.all Amount.isDefined
  | point x y => Number.isDefined x && Number.isDefined y
  | floats values | percents values => values.all (·.all Number.isDefined)
  | amounts values => values.all (·.all Amount.isDefined)
  | points values => values.all fun (x, y) => Number.isDefined x && Number.isDefined y
  | _ => true

/-- Settings of different kinds are not equal. -/
theorem kind_eq_of_beq
    {first second : Setting}
    (same : first == second) :
    first.kind = second.kind := by
  cases first <;> cases second <;> first | rfl | nomatch same

/-- A setting is equal to itself if all of its doubles are defined, and else to nothing. -/
theorem equalWhereDefined : EqualWhereDefined isDefined where
  self {setting} all := by
    have number := Number.equalWhereDefined
    have amount := Amount.equalWhereDefined
    cases setting with
    | float | percent => exact number.option.self all
    | amount => exact amount.option.self all
    | point x y =>
        change ((x, y) == (x, y)) = true
        exact (number.prod number).self all
    | floats | percents => exact number.option.list.self all
    | amounts => exact amount.option.list.self all
    | points => exact (number.prod number).list.self all
    | int value | bool value | string value | ints value | bools value | strings value
    | choices value =>
        change (value == value) = true
        exact BEq.rfl
    | choice name ordinal =>
        change ((name == name) && (ordinal == ordinal)) = true
        simp
  of_beq {first second} same := by
    have number := Number.equalWhereDefined
    have amount := Amount.equalWhereDefined
    -- one case for each kind is left
    have kinds := kind_eq_of_beq same
    cases first <;> cases second <;> cases kinds
    case float.float | percent.percent => exact number.option.of_beq same
    case amount.amount => exact amount.option.of_beq same
    case point.point x y u v =>
      exact (number.prod number).of_beq (a := (x, y)) (b := (u, v)) same
    case floats.floats | percents.percents => exact number.option.list.of_beq same
    case amounts.amounts => exact amount.option.list.of_beq same
    case points.points => exact (number.prod number).list.of_beq same
    all_goals rfl

end Setting

end GcodeTemplate
