import Mathlib.Data.List.Chain
import Mathlib.Data.List.Pairwise
import GcodeTemplate.Call.Interpolation
import GcodeTemplate.Proofs.DoubleOrder

/-!
# Interpolation between the points of a table

A table with a first coordinate that decreases somewhere is refused.  In any other table
the points are in order, so what lies between two of them lies over some segment, the
first point at a coordinate is the one whose height counts there, and beyond the ends by
more than the tolerance there is nothing.

A table of one point has no segment.  There the point itself is found only as a coordinate
within the tolerance of its own, and the tolerance is lost in a large coordinate.
-/

namespace GcodeTemplate

open Number (rank)

/-- Where a point stands among others by its first coordinate. -/
def Knot.place (knot : Knot) : ℤ ×ₗ ℤ ×ₗ ℤ :=
  rank knot.x

/-- Whether a point has a first coordinate. -/
def Knot.isAt (x : Float) (knot : Knot) : Bool :=
  x == knot.x

namespace Table

variable {table rest : Table} {first left right knot : Knot} {x : Float} {span : Span}

/-- Somewhere in a table a point is followed by one with a smaller first coordinate. -/
def Decreasing (table : Table) : Prop :=
  ∃ front left right back, table = front ++ left :: right :: back ∧ right.x < left.x

/-- The points of a table are in the order of their first coordinates. -/
def Ordered (table : Table) : Prop :=
  table.Pairwise fun left right => left.place ≤ right.place

/-! ## Segments -/

@[simp]
theorem segments_cons_cons (left right : Knot) (rest : Table) :
    segments (left :: right :: rest) = (left, right) :: segments (right :: rest) :=
  rfl

@[simp]
theorem segments_singleton (knot : Knot) : segments [knot] = [] :=
  rfl

/-- The segments of a table are its pairs of neighbours. -/
theorem mem_segments_iff :
    (left, right) ∈ segments table ↔ ∃ front back, table = front ++ left :: right :: back := by
  induction table with
  | nil => simp [segments]
  | cons first rest ih =>
      cases rest with
      | nil => simp [List.cons_eq_append_iff]
      | cons second rest =>
          rw [segments_cons_cons, List.mem_cons, ih, Prod.mk.injEq]
          constructor
          · rintro (⟨rfl, rfl⟩ | ⟨front, back, split⟩)
            · exact ⟨[], rest, rfl⟩
            · exact ⟨first :: front, back, by rw [split, List.cons_append]⟩
          · rintro ⟨front, back, split⟩
            cases front with
            | nil =>
                cases split
                exact .inl ⟨rfl, rfl⟩
            | cons _ front =>
                exact .inr ⟨front, back, (List.cons.inj split).2⟩

theorem decreasing_iff : table.Decreasing ↔ ∃ segment ∈ table.segments, decreases segment := by
  constructor
  · rintro ⟨front, left, right, back, split, less⟩
    exact ⟨(left, right), mem_segments_iff.2 ⟨front, back, split⟩, decide_eq_true less⟩
  · rintro ⟨⟨left, right⟩, member, less⟩
    rcases mem_segments_iff.1 member with ⟨front, back, split⟩
    exact ⟨front, left, right, back, split, of_decide_eq_true less⟩

instance (table : Table) : Decidable table.Decreasing :=
  decidable_of_iff _ decreasing_iff.symm

theorem mem_of_mem_segments
    (member : (left, right) ∈ table.segments) :
    left ∈ table ∧ right ∈ table := by
  rcases mem_segments_iff.1 member with ⟨front, back, rfl⟩
  simp

/-- If nowhere in a table the first coordinate decreases then its points are in order. -/
theorem ordered_of_not_decreasing
    (numbers : ∀ knot ∈ table, knot.x.isNaN = false)
    (steady : ¬ table.Decreasing) :
    table.Ordered := by
  have : IsTrans Knot fun left right => left.place ≤ right.place :=
    ⟨fun _ _ _ => le_trans⟩
  refine (List.isChain_iff_pairwise (R := fun left right : Knot => left.place ≤ right.place)).1 ?_
  rw [List.isChain_iff_forall_rel_of_append_cons_cons]
  intro left right front back split
  have leftNumber := numbers left (by simp [split])
  have rightNumber := numbers right (by simp [split])
  refine not_lt.1 fun less => steady ⟨front, left, right, back, split, ?_⟩
  exact Number.lt_iff_rank.2 ⟨rightNumber, leftNumber, less⟩

/-! ## Finding a segment -/

section Ordered

variable
  (ordered : table.Ordered)
  (numbers : ∀ knot ∈ table, knot.x.isNaN = false)
  (number : x.isNaN = false)

include numbers number in
/-- A segment spans what lies between its points. -/
theorem spans_iff
    (member : (left, right) ∈ table.segments) :
    spans x (left, right) ↔ left.place ≤ rank x ∧ rank x ≤ right.place := by
  rcases mem_of_mem_segments member with ⟨leftMember, rightMember⟩
  simp only [spans, Bool.and_eq_true, decide_eq_true_eq, Number.le_iff_rank, number,
    numbers left leftMember, numbers right rightMember, true_and, Knot.place]

include numbers number in
theorem isAt_iff
    (member : knot ∈ table) :
    knot.isAt x ↔ rank x = knot.place := by
  simp only [Knot.isAt, Number.beq_iff_rank, number, numbers knot member, true_and, Knot.place]

end Ordered

/--
What lies between the ends of a table lies over a segment.  The points need not be in
order for that: the first one that is not in front of it ends such a segment.
-/
theorem exists_spans
    (numbers : ∀ knot ∈ first :: rest, knot.x.isNaN = false)
    (number : x.isNaN = false)
    (low : first.place ≤ rank x)
    (high : ∃ knot ∈ rest, rank x ≤ knot.place) :
    ∃ segment ∈ segments (first :: rest), spans x segment := by
  induction rest generalizing first with
  | nil =>
      rcases high with ⟨_, member, _⟩
      nomatch member
  | cons second rest ih =>
      rcases le_total (rank x) second.place with within | beyond
      · have member : (first, second) ∈ segments (first :: second :: rest) :=
          List.mem_cons_self
        exact ⟨_, member, (spans_iff numbers number member).2 ⟨low, within⟩⟩
      · rcases high with ⟨knot, member, high⟩
        rcases List.mem_cons.1 member with rfl | member
        · have member : (first, knot) ∈ segments (first :: knot :: rest) :=
            List.mem_cons_self
          exact ⟨_, member, (spans_iff numbers number member).2 ⟨low, high⟩⟩
        · rcases ih (fun knot there => numbers knot (List.mem_cons_of_mem _ there)) beyond
            ⟨knot, member, high⟩ with ⟨segment, there, spanned⟩
          exact ⟨segment, List.mem_cons_of_mem _ there, spanned⟩

theorem height_of_left (same : left.isAt x) : height x (left, right) = left.y := by
  rw [Knot.isAt] at same
  simp [height, same]

theorem height_of_right
    (different : ¬ left.isAt x)
    (same : right.isAt x) :
    height x (left, right) = right.y := by
  rw [Knot.isAt] at different same
  simp [height, different, same]

/-- Over the coordinate of a point the first segment has the height of the first point there. -/
theorem find?_spans_of_find?
    (ordered : Ordered (first :: rest))
    (numbers : ∀ knot ∈ first :: rest, knot.x.isNaN = false)
    (number : x.isNaN = false)
    (segmented : rest ≠ [])
    (found : (first :: rest).find? (Knot.isAt x) = some knot) :
    ∃ segment, (segments (first :: rest)).find? (spans x) = some segment ∧
      height x segment = knot.y := by
  induction rest generalizing first with
  | nil => exact absurd rfl segmented
  | cons second rest ih =>
      have member : (first, second) ∈ segments (first :: second :: rest) :=
        List.mem_cons_self
      have spanned := spans_iff numbers number member
      have ⟨least, tailOrdered⟩ := List.pairwise_cons.1 ordered
      have tailNumbers := fun knot there => numbers knot (List.mem_cons_of_mem first there)
      have atKnot : rank x = knot.place :=
        (isAt_iff numbers number (List.mem_of_find?_eq_some found)).1
          (List.find?_some found)
      by_cases here : first.isAt x
      · rw [List.find?_cons_of_pos here, Option.some.injEq] at found
        subst found
        have spansHere : spans x (first, second) :=
          spanned.2 ⟨atKnot.ge, atKnot.le.trans (least second List.mem_cons_self)⟩
        exact ⟨(first, second), List.find?_cons_of_pos spansHere, height_of_left here⟩
      · rw [List.find?_cons_of_neg here] at found
        have above : first.place ≤ rank x :=
          atKnot ▸ least knot (List.mem_of_find?_eq_some found)
        by_cases next : second.isAt x
        · rw [List.find?_cons_of_pos next, Option.some.injEq] at found
          subst found
          have spansHere : spans x (first, second) := spanned.2 ⟨above, atKnot.le⟩
          exact ⟨(first, second), List.find?_cons_of_pos spansHere, height_of_right here next⟩
        · -- the second point is in front of the one that is looked for
          have behind : knot ∈ rest := by
            rw [List.find?_cons_of_neg next] at found
            exact List.mem_of_find?_eq_some found
          have beyond : ¬ spans x (first, second) := by
            intro spansHere
            have atSecond : rank x = second.place :=
              le_antisymm (spanned.1 spansHere).2
                (atKnot ▸ (List.pairwise_cons.1 tailOrdered).1 knot behind)
            exact next ((isAt_iff tailNumbers number List.mem_cons_self).2 atSecond)
          rcases ih tailOrdered tailNumbers (List.ne_nil_of_mem behind) found with
            ⟨segment, there, high⟩
          exact ⟨segment, (List.find?_cons_of_neg beyond).trans there, high⟩

/-! ## Beyond the ends -/

section Ends

variable
  {last : Knot}
  (starts : table.head? = some first)
  (ends : table.getLast? = some last)
  (ordered : table.Ordered)

include starts ordered in
theorem place_ge_first (member : knot ∈ table) : first.place ≤ knot.place := by
  cases table with
  | nil => nomatch starts
  | cons head rest =>
      cases starts
      rcases List.mem_cons.1 member with rfl | member
      · exact le_rfl
      · exact (List.pairwise_cons.1 ordered).1 knot member

include ends ordered in
theorem place_le_last (member : knot ∈ table) : knot.place ≤ last.place := by
  have : Std.Refl fun left right : Knot => left.place ≤ right.place := ⟨fun _ => le_rfl⟩
  rw [List.getLast?_eq_some_getLast (List.ne_nil_of_mem member)] at ends
  cases ends
  exact List.Pairwise.rel_getLast (R := fun left right : Knot => left.place ≤ right.place)
    ordered member

include starts ends ordered in
/-- No segment spans what lies in front of the first point or behind the last one. -/
theorem find?_spans_of_beyond
    (numbers : ∀ knot ∈ table, knot.x.isNaN = false)
    (number : x.isNaN = false)
    (beyond : rank x < first.place ∨ last.place < rank x) :
    table.segments.find? (spans x) = none := by
  rw [List.find?_eq_none]
  rintro ⟨left, right⟩ member spanned
  have ⟨low, high⟩ := (spans_iff numbers number member).1 spanned
  have ⟨leftMember, rightMember⟩ := mem_of_mem_segments member
  rcases beyond with before | behind
  · exact before.not_ge ((place_ge_first starts ordered leftMember).trans low)
  · exact behind.not_ge (high.trans (place_le_last ends ordered rightMember))

end Ends

/-! ## The height over a coordinate -/

/-- What interpolation does, in terms of the first and the last point of the table. -/
theorem interpolate_eq
    {last : Knot}
    (starts : table.head? = some first)
    (ends : table.getLast? = some last)
    (steady : ¬ table.Decreasing) :
    table.interpolate x span =
      match table.segments.find? (spans x) with
      | some segment => .ok (height x segment)
      | none =>
          match levelHeight? x first last with
          | some y => .ok y
          | none => .error ⟨.outsideTable, span⟩ := by
  cases table with
  | nil => nomatch starts
  | cons head rest =>
      cases starts
      have noDecrease : (segments (first :: rest)).find? decreases = none := by
        rw [List.find?_eq_none]
        exact fun segment member less => steady (decreasing_iff.2 ⟨segment, member, less⟩)
      rw [List.getLast?_cons, Option.some.injEq] at ends
      simp only [interpolate, noDecrease]
      subst ends
      rfl

/-- A table whose first coordinate decreases is refused, whatever is looked for. -/
theorem interpolate_of_decreasing
    (decreasing : table.Decreasing)
    (x : Float)
    (span : Span) :
    ∃ fault, table.interpolate x span = .error fault ∧ fault.cause.kind = .range := by
  rcases decreasing_iff.1 decreasing with ⟨segment, member, less⟩
  cases table with
  | nil => nomatch member
  | cons head rest =>
      cases found : (segments (head :: rest)).find? decreases with
      | none => exact absurd less (List.find?_eq_none.1 found segment member)
      | some pair =>
          refine ⟨⟨.decreasingTable, pair.1.span.cover pair.2.span⟩, ?_, rfl⟩
          simp only [interpolate, found]

/-- In a table of one point the point itself is found where the tolerance is not lost. -/
theorem levelHeight?_of_single
    (numbers : knot.x.isNaN = false)
    (number : x.isNaN = false)
    (same : rank x = knot.place)
    (wide : knot.x - tolerance < knot.x ∨ knot.x < knot.x + tolerance) :
    levelHeight? x knot knot = some knot.y := by
  simp only [Number.lt_iff_rank, numbers, true_and] at wide
  simp only [levelHeight?, Bool.and_eq_true, decide_eq_true_eq, Number.lt_iff_rank,
    Number.le_iff_rank, numbers, number, true_and]
  rw [Knot.place] at same
  rcases wide with below | above
  · rw [if_pos ⟨⟨below.1, same ▸ below.2⟩, same.le⟩]
  · split
    · rfl
    · rw [if_pos ⟨same.ge, above.1, same ▸ above.2⟩]

/-- Beyond the ends of a table there is no height from the tolerance on. -/
theorem levelHeight?_of_beyond
    {last : Knot}
    (inOrder : first.place ≤ last.place)
    (beyond : x ≤ first.x - tolerance ∧ x < first.x ∨ last.x + tolerance ≤ x ∧ last.x < x) :
    levelHeight? x first last = none := by
  simp only [Number.lt_iff_rank, Number.le_iff_rank] at beyond
  simp only [levelHeight?, Bool.and_eq_true, decide_eq_true_eq, Number.lt_iff_rank,
    Number.le_iff_rank]
  rw [Knot.place, Knot.place] at inOrder
  rcases beyond with ⟨before, less⟩ | ⟨behind, greater⟩
  · rw [if_neg fun near => near.1.2.2.not_ge before.2.2,
      if_neg fun near => near.1.2.2.not_gt (less.2.2.trans_le inOrder)]
  · rw [if_neg fun near => near.2.2.2.not_gt (inOrder.trans_lt greater.2.2),
      if_neg fun near => near.2.2.2.not_ge behind.2.2]

section Steady

variable
  {last : Knot}
  (starts : table.head? = some first)
  (ends : table.getLast? = some last)
  (numbers : ∀ knot ∈ table, knot.x.isNaN = false)
  (number : x.isNaN = false)
  (steady : ¬ table.Decreasing)

include starts ends numbers number steady

/-- Over the coordinate of a point the height is that of the first point there. -/
theorem interpolate_of_find?
    (found : table.find? (Knot.isAt x) = some knot)
    (wide : table = [knot] → knot.x - tolerance < knot.x ∨ knot.x < knot.x + tolerance)
    (span : Span) :
    table.interpolate x span = .ok knot.y := by
  cases table with
  | nil => nomatch starts
  | cons head rest =>
      cases starts
      by_cases segmented : rest = []
      · -- the table is the point that is looked for
        subst segmented
        have same := List.mem_singleton.1 (List.mem_of_find?_eq_some found)
        subst same
        have here := (isAt_iff numbers number List.mem_cons_self).1 (List.find?_some found)
        have level :=
          levelHeight?_of_single (numbers knot List.mem_cons_self) number here (wide rfl)
        show (match levelHeight? x knot knot with
          | some y => .ok y
          | none => .error ⟨.outsideTable, span⟩) = (.ok knot.y : Except Fault Float)
        rw [level]
      · rcases find?_spans_of_find? (ordered_of_not_decreasing numbers steady) numbers number
          segmented found with ⟨segment, there, high⟩
        rw [interpolate_eq rfl ends steady, there, ← high]

/-- Strictly between the ends there is some height. -/
theorem interpolate_of_between
    (low : first.x < x)
    (high : x < last.x)
    (span : Span) :
    ∃ y, table.interpolate x span = .ok y := by
  have low := (Number.lt_iff_rank.1 low).2.2
  have high := (Number.lt_iff_rank.1 high).2.2
  rw [interpolate_eq starts ends steady]
  cases table with
  | nil => nomatch starts
  | cons head rest =>
      cases starts
      have behind : last ∈ rest := by
        rcases List.mem_cons.1 (List.mem_of_getLast? ends) with rfl | member
        · exact absurd (low.trans high) (lt_irrefl _)
        · exact member
      rcases exists_spans numbers number low.le ⟨last, behind, high.le⟩ with
        ⟨segment, member, spanned⟩
      cases found : (segments (first :: rest)).find? (spans x) with
      | none => exact absurd spanned (List.find?_eq_none.1 found segment member)
      | some segment => exact ⟨_, rfl⟩

/-- Beyond the ends by the tolerance or more there is nothing. -/
theorem interpolate_of_beyond
    (beyond : x ≤ first.x - tolerance ∧ x < first.x ∨ last.x + tolerance ≤ x ∧ last.x < x)
    (span : Span) :
    table.interpolate x span = .error ⟨.outsideTable, span⟩ := by
  have ordered := ordered_of_not_decreasing numbers steady
  have inOrder := place_le_last ends ordered (List.mem_of_head? starts)
  have outside : rank x < first.place ∨ last.place < rank x :=
    beyond.imp (fun before => (Number.lt_iff_rank.1 before.2).2.2)
      (fun behind => (Number.lt_iff_rank.1 behind.2).2.2)
  rw [interpolate_eq starts ends steady,
    find?_spans_of_beyond starts ends ordered numbers number outside,
    levelHeight?_of_beyond inOrder beyond]

end Steady

/--
Take a table that is not empty, with a first and a last point, and coordinates that are
numbers.  A first coordinate that decreases somewhere is out of range, whatever is looked
for.  Otherwise a coordinate in the table has the height of the first point there; what
lies strictly between the ends has some height; and what lies beyond the ends by the
tolerance or more is out of range.  A table of one point has to be one in whose coordinate
the tolerance is not lost: that is the only table in which the point itself may be missed.
-/
theorem interpolation_honours_table
    (table : Table)
    {last : Knot}
    (starts : table.head? = some first)
    (ends : table.getLast? = some last)
    (numbers : ∀ knot ∈ table, knot.x.isNaN = false)
    (number : x.isNaN = false)
    (span : Span) :
    (table.Decreasing →
      ∃ fault, table.interpolate x span = .error fault ∧ fault.cause.kind = .range) ∧
    (¬ table.Decreasing →
      (∀ knot, table.find? (Knot.isAt x) = some knot →
        (table = [knot] → knot.x - tolerance < knot.x ∨ knot.x < knot.x + tolerance) →
          table.interpolate x span = .ok knot.y) ∧
      (first.x < x → x < last.x → ∃ y, table.interpolate x span = .ok y) ∧
      (x ≤ first.x - tolerance ∧ x < first.x ∨ last.x + tolerance ≤ x ∧ last.x < x →
        ∃ fault, table.interpolate x span = .error fault ∧ fault.cause.kind = .range)) := by
  refine ⟨fun decreasing => interpolate_of_decreasing decreasing x span, fun steady =>
    ⟨fun knot found wide => ?_, fun low high => ?_, fun beyond => ?_⟩⟩
  · exact interpolate_of_find? starts ends numbers number steady found wide span
  · exact interpolate_of_between starts ends numbers number steady low high span
  · exact ⟨_, interpolate_of_beyond starts ends numbers number steady beyond span, rfl⟩

/-- In a table with a jump at five the jump is read as its start, and seven lies behind it. -/
theorem jump_read_as_its_start :
    let table : Table := [⟨0, 0, {}⟩, ⟨5, 1, {}⟩, ⟨5, 2, {}⟩, ⟨10, 3, {}⟩]
    table.interpolate 5 {} = .ok 1 ∧
      (∃ y, table.interpolate 7 {} = .ok y) ∧
      ∃ fault, table.interpolate 20 {} = .error fault ∧ fault.cause.kind = .range := by
  intro table
  have numbers : ∀ knot ∈ table, knot.x.isNaN = false := by decide
  have steady : ¬ table.Decreasing := by decide
  have honours (x : Float) (number : x.isNaN = false) :=
    (interpolation_honours_table table rfl rfl numbers number {}).2 steady
  refine ⟨?_, ?_, ?_⟩
  · exact (honours 5 (by decide)).1 ⟨5, 1, {}⟩ (by rfl) fun single =>
      absurd (congrArg List.length single) (by decide)
  · exact (honours 7 (by decide)).2.1 (by decide) (by decide)
  · exact (honours 20 (by decide)).2.2 (.inr (by decide))

/-- In a table of one point far out the point itself is missed. -/
theorem single_point_far_out_missed :
    let table : Table := [⟨1e17, 5, {}⟩]
    table.find? (Knot.isAt 1e17) = some ⟨1e17, 5, {}⟩ ∧
      (1e17 : Float).isFinite ∧
      ¬ table.Decreasing ∧
      table.interpolate 1e17 {} = .error ⟨.outsideTable, {}⟩ := by
  intro table
  refine ⟨by rfl, by decide, by decide, ?_⟩
  decide

end Table

end GcodeTemplate
