/-!
# Sets of characters

A set of characters is a list of ranges of code points, in any order and maybe
with overlaps.  Every operation has a law that says which characters it
contains; no other property of the list is used.
-/

namespace GcodeTemplate

/-- The code points from `first` to `last`, both included. -/
structure CodeRange where
  first : Nat
  last : Nat
deriving DecidableEq, Repr

namespace CodeRange

/-- Whether a code point lies in a range. -/
def contains (range : CodeRange) (code : Nat) : Bool :=
  range.first ≤ code && code ≤ range.last

/-- The part of a range that lies in another range. -/
def within (range bounds : CodeRange) : List CodeRange :=
  let first := max range.first bounds.first
  let last := min range.last bounds.last
  if first ≤ last then [⟨first, last⟩] else []

/-- The parts of a range below and above another range. -/
def without (range removed : CodeRange) : List CodeRange :=
  let below : List CodeRange :=
    if range.first < removed.first then
      [⟨range.first, min range.last (removed.first - 1)⟩]
    else
      []
  let above : List CodeRange :=
    if removed.last < range.last then
      [⟨max range.first (removed.last + 1), range.last⟩]
    else
      []
  below ++ above

/-- Whether two ranges have a code point in common. -/
def meets (range other : CodeRange) : Bool :=
  other.first ≤ range.last && range.first ≤ other.last

end CodeRange

/-- A set of characters. -/
structure CharSet where
  ranges : List CodeRange
deriving DecidableEq, Repr

namespace CharSet

/-- Whether a code point belongs to a set. -/
def containsCode (set : CharSet) (code : Nat) : Bool :=
  set.ranges.any (·.contains code)

/-- Whether a character belongs to a set. -/
def contains (set : CharSet) (c : Char) : Bool :=
  set.containsCode c.toNat

/-- The set without characters. -/
def empty : CharSet :=
  ⟨[]⟩

instance : EmptyCollection CharSet :=
  ⟨empty⟩

/-- The characters from `first` to `last`. -/
def range (first last : Char) : CharSet :=
  ⟨[⟨first.toNat, last.toNat⟩]⟩

/-- The set of one character. -/
def singleton (c : Char) : CharSet :=
  range c c

/-- The set of some characters. -/
def ofList (chars : List Char) : CharSet :=
  ⟨chars.map fun c => ⟨c.toNat, c.toNat⟩⟩

/-- All characters. -/
def all : CharSet :=
  ⟨[⟨0, 0x10FFFF⟩]⟩

/-- The characters of ASCII. -/
def ascii : CharSet :=
  ⟨[⟨0, 0x7F⟩]⟩

/-- The characters that belong to either of two sets. -/
def union (left right : CharSet) : CharSet :=
  ⟨left.ranges ++ right.ranges⟩

/-- The characters that belong to any of some sets. -/
def unions (sets : List CharSet) : CharSet :=
  ⟨sets.flatMap (·.ranges)⟩

/-- The characters that belong to both of two sets. -/
def inter (left right : CharSet) : CharSet :=
  ⟨left.ranges.flatMap fun range => right.ranges.flatMap range.within⟩

/-- The characters of the first set that do not belong to the second one. -/
def diff (left right : CharSet) : CharSet :=
  ⟨left.ranges.flatMap fun range =>
    (right.ranges.filter range.meets).foldl
      (fun kept removed => kept.flatMap (·.without removed)) [range]⟩

/-- The ranges of a set in ascending order. -/
def ascending (set : CharSet) : List CodeRange :=
  set.ranges.mergeSort fun range other => range.first ≤ other.first

/-- What lies from `next` up to the last code point between ranges in ascending order. -/
def gaps : (next : Nat) → List CodeRange → List CodeRange
  | next, [] => [⟨next, 0x10FFFF⟩]
  | next, range :: rest =>
      if next < range.first then
        ⟨next, range.first - 1⟩ :: gaps (max next (range.last + 1)) rest
      else
        gaps (max next (range.last + 1)) rest

/-- The characters that do not belong to a set. -/
def complement (set : CharSet) : CharSet :=
  ⟨gaps 0 set.ascending⟩

/-- The characters that belong to exactly one of two sets. -/
def symmDiff (left right : CharSet) : CharSet :=
  (left.diff right).union (right.diff left)

@[simp]
theorem containsCode_union (left right : CharSet) (code : Nat) :
    (left.union right).containsCode code =
      (left.containsCode code || right.containsCode code) := by
  simp [containsCode, union]

/-- What lies in the part of a range within another one lies in both of them. -/
theorem contains_within (range bounds : CodeRange) (code : Nat) :
    (range.within bounds).any (·.contains code) =
      (range.contains code && bounds.contains code) := by
  rw [Bool.eq_iff_iff]
  simp only [CodeRange.within, CodeRange.contains]
  split <;> simp <;> omega

@[simp]
theorem containsCode_inter (left right : CharSet) (code : Nat) :
    (left.inter right).containsCode code =
      (left.containsCode code && right.containsCode code) := by
  rw [Bool.eq_iff_iff]
  simp only [containsCode, inter, List.any_flatMap, contains_within, Bool.and_eq_true,
    List.any_eq_true]
  constructor
  · rintro ⟨first, firstMem, second, secondMem, inFirst, inSecond⟩
    exact ⟨⟨first, firstMem, inFirst⟩, ⟨second, secondMem, inSecond⟩⟩
  · rintro ⟨⟨first, firstMem, inFirst⟩, ⟨second, secondMem, inSecond⟩⟩
    exact ⟨first, firstMem, second, secondMem, inFirst, inSecond⟩

/-- What is left of a range without another one. -/
theorem contains_without (range removed : CodeRange) (code : Nat) :
    (range.without removed).any (·.contains code) =
      (range.contains code && ! removed.contains code) := by
  rw [Bool.eq_iff_iff]
  simp only [CodeRange.without, CodeRange.contains]
  split <;> split <;> simp <;> omega

/-- What is left of some ranges without another one. -/
theorem any_flatMap_without (kept : List CodeRange) (removed : CodeRange) (code : Nat) :
    (kept.flatMap (·.without removed)).any (·.contains code) =
      (kept.any (·.contains code) && ! removed.contains code) := by
  induction kept with
  | nil => rfl
  | cons range rest ih =>
      rw [List.flatMap_cons, List.any_append, contains_without, ih, List.any_cons,
        Bool.and_or_distrib_right]

/-- What is left of some ranges without some other ones. -/
theorem any_foldl_without (removed kept : List CodeRange) (code : Nat) :
    (removed.foldl (fun kept range => kept.flatMap (·.without range)) kept).any
        (·.contains code) =
      (kept.any (·.contains code) && ! removed.any (·.contains code)) := by
  induction removed generalizing kept with
  | nil => simp
  | cons range rest ih =>
      rw [List.foldl_cons, ih, any_flatMap_without, List.any_cons, Bool.not_or, Bool.and_assoc]

/-- A range that contains a code point of another one meets it. -/
theorem meets_of_contains {range other : CodeRange} {code : Nat}
    (inRange : range.contains code) (inOther : other.contains code) :
    range.meets other := by
  simp only [CodeRange.contains, CodeRange.meets, Bool.and_eq_true, decide_eq_true_eq] at *
  omega

@[simp]
theorem containsCode_diff (left right : CharSet) (code : Nat) :
    (left.diff right).containsCode code =
      (left.containsCode code && ! right.containsCode code) := by
  rw [Bool.eq_iff_iff]
  simp only [containsCode, diff, List.any_flatMap, any_foldl_without]
  simp only [List.any_cons, List.any_nil, Bool.or_false, List.any_eq_true, Bool.and_eq_true,
    Bool.not_eq_true', List.any_eq_false, List.mem_filter]
  constructor
  · rintro ⟨range, rangeMem, inRange, outside⟩
    exact ⟨⟨range, rangeMem, inRange⟩, fun other otherMem inOther =>
      outside other ⟨otherMem, meets_of_contains inRange inOther⟩ inOther⟩
  · rintro ⟨⟨range, rangeMem, inRange⟩, outside⟩
    exact ⟨range, rangeMem, inRange, fun other otherMem => outside other otherMem.1⟩

/-- No range in the list begins behind one that follows it. -/
theorem ascending_pairwise (set : CharSet) :
    set.ascending.Pairwise fun range other => range.first ≤ other.first := by
  have sorted := @List.pairwise_mergeSort CodeRange
    (fun range other => decide (range.first ≤ other.first))
    (by simp; omega) (by simp; omega) set.ranges
  simpa [ascending] using sorted

/-- Sorting the ranges does not change what they contain. -/
@[simp]
theorem any_ascending (set : CharSet) (code : Nat) :
    set.ascending.any (·.contains code) = set.containsCode code :=
  (List.mergeSort_perm _ _).any_eq

/-- The gaps contain what no range contains. -/
theorem any_gaps (ranges : List CodeRange) (next code : Nat)
    (ordered : ranges.Pairwise fun range other => range.first ≤ other.first)
    (valid : code ≤ 0x10FFFF) :
    (gaps next ranges).any (·.contains code) = true ↔
      next ≤ code ∧ ¬ ranges.any (·.contains code) = true := by
  induction ranges generalizing next with
  | nil => simp [gaps, CodeRange.contains, valid]
  | cons range rest ih =>
      obtain ⟨below, restOrdered⟩ := List.pairwise_cons.mp ordered
      have later : rest.any (·.contains code) = true → range.first ≤ code := by
        intro found
        obtain ⟨other, otherMem, inOther⟩ := List.any_eq_true.mp found
        have inOrder := below other otherMem
        simp only [CodeRange.contains, Bool.and_eq_true, decide_eq_true_eq] at inOther
        omega
      rw [gaps]
      split <;>
        simp only [List.any_cons, Bool.or_eq_true, ih _ restOrdered] <;>
        generalize rest.any (·.contains code) = inRest at later ⊢ <;>
        cases inRest <;>
        simp [CodeRange.contains] at later ⊢ <;>
        omega

/-- A character belongs to the complement if it does not belong to the set. -/
@[simp]
theorem contains_complement (set : CharSet) (c : Char) :
    set.complement.contains c = ! set.contains c := by
  have valid : c.toNat ≤ 0x10FFFF := by
    have := c.valid
    simp only [UInt32.isValidChar, Nat.isValidChar] at this
    simp only [Char.toNat]
    omega
  rw [Bool.eq_iff_iff, contains, containsCode, complement,
    any_gaps _ _ _ set.ascending_pairwise valid]
  simp [contains]

/-- Ranges in ascending order, with those joined that overlap or touch. -/
def join : List CodeRange → List CodeRange
  | [] => []
  | [range] => [range]
  | range :: next :: rest =>
      if next.first ≤ range.last + 1 then
        join (⟨range.first, max range.last next.last⟩ :: rest)
      else
        range :: join (next :: rest)
termination_by ranges => ranges.length

/-- The same set, with its ranges in ascending order and as few of them as possible. -/
def merged (set : CharSet) : CharSet :=
  ⟨join set.ascending⟩

/-- What ranges in ascending order contain is not changed when they are joined. -/
theorem any_join (ranges : List CodeRange) (code : Nat)
    (ordered : ranges.Pairwise fun range other => range.first ≤ other.first) :
    (join ranges).any (·.contains code) = ranges.any (·.contains code) := by
  fun_induction join ranges with
  | case1 => rfl
  | case2 range => rfl
  | case3 range next rest touches ih =>
      obtain ⟨below, restOrdered⟩ := List.pairwise_cons.mp ordered
      have inOrder : range.first ≤ next.first := below next (by simp)
      rw [ih]
      · simp only [List.any_cons, ← Bool.or_assoc]
        congr 1
        rw [Bool.eq_iff_iff]
        simp only [CodeRange.contains, Bool.or_eq_true, Bool.and_eq_true, decide_eq_true_eq]
        omega
      · exact List.pairwise_cons.mpr
          ⟨fun other otherMem => below other (by simp [otherMem]),
            (List.pairwise_cons.mp restOrdered).2⟩
  | case4 range next rest apart ih =>
      obtain ⟨_, restOrdered⟩ := List.pairwise_cons.mp ordered
      rw [List.any_cons, List.any_cons, ih restOrdered]

@[simp]
theorem containsCode_merged (set : CharSet) (code : Nat) :
    set.merged.containsCode code = set.containsCode code := by
  rw [containsCode, merged, any_join _ _ set.ascending_pairwise, any_ascending]

@[simp]
theorem merged_singleton (c : Char) :
    (singleton c).merged = singleton c := by
  rw [merged, ascending, singleton, range, List.mergeSort_singleton, join]

end CharSet

end GcodeTemplate
