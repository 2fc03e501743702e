import GcodeTemplate.Regex.Search

/-!
# The search finds exactly what matches

The search keeps increasing lists of positions.  A position is in the list that it
comes to if and only if a match leads there from a position that it began with.  For
a repetition this needs two things: positions from which a step was taken already need
no other one, and as matches do not go back, more steps than there are characters lead
nowhere that fewer steps do not lead to.
-/

namespace GcodeTemplate.Regex

/-! ## Increasing lists of positions -/

/-- The positions of a list increase. -/
abbrev Increasing (positions : List Nat) : Prop :=
  positions.Pairwise (· < ·)

theorem mem_merge
    {n : Nat}
    (left right : List Nat) :
    n ∈ merge left right ↔ n ∈ left ∨ n ∈ right := by
  fun_induction merge left right with
  | case1 right => simp
  | case2 left => simp
  | case3 m left n right less ih => simp [ih, or_assoc]
  | case4 m left n right notLess less ih =>
      simp only [List.mem_cons, ih]
      grind
  | case5 m left n right notLess notGreater ih =>
      obtain rfl : m = n := by omega
      simp only [List.mem_cons, ih]
      grind

theorem increasing_merge
    {left right : List Nat}
    (leftIncreases : Increasing left)
    (rightIncreases : Increasing right) :
    Increasing (merge left right) := by
  fun_induction merge left right with
  | case1 right => exact rightIncreases
  | case2 left => exact leftIncreases
  | case3 m left n right less ih =>
      have ⟨aboveLeft, leftRest⟩ := List.pairwise_cons.1 leftIncreases
      have ⟨aboveRight, _⟩ := List.pairwise_cons.1 rightIncreases
      refine List.pairwise_cons.2 ⟨fun k member => ?_, ih leftRest rightIncreases⟩
      rcases (mem_merge _ _).1 member with there | there
      · exact aboveLeft k there
      · rcases List.mem_cons.1 there with rfl | there
        · exact less
        · exact Nat.lt_trans less (aboveRight k there)
  | case4 m left n right notLess less ih =>
      have ⟨aboveLeft, _⟩ := List.pairwise_cons.1 leftIncreases
      have ⟨aboveRight, rightRest⟩ := List.pairwise_cons.1 rightIncreases
      refine List.pairwise_cons.2 ⟨fun k member => ?_, ih leftIncreases rightRest⟩
      rcases (mem_merge _ _).1 member with there | there
      · rcases List.mem_cons.1 there with rfl | there
        · exact less
        · exact Nat.lt_trans less (aboveLeft k there)
      · exact aboveRight k there
  | case5 m left n right notLess notGreater ih =>
      obtain rfl : m = n := by omega
      have ⟨aboveLeft, leftRest⟩ := List.pairwise_cons.1 leftIncreases
      have ⟨aboveRight, rightRest⟩ := List.pairwise_cons.1 rightIncreases
      refine List.pairwise_cons.2 ⟨fun k member => ?_, ih leftRest rightRest⟩
      rcases (mem_merge _ _).1 member with there | there
      · exact aboveLeft k there
      · exact aboveRight k there

theorem without_sublist (left right : List Nat) :
    (without left right).Sublist left := by
  fun_induction without left right with
  | case1 right => exact .slnil
  | case2 left => exact .refl left
  | case3 m left n right less ih => exact ih.cons_cons m
  | case4 m left n right notLess less ih => exact ih
  | case5 m left n right notLess notGreater ih => exact ih.cons m

/-- Of increasing lists, no position of the second one is left. -/
theorem mem_without
    {left right : List Nat}
    (leftIncreases : Increasing left)
    (rightIncreases : Increasing right)
    (k : Nat) :
    k ∈ without left right ↔ k ∈ left ∧ k ∉ right := by
  fun_induction without left right with
  | case1 right => simp
  | case2 left => simp
  | case3 m left n right less ih =>
      have ⟨_, leftRest⟩ := List.pairwise_cons.1 leftIncreases
      have ⟨aboveRight, _⟩ := List.pairwise_cons.1 rightIncreases
      have missing : m ∉ n :: right := by
        intro member
        rcases List.mem_cons.1 member with rfl | there
        · omega
        · exact absurd (aboveRight m there) (by omega)
      rw [List.mem_cons, ih leftRest rightIncreases]
      grind
  | case4 m left n right notLess less ih =>
      have ⟨aboveLeft, _⟩ := List.pairwise_cons.1 leftIncreases
      have ⟨_, rightRest⟩ := List.pairwise_cons.1 rightIncreases
      have missing : n ∉ m :: left := by
        intro member
        rcases List.mem_cons.1 member with rfl | there
        · omega
        · exact absurd (aboveLeft n there) (by omega)
      rw [ih leftIncreases rightRest]
      grind
  | case5 m left n right notLess notGreater ih =>
      obtain rfl : m = n := by omega
      have ⟨aboveLeft, leftRest⟩ := List.pairwise_cons.1 leftIncreases
      have ⟨_, rightRest⟩ := List.pairwise_cons.1 rightIncreases
      have missing : m ∉ left := fun there => Nat.lt_irrefl m (aboveLeft m there)
      rw [ih leftRest rightRest]
      grind

/-- Positions of a text of a given size, in increasing order. -/
structure Within (size : Nat) (positions : List Nat) : Prop where
  increasing : Increasing positions
  le {m : Nat} : m ∈ positions → m ≤ size

namespace Within

variable {size : Nat} {left right : List Nat}

theorem nil (size : Nat) : Within size [] where
  increasing := .nil
  le member := nomatch member

theorem merge
    (leftWithin : Within size left)
    (rightWithin : Within size right) :
    Within size (merge left right) where
  increasing := increasing_merge leftWithin.increasing rightWithin.increasing
  le member := ((mem_merge _ _).1 member).elim leftWithin.le rightWithin.le

theorem sublist
    (within : Within size right)
    (sublist : left.Sublist right) :
    Within size left where
  increasing := within.increasing.sublist sublist
  le member := within.le (sublist.subset member)

end Within

/-! ## Steps that are taken several times -/

namespace Steps

variable {leads : Nat → Nat → Prop} {count more start between stop : Nat}

theorem one (first : leads start stop) : Steps leads 1 start stop :=
  .more first (.none stop)

theorem append
    (front : Steps leads count start between)
    (back : Steps leads more between stop) :
    Steps leads (count + more) start stop := by
  induction front with
  | none start =>
      simpa using back
  | more first _ ih =>
      rw [Nat.add_right_comm]
      exact .more first (ih back)

theorem split (run : Steps leads (count + more) start stop) :
    ∃ between, Steps leads count start between ∧ Steps leads more between stop := by
  induction count generalizing start with
  | zero =>
      exact ⟨start, .none start, by simpa using run⟩
  | succ count ih =>
      rw [Nat.add_right_comm] at run
      cases run with
      | more first rest =>
          rcases ih rest with ⟨between, front, back⟩
          exact ⟨between, .more first front, back⟩

variable (forward : ∀ {m n}, leads m n → m ≤ n)

include forward

theorem le (run : Steps leads count start stop) : start ≤ stop := by
  induction run with
  | none start => exact Nat.le_refl start
  | more first _ ih => exact Nat.le_trans (forward first) ih

/-- Of steps that do not go back, as many are enough as there are positions, or one. -/
theorem shorten (run : Steps leads (count + 1) start stop) :
    ∃ fewer, 0 < fewer ∧ fewer ≤ max 1 (stop - start) ∧ Steps leads fewer start stop := by
  induction count generalizing start with
  | zero =>
      exact ⟨1, by omega, by omega, run⟩
  | succ count ih =>
      cases run with
      | @more _ _ between _ first rest =>
          rcases ih rest with ⟨fewer, positive, bounded, shorter⟩
          have ahead := forward first
          have behind := rest.le forward
          -- a step on the spot is left out, and so is what follows a step to the end
          rcases Nat.eq_or_lt_of_le ahead with rfl | moved
          · exact ⟨fewer, positive, bounded, shorter⟩
          · rcases Nat.eq_or_lt_of_le behind with rfl | remaining
            · exact ⟨1, by omega, by omega, .one first⟩
            · exact ⟨fewer + 1, by omega, by omega, .more first shorter⟩

end Steps

/-- Ending early makes no difference, because the step would change nothing any more. -/
theorem settle_succ
    (step : List Nat → List Nat)
    (count : Nat)
    (positions : List Nat) :
    settle step (count + 1) positions = settle step count (step positions) := by
  simp only [settle]
  split
  next same =>
    rw [same]
    cases count with
    | zero => rfl
    | succ count => simp [settle, same]
  next =>
    rfl

/--
In a text of a given size, a step on lists of positions finds exactly where a relation
leads to, and this relation does not go back.
-/
structure Finds
    (size : Nat)
    (leads : Nat → Nat → Prop)
    (step : List Nat → List Nat) : Prop where
  forward {m n : Nat} : leads m n → m ≤ n
  within {starts : List Nat} : Within size starts → Within size (step starts)
  mem {starts : List Nat} {n : Nat} :
    Within size starts → (n ∈ step starts ↔ ∃ m ∈ starts, leads m n)

namespace Finds

variable
  {size : Nat}
  {leads : Nat → Nat → Prop}
  {step : List Nat → List Nat}
  (finds : Finds size leads step)

include finds

/-- A step that is repeated finds what that many steps lead to. -/
theorem settle (count : Nat) : Finds size (Steps leads count) (settle step count) where
  forward run := run.le finds.forward
  within := by
    induction count with
    | zero =>
        exact id
    | succ count ih =>
        intro starts within
        rw [settle_succ]
        exact ih (finds.within within)
  mem := by
    induction count with
    | zero =>
        intro starts n within
        constructor
        · exact fun member => ⟨n, member, .none n⟩
        · rintro ⟨m, member, run⟩
          cases run
          exact member
    | succ count ih =>
        intro starts n within
        rw [settle_succ, ih (finds.within within)]
        constructor
        · rintro ⟨between, member, rest⟩
          rcases (finds.mem within).1 member with ⟨m, there, first⟩
          exact ⟨m, there, .more first rest⟩
        · rintro ⟨m, member, run⟩
          cases run with
          | more first rest =>
              exact ⟨_, (finds.mem within).2 ⟨m, member, first⟩, rest⟩

end Finds

/-! ## Spreading from position to position -/

/-- What is reached from some positions by some steps, up to a number of them. -/
def Reached
    (leads : Nat → Nat → Prop)
    (rounds : Nat)
    (frontier : List Nat)
    (n : Nat) : Prop :=
  ∃ m ∈ frontier, ∃ count, 0 < count ∧ count ≤ rounds ∧ Steps leads count m n

/--
Wherever a step leads to from a position that is done, that has been reached; and it is
done as well, or it is one to go on from.
-/
def Explored
    (leads : Nat → Nat → Prop)
    (frontier done reached : List Nat) : Prop :=
  ∀ d ∈ done, ∀ n, leads d n → n ∈ reached ∧ (n ∈ done ∨ n ∈ frontier)

/-- What can be reached from a position that is done need not be reached from there. -/
theorem Explored.reached_of_steps
    {leads : Nat → Nat → Prop}
    {frontier done reached : List Nat}
    (explored : Explored leads frontier done reached)
    {rounds d n : Nat}
    (member : d ∈ done)
    (run : Steps leads (rounds + 1) d n) :
    n ∈ reached ∨ Reached leads rounds frontier n := by
  induction rounds generalizing d with
  | zero =>
      cases run with
      | more first rest =>
          cases rest
          exact .inl (explored d member n first).1
  | succ rounds ih =>
      cases run with
      | more first rest =>
          rcases (explored d member _ first).2 with again | ahead
          · rcases ih again rest with there | ⟨m, begun, count, positive, bounded, steps⟩
            · exact .inl there
            · exact .inr ⟨m, begun, count, positive, by omega, steps⟩
          · exact .inr ⟨_, ahead, rounds + 1, by omega, by omega, rest⟩

namespace Finds

variable
  {size : Nat}
  {leads : Nat → Nat → Prop}
  {step : List Nat → List Nat}
  (finds : Finds size leads step)

include finds

/-- A round takes a step from the frontier, and goes on from what has not been done. -/
theorem explored_round
    {frontier done reached : List Nat}
    (frontierWithin : Within size frontier)
    (doneWithin : Within size done)
    (explored : Explored leads frontier done reached) :
    Explored leads (without (step frontier) (merge done frontier)) (merge done frontier)
      (merge reached (step frontier)) := by
  intro d member n first
  simp only [mem_merge, mem_without (finds.within frontierWithin).increasing
    (doneWithin.merge frontierWithin).increasing] at member ⊢
  rcases member with old | new
  · have ⟨there, known⟩ := explored d old n first
    exact ⟨.inl there, .inl known⟩
  · have found := (finds.mem frontierWithin).2 ⟨d, new, first⟩
    grind

theorem spread_within
    {rounds : Nat}
    {frontier done reached : List Nat}
    (frontierWithin : Within size frontier)
    (reachedWithin : Within size reached) :
    Within size (spread step rounds frontier done reached) := by
  induction rounds generalizing frontier done reached with
  | zero =>
      exact reachedWithin
  | succ rounds ih =>
      have found := finds.within frontierWithin
      simp only [spread]
      split
      · exact reachedWithin.merge found
      · exact ih (found.sublist (without_sublist _ _)) (reachedWithin.merge found)

/-- One step more from the frontier is the step of a round, or goes on from what is new then. -/
theorem reached_succ_iff
    {rounds : Nat}
    {frontier done reached : List Nat}
    (frontierWithin : Within size frontier)
    (doneWithin : Within size done)
    (explored : Explored leads frontier done reached)
    (n : Nat) :
    n ∈ merge reached (step frontier) ∨
        Reached leads rounds (without (step frontier) (merge done frontier)) n ↔
      n ∈ reached ∨ Reached leads (rounds + 1) frontier n := by
  rw [mem_merge, finds.mem frontierWithin]
  constructor
  · rintro ((there | ⟨m, member, first⟩) | ⟨m, member, count, positive, bounded, steps⟩)
    · exact .inl there
    · exact .inr ⟨m, member, 1, by omega, by omega, .one first⟩
    · rcases (finds.mem frontierWithin).1 ((without_sublist _ _).subset member) with
        ⟨start, there, first⟩
      exact .inr ⟨start, there, count + 1, by omega, by omega, .more first steps⟩
  · rintro (there | ⟨m, member, count, positive, bounded, steps⟩)
    · exact .inl (.inl there)
    · obtain ⟨count, rfl⟩ : ∃ less, count = less + 1 := ⟨count - 1, by omega⟩
      -- the positions of the frontier are done now, so what they lead to is known
      have expanded : m ∈ merge done frontier := (mem_merge _ _).2 (.inr member)
      have exploredNext := finds.explored_round frontierWithin doneWithin explored
      rcases exploredNext.reached_of_steps expanded steps with
        there | ⟨start, begun, fewer, positive, bound, rest⟩
      · rw [mem_merge, finds.mem frontierWithin] at there
        exact .inl there
      · exact .inr ⟨start, begun, fewer, positive, by omega, rest⟩

/-- The positions that come to be reached are those that steps lead to from the frontier. -/
theorem mem_spread
    {rounds : Nat}
    {frontier done reached : List Nat}
    (frontierWithin : Within size frontier)
    (doneWithin : Within size done)
    (explored : Explored leads frontier done reached)
    (n : Nat) :
    n ∈ spread step rounds frontier done reached ↔
      n ∈ reached ∨ Reached leads rounds frontier n := by
  induction rounds generalizing frontier done reached with
  | zero =>
      refine ⟨.inl, fun member => member.elim id ?_⟩
      rintro ⟨m, _, count, positive, bounded, _⟩
      omega
  | succ rounds ih =>
      have freshWithin : Within size (without (step frontier) (merge done frontier)) :=
        (finds.within frontierWithin).sublist (without_sublist _ _)
      rw [← finds.reached_succ_iff frontierWithin doneWithin explored]
      simp only [spread]
      split
      next none =>
        rw [List.isEmpty_iff.1 none]
        refine ⟨.inl, fun member => member.elim id ?_⟩
        rintro ⟨m, impossible, _⟩
        nomatch impossible
      next =>
        exact ih freshWithin (doneWithin.merge frontierWithin)
          (finds.explored_round frontierWithin doneWithin explored)

/-- Steps do not lead out of the text. -/
theorem le_size
    {m n : Nat}
    (inside : m ≤ size)
    (first : leads m n) :
    n ≤ size := by
  have single : Within size [m] := ⟨List.pairwise_singleton _ m, by simpa using inside⟩
  exact (finds.within single).le ((finds.mem single).2 ⟨m, List.mem_singleton_self m, first⟩)

/-- Without a limit, one step more than there are characters is as good as any number. -/
theorem reached_iff
    {frontier : List Nat}
    (within : Within size frontier)
    (limit : Option Nat)
    (n : Nat) :
    Reached leads (limit.getD (size + 1)) frontier n ↔
      ∃ m ∈ frontier, ∃ count, 0 < count ∧ (∀ bound ∈ limit, count ≤ bound) ∧
        Steps leads count m n := by
  constructor
  · rintro ⟨m, member, count, positive, bounded, steps⟩
    refine ⟨m, member, count, positive, ?_, steps⟩
    rintro bound rfl
    exact bounded
  · rintro ⟨m, member, count, positive, bounded, steps⟩
    cases limit with
    | some bound =>
        exact ⟨m, member, count, positive, bounded bound rfl, steps⟩
    | none =>
        obtain ⟨count, rfl⟩ : ∃ less, count = less + 1 := ⟨count - 1, by omega⟩
        have inside := (finds.settle _).le_size (within.le member) steps
        rcases steps.shorten finds.forward with ⟨fewer, positive, bounded, shorter⟩
        exact ⟨m, member, fewer, positive, by simp only [Option.getD_none]; omega, shorter⟩

/-- A repetition finds what the allowed numbers of steps lead to. -/
theorem repeatStep (least : Nat) (most : Option Nat) :
    Finds size
      (fun m n => ∃ count, least ≤ count ∧ (∀ bound ∈ most, count ≤ bound) ∧
        Steps leads count m n)
      (repeatStep step (size + 1) least most) where
  forward := by
    rintro m n ⟨count, _, _, steps⟩
    exact steps.le finds.forward
  within := by
    intro starts within
    cases least with
    | zero => exact finds.spread_within within within
    | succ least => exact finds.spread_within ((finds.settle least).within within) (.nil size)
  mem := by
    intro starts n within
    have unexplored (frontier reached : List Nat) : Explored leads frontier [] reached :=
      fun d member => nomatch member
    cases least with
    | zero =>
        rw [Regex.repeatStep, finds.mem_spread within (.nil size) (unexplored _ _),
          finds.reached_iff within]
        constructor
        · rintro (member | ⟨m, member, count, _, bounded, steps⟩)
          · exact ⟨n, member, 0, Nat.le_refl 0, fun bound _ => Nat.zero_le bound, .none n⟩
          · exact ⟨m, member, count, Nat.zero_le count, bounded, steps⟩
        · rintro ⟨m, member, count, _, bounded, steps⟩
          cases steps with
          | none => exact .inl member
          | more first rest => exact .inr ⟨m, member, _, Nat.succ_pos _, bounded, .more first rest⟩
    | succ least =>
        have settled := finds.settle least
        rw [Regex.repeatStep, finds.mem_spread (settled.within within) (.nil size)
          (unexplored _ _), finds.reached_iff (settled.within within)]
        simp only [List.not_mem_nil, false_or, settled.mem within]
        constructor
        · rintro ⟨between, ⟨m, member, front⟩, count, positive, bounded, back⟩
          refine ⟨m, member, least + count, by omega, fun bound limit => ?_, front.append back⟩
          have fits := bounded (bound - least) (by simp [Option.mem_def.1 limit])
          omega
        · rintro ⟨m, member, count, enough, bounded, steps⟩
          obtain ⟨further, rfl⟩ : ∃ further, count = least + further := ⟨count - least, by omega⟩
          rcases steps.split with ⟨between, front, back⟩
          refine ⟨between, ⟨m, member, front⟩, further, by omega, fun bound limited => ?_, back⟩
          rcases Option.map_eq_some_iff.1 limited with ⟨limit, found, rfl⟩
          have fits := bounded limit found
          omega

end Finds

/-! ## Matches -/

/-- The ends that the search finds are those of the matches that start where it starts. -/
theorem finds_ends
    (text : Array Char)
    (regex : Regex) :
    Finds text.size (regex.Matches text) (regex.ends text) := by
  induction regex with
  | empty =>
      refine ⟨fun same => Nat.le_of_eq same, id, fun within => ?_⟩
      simp [ends, Matches]
  | set chars =>
      refine ⟨?_, fun within => ⟨?_, fun member => ?_⟩, fun within => ?_⟩
      · rintro m n ⟨rfl, _⟩
        exact Nat.le_succ m
      · exact (within.increasing.filter _).map _ fun m n less => Nat.succ_lt_succ less
      · simp only [ends, List.mem_map, List.mem_filter, Option.any_eq_true] at member
        rcases member with ⟨m, ⟨_, c, there, _⟩, rfl⟩
        exact (Array.getElem?_eq_some_iff.1 there).1
      · simp only [ends, Matches, List.mem_map, List.mem_filter, Option.any_eq_true]
        grind
  | look condition word =>
      refine ⟨fun found => Nat.le_of_eq found.1, fun within => ?_, fun within => ?_⟩
      · exact within.sublist List.filter_sublist
      · simp only [ends, Matches, List.mem_filter]
        grind
  | sequence first second firstFinds secondFinds =>
      refine ⟨?_, fun within => secondFinds.within (firstFinds.within within), fun within => ?_⟩
      · rintro m n ⟨between, front, back⟩
        exact Nat.le_trans (firstFinds.forward front) (secondFinds.forward back)
      · simp only [ends, Matches, secondFinds.mem (firstFinds.within within),
          firstFinds.mem within]
        grind
  | choice left right leftFinds rightFinds =>
      refine ⟨?_, fun within => ?_, fun within => ?_⟩
      · rintro m n (found | found)
        · exact leftFinds.forward found
        · exact rightFinds.forward found
      · exact (leftFinds.within within).merge (rightFinds.within within)
      · simp only [ends, Matches, mem_merge, leftFinds.mem within, rightFinds.mem within]
        grind
  | repeated greedy least most body bodyFinds =>
      exact bodyFinds.repeatStep least most
  | group captured body bodyFinds =>
      exact bodyFinds

/-- A match that starts in a text ends in it. -/
theorem Matches.stop_le
    {text : Array Char}
    {regex : Regex}
    {start stop : Nat}
    (matched : regex.Matches text start stop)
    (inside : start ≤ text.size) :
    stop ≤ text.size := by
  have within : Within text.size [start] :=
    ⟨List.pairwise_singleton _ _, fun member => by
      cases List.mem_singleton.1 member
      exact inside⟩
  have finds := finds_ends text regex
  exact (finds.within within).le ((finds.mem within).2 ⟨start, List.mem_singleton.2 rfl, matched⟩)

/-- A regular expression is found in a text if it matches somewhere in it. -/
theorem isFoundIn_iff
    (regex : Regex)
    (subject : String) :
    regex.isFoundIn subject = true ↔
      ∃ start stop, start ≤ subject.toList.length ∧
        regex.Matches subject.toList.toArray start stop := by
  have finds := finds_ends subject.toList.toArray regex
  have within : Within subject.toList.toArray.size
      (List.range (subject.toList.toArray.size + 1)) :=
    ⟨List.pairwise_lt_range, fun member => Nat.lt_succ_iff.1 (List.mem_range.1 member)⟩
  constructor
  · intro found
    have some : regex.ends subject.toList.toArray
        (List.range (subject.toList.toArray.size + 1)) ≠ [] := by
      simpa [isFoundIn] using found
    rcases List.exists_mem_of_ne_nil _ some with ⟨stop, member⟩
    rcases (finds.mem within).1 member with ⟨start, inside, matched⟩
    exact ⟨start, stop, within.le inside, matched⟩
  · rintro ⟨start, stop, inside, matched⟩
    have member := (finds.mem within).2
      ⟨start, List.mem_range.2 (Nat.lt_succ_iff.2 inside), matched⟩
    simpa [isFoundIn] using List.ne_nil_of_mem member

end GcodeTemplate.Regex
