import GcodeTemplate.Proofs.EnclosedSets
import GcodeTemplate.Regex.Grammar

/-!
# Groups, repetitions and choices in front of closing anchors

A choice ends in front of the parenthesis of the anchors as it ends by itself at the end of
the text, and what it consists of is read the same.
-/

namespace GcodeTemplate.Regex.Reader

variable {α : Type} {size count : Nat}

/-! ## Groups -/

theorem reflects_flagLetters (letters : List Char) :
    Reflects size count (flagLetters letters) (flagLetters letters) := by
  refine Reflects.bind ?_ fun flags => (reflects_check _).bind fun _ => reflects_pure flags
  induction letters with
  | nil => exact reflects_pure []
  | cons c letters ih =>
      rw [List.mapM_cons]
      exact (reflects_lift _).bind fun flag => ih.bind fun flags => reflects_pure (flag :: flags)

theorem takeWhile_append_closing
    {test : Char → Bool}
    (stops : test ')' = false)
    (rest : List Char) :
    (rest ++ closing).takeWhile test = rest.takeWhile test := by
  rw [List.takeWhile_append]
  split
  next whole =>
    rw [closing, List.takeWhile_cons, if_neg (by simp [stops]), List.append_nil,
      (List.takeWhile_sublist test).eq_of_length whole]
  next => rfl

theorem shrinks_flagLetters (letters : List Char) : Shrinks (flagLetters letters) :=
  (show Reflects 0 0 _ _ from reflects_flagLetters letters).shrinks

/-- The letters of flags end in front of a parenthesis as at the end of the text. -/
theorem reflects_flagChange : Reflects size count flagChange flagChange where
  shrinks := by
    refine shrinks_get fun seen => (shrinks_modify fun _ => List.drop_suffix _ _).bind fun _ => ?_
    refine (shrinks_check _).bind fun _ => (shrinks_flagLetters _).bind fun _ => ?_
    exact (shrinks_flagLetters _).bind fun on => (shrinks_flagLetters _).bind fun off =>
      shrinks_pure _
  reflectsAt input _ := by
    have same : input.closed.rest.takeWhile (fun c => c != ':' && c != ')') =
        input.rest.takeWhile fun c => c != ':' && c != ')' :=
      takeWhile_append_closing (by decide) input.rest
    refine reflectsAt_get ?_
    rw [same]
    refine reflectsAt_modify ?_ (Reflects.here ?_)
    · simp only [Input.closed, drop_takeWhile_append]
    · refine (reflects_check _).bind fun _ => (reflects_flagLetters _).bind fun _ => ?_
      exact (reflects_flagLetters _).bind fun on => (reflects_flagLetters _).bind fun off =>
        reflects_pure _

/-- The name of a group ends with an angle bracket, so it is not all that is left. -/
theorem groupName_of_whole
    {input : Input}
    (whole : input.rest.takeWhile (· != '>') = input.rest) :
    groupName input = none := by
  refine Option.eq_none_iff_forall_ne_some.2 fun result read => ?_
  rcases of_bind read with ⟨_, _, seen, read⟩
  cases seen
  rw [whole] at read
  rcases of_bind read with ⟨_, _, checked, read⟩
  cases (of_check checked).2
  rcases of_bind read with ⟨_, _, checked, read⟩
  cases (of_check checked).2
  rcases of_bind read with ⟨_, _, changed, read⟩
  cases changed
  rcases of_bind read with ⟨_, _, taken, _⟩
  rw [take_of_end List.drop_length] at taken
  nomatch taken

theorem reflects_groupName : Reflects size 2 groupName groupName where
  shrinks := by
    refine shrinks_get fun seen => (shrinks_check _).bind fun _ => ?_
    refine (shrinks_check _).bind fun _ => ?_
    refine (shrinks_modify fun _ => List.drop_suffix _ _).bind fun _ => ?_
    exact shrinks_take.bind fun _ => shrinks_pure ()
  reflectsAt input _ := by
    by_cases whole : input.closed.rest.takeWhile (· != '>') = input.closed.rest
    · intro _ left read
      nomatch (groupName_of_whole whole).symm.trans read
    · have same : input.closed.rest.takeWhile (· != '>') = input.rest.takeWhile (· != '>') :=
        takeWhile_append_of_ne (fun alone => whole (whole_closed (by decide) alone)) closing
      refine reflectsAt_get ?_
      rw [same]
      refine reflectsAt_check (reflectsAt_check (reflectsAt_modify ?_ (Reflects.here ?_)))
      · simp only [Input.closed, drop_takeWhile_append]
      · exact progresses_take.toReflects.bind fun _ => reflects_pure ()

theorem progresses_opening : Progresses size 2 opening opening := by
  refine progresses_takeAndSkip.bind fun _ => ?_
  refine reflects_checkSeen (fun input => ?_) fun _ => ?_
  · have same {text : List Char} (free : ')' ∉ text) :
        text.isPrefixOf input.closed.rest = text.isPrefixOf input.rest :=
      isPrefixOf_append_closing free input.rest
    simp only [List.any_cons, List.any_nil, same (show ')' ∉ ['?', '='] by decide),
      same (show ')' ∉ ['?', '!'] by decide), same (show ')' ∉ ['?', '<', '='] by decide),
      same (show ')' ∉ ['?', '<', '!'] by decide)]
  refine (reflects_eat (by decide)).bind fun named => ?_
  refine (reflects_eat (by decide)).bind fun short => ?_
  split
  · exact reflects_groupName.bind fun _ => reflects_pure _
  refine (reflects_eat (by decide)).bind fun changes => ?_
  split
  · refine reflects_flagChange.bind fun change => progresses_take.toReflects.bind fun c => ?_
    split
    · exact (reflects_check _).bind fun _ => reflects_pure _
    · exact reflects_pure _
  · exact reflects_pure _

/-! ## Repetitions -/

theorem reflects_bounds : Reflects size 3 bounds bounds := by
  refine (progresses_takeAndSkip.weaken (Nat.le_succ 2)).toReflects.bind fun _ => ?_
  refine (reflects_decimal.weaken (Nat.le_succ 2)).bind fun least => ?_
  refine ((reflects_takeIf _).weaken (Nat.le_succ 2)).bind fun comma => ?_
  split
  · exact reflects_pure _
  refine reflects_next.bind fun c => ?_
  split
  · exact reflects_pure _
  · exact (reflects_decimal.weaken (Nat.le_succ 2)).bind fun most =>
      (reflects_check _).bind fun _ => reflects_pure _

theorem progresses_repetition (operator : Char) :
    Progresses size 2 (repetition operator) (repetition operator) := by
  have taking (counts : Nat × Option Nat) :
      Progresses size 2 (take *> pure counts : Reader _) (take *> pure counts) := by
    rw [seqRight_eq_bind]
    exact progresses_take.bind fun _ => reflects_pure counts
  unfold repetition
  split
  · exact reflects_bounds.bindProgresses fun counts => progresses_takeAndSkip.bind fun _ =>
      (reflects_check _).bind fun _ => reflects_pure counts
  all_goals exact taking _

theorem progresses_repeatLast (operator : Char) (parts : List Written) :
    Progresses size 2 (repeatLast operator parts) (repeatLast operator parts) := by
  cases parts with
  | nil => exact progresses_fail _
  | cons part others =>
      refine (reflects_check _).bindProgresses fun _ => ?_
      refine (progresses_repetition operator).bind fun counts => ?_
      exact (reflects_eat (by decide)).bind fun reluctant => reflects_pure _

/-! ## Choices -/

theorem shrinks_primitive : Shrinks primitive := by
  refine shrinks_take.bind fun c => ?_
  split
  · exact shrinks_escape.map _
  all_goals exact shrinks_pure _

theorem takes_primitive : Takes primitive := by
  refine takes_take.bind fun c => ?_
  split
  · exact shrinks_escape.map _
  all_goals exact shrinks_pure _

theorem reflectsAt_primitive (input : Input) :
    ReflectsAt (fun _ stop => stop.Short 2 ∨ Dangling stop) primitive primitive input := by
  refine reflectsAt_take (fun ended found stop read => ?_) fun c rest first => ?_
  · cases read
    exact .inl Nat.one_lt_two
  · split
    · rw [map_eq_pure_bind]
      refine (reflectsAt_escape _).bind (fun found left _ _ => (reflects_pure _).or)
        fun found between part stop missing read => ?_
      cases read
      exact missing.imp_right And.left
    all_goals exact (reflects_pure _).or

theorem reflects_setExtended (extended : Bool) :
    Reflects size count (setExtended extended) (setExtended extended) :=
  reflects_modify (fun _ => rfl) fun _ => List.suffix_refl _

/-- A brace that dangles begins no counts. -/
theorem repeatLast_of_dangling
    {input : Input}
    (dangling : Dangling input)
    (parts : List Written) :
    repeatLast '{' parts input = none := by
  rcases dangling with ⟨_, brace, stop, taken, anchors⟩
  refine Option.eq_none_iff_forall_ne_some.2 fun result read => ?_
  cases parts with
  | nil => nomatch read
  | cons part others =>
      rcases of_bind read with ⟨_, _, checked, read⟩
      cases (of_check checked).2
      rcases of_bind read with ⟨_, _, counted, _⟩
      rcases of_bind counted with ⟨_, _, bounded, _⟩
      rcases of_bind bounded with ⟨_, _, takenAgain, bounded⟩
      cases taken.symm.trans takenAgain
      rcases of_bind bounded with ⟨_, _, least, _⟩
      nomatch (decimal_of_closing anchors).symm.trans least

/-- What is skipped is not a brace. -/
theorem skip_of_brace
    {input : Input}
    (brace : input.rest.head? = some '{') :
    skip input = some ((), input) := by
  rcases input with ⟨_ | ⟨c, rest⟩, _ | _, names⟩ <;> cases brace <;> rfl

/-- So nothing can be read where a brace dangles. -/
theorem choiceRest_of_dangling
    {input : Input}
    (dangling : Dangling input)
    (complete parts : List Written)
    (bound : Nat) :
    choiceRest complete parts bound input = none := by
  cases bound with
  | zero => rfl
  | succ bound =>
      refine Option.eq_none_iff_forall_ne_some.2 fun result read => ?_
      rcases of_bind read with ⟨_, _, skipped, read⟩
      cases (skip_of_brace dangling.1).symm.trans skipped
      rcases of_bind read with ⟨_, _, seen, read⟩
      cases seen
      rw [dangling.1] at read
      rcases of_bind read with ⟨_, _, repeated, _⟩
      nomatch (repeatLast_of_dangling dangling parts).symm.trans repeated

theorem reflects_primitive_bind
    {next nextOther : Written → Reader α}
    (second : ∀ part, Reflects (size - 1) 2 (next part) (nextOther part))
    (fails : ∀ part input, Dangling input → nextOther part input = none) :
    Reflects size 2 (primitive >>= next) (primitive >>= nextOther) where
  shrinks := shrinks_primitive.bind fun part => (second part).shrinks
  reflectsAt input fits := by
    refine (reflectsAt_primitive input).bind (fun part left _ read => ?_)
      fun part between b stop missing read => ?_
    · have shorter := takes_primitive.length_lt read
      exact (second part).reflectsAt left (by omega)
    · rcases missing with short | dangling
      · exact (second part).shrinks.short short read
      · nomatch (fails part between dangling).symm.trans read

/-- The rest of a choice, which ends where the parenthesis of the anchors comes next. -/
theorem reflects_choiceRest
    (complete parts : List Written)
    {bound more : Nat}
    (enough : size ≤ bound) :
    Reflects size 2 (choiceRest complete parts bound) (choiceRest complete parts more) := by
  -- on the rounds in front of the anchors, while the input by itself gets smaller
  induction more generalizing complete parts size bound with
  | zero => exact (progresses_fail _).toReflects
  | succ more ih =>
      refine .ofRounds (fun size bound enough => ?_) enough
      have ih {less : Nat} (fits : less ≤ size - 1) (complete parts : List Written) :
          Reflects less 2 (choiceRest complete parts bound) (choiceRest complete parts more) :=
        ih complete parts (by omega)
      refine reflects_skip.bind fun _ =>
        reflects_next? (reflects_pure _) (shrinks_pure _) fun c => ?_
      dsimp only
      split
      · contradiction
      · exact reflects_pure _
      · exact (progresses_take.bind fun _ => ih (Nat.le_refl _) _ []).toReflects
      · exact (progresses_bracketedSet.bind fun part => ih (Nat.le_refl _) complete _).toReflects
      · -- whether blanks count outside of the group does not depend on the anchors
        refine reflects_get fun input seen same => ?_
        rw [same]
        refine (progresses_opening.bind fun opening => ?_).toReflects
        cases opening with
        | flags change => exact (reflects_setExtended _).bind fun _ => ih (by omega) complete _
        | group captured change =>
            refine (reflects_setExtended _).bind fun _ => (ih (by omega) [] []).bind fun body => ?_
            refine (reflects_setExtended _).bind fun _ => ?_
            refine progresses_take.toReflects.bind fun c => ?_
            exact (reflects_check _).bind fun _ => ih (by omega) complete _
      · split
        · exact ((progresses_repeatLast _ parts).bind fun repeated =>
            ih (Nat.le_refl _) complete repeated).toReflects
        · exact reflects_primitive_bind (fun part => ih (Nat.le_refl _) complete _)
            fun part input dangling => choiceRest_of_dangling dangling complete _ more

end GcodeTemplate.Regex.Reader
