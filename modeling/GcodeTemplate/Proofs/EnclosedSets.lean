import GcodeTemplate.Proofs.EnclosedEscapes
import GcodeTemplate.Regex.SetReader

/-!
# Sets in brackets in front of closing anchors

The readers of a set look at the next character and at the one behind it.  A set ends with
a bracket and the name of a class with a colon, which the anchors do not have; so either
something of the text itself is left, or the set is not complete with the anchors either.
-/

namespace GcodeTemplate.Regex.Reader

variable {α β : Type} {size count : Nat}

/-! ## Looking ahead -/

/-- A condition on the next character and what is behind it that holds without the anchors. -/
theorem reflects_lookAhead
    {condition : Char → Input → Bool}
    (same : ∀ (c : Char) (input : Input), input.rest ≠ [] →
      condition c input.closed = condition c input)
    {yes no yesOther noOther : Reader α}
    (first : Reflects size 3 yes yesOther)
    (second : Reflects size 3 no noOther) :
    Reflects size 3
      (next >>= fun c => get >>= fun input => if condition c input then yes else no)
      (next >>= fun c => get >>= fun input => if condition c input then yesOther else noOther) := by
  have shrinks (c : Char) : Shrinks
      (get >>= fun input => if condition c input then yesOther else noOther) := by
    refine shrinks_get fun seen => ?_
    split
    · exact first.shrinks
    · exact second.shrinks
  refine ⟨shrinks_next.bind shrinks, fun input fits => ?_⟩
  refine (reflects_next.reflectsAt input fits).bind (fun c left alone read => ?_)
    fun c _ _ _ short => (shrinks c).short short
  have fits := Nat.lt_of_le_of_lt (shrinks_next.length_le read) fits
  have remains : left.rest ≠ [] := by
    intro ended
    rw [next_apply] at alone
    rcases Option.map_eq_some_iff.1 alone with ⟨_, found, same⟩
    cases same
    rw [ended] at found
    nomatch found
  refine reflectsAt_get ?_
  rw [same c left remains]
  split
  · exact first.reflectsAt left fits
  · exact second.reflectsAt left fits

/-! ## Texts up to a sign -/

/-- What is taken does not go on over the anchors unless it is all there is. -/
theorem takeWhile_append_of_ne
    {test : Char → Bool}
    {rest : List Char}
    (short : rest.takeWhile test ≠ rest)
    (suffix : List Char) :
    (rest ++ suffix).takeWhile test = rest.takeWhile test := by
  rw [List.takeWhile_append, if_neg]
  exact fun whole => short ((List.takeWhile_sublist test).eq_of_length whole)

theorem drop_takeWhile_append
    (test : Char → Bool)
    (rest suffix : List Char) :
    (rest ++ suffix).drop (rest.takeWhile test).length =
      rest.drop (rest.takeWhile test).length ++ suffix :=
  List.drop_append_of_le_length (List.takeWhile_sublist test).length_le

/-- Without a sign that anchors do not have, the anchors are taken as well. -/
theorem whole_closed
    {sign : Char}
    (absent : sign ∉ closing)
    {input : Input}
    (whole : input.rest.takeWhile (· != sign) = input.rest) :
    input.closed.rest.takeWhile (· != sign) = input.closed.rest := by
  simp only [closing, List.mem_cons, List.not_mem_nil, or_false, not_or] at absent
  simp [Input.closed, List.takeWhile_append, whole, closing, Ne.symm absent.1, Ne.symm absent.2]

/--
What is read up to a sign is the same if what is read behind it cannot be read at the end
of the text: then the sign has to be there.
-/
theorem oblivious_upTo
    (sign : Char)
    (absent : sign ∉ closing)
    (next : List Char → Reader α)
    (oblivious : ∀ text, Oblivious (next text))
    (needs : ∀ text input, input.rest = [] → next text input = none) :
    Oblivious (do
      let text := (← get).rest.takeWhile (· != sign)
      modify fun input => { input with rest := input.rest.drop text.length }
      next text) := by
  intro input
  show next _ { input.closed with rest := input.closed.rest.drop _ } =
    (next _ { input with rest := input.rest.drop _ }).map _
  by_cases whole : input.rest.takeWhile (· != sign) = input.rest
  · rw [whole, whole_closed absent whole, List.drop_length, List.drop_length, needs _ _ rfl,
      needs _ _ rfl]
    rfl
  · simp only [Input.closed, takeWhile_append_of_ne whole, drop_takeWhile_append]
    exact oblivious _ { input with rest := _ }

/-- The name of a class ends with a colon. -/
theorem oblivious_asciiClass : Oblivious asciiClass := by
  refine (oblivious_eat (by decide)).bind fun _ => (oblivious_check _).bind fun _ => ?_
  refine (oblivious_eat (by decide)).bind fun negated => ?_
  have needs (name : List Char) (input : Input) : input.rest = [] → (do
      check (← eat [':', ']'])
      let letters ← AsciiClass.ofName? (.ofList name)
      pure (.ascii negated letters) : Reader SetItem) input = none := by
    intro ended
    rcases input with ⟨_, extended, names⟩
    cases ended
    rfl
  refine oblivious_upTo ':' (by decide) _ (fun name => ?_) needs
  exact (oblivious_eat (by decide)).bind fun _ => (oblivious_check _).bind fun _ =>
    (oblivious_lift _).bind fun _ => oblivious_pure _

theorem takes_eat
    {text : List Char}
    (some : text ≠ [])
    {input left : Input}
    (read : eat text input = .some (true, left)) :
    left.rest.length < input.rest.length := by
  rw [eat_apply] at read
  split at read <;> cases read
  next found =>
    have short := (List.isPrefixOf_iff_prefix.1 found).length_le
    have positive := List.length_pos_iff.2 some
    simp only [List.length_drop]
    omega

/-- What begins with some text that has to be there. -/
theorem consumes_eat
    {text : List Char}
    (some : text ≠ [])
    {next : Unit → Reader α}
    (shrinks : ∀ a, Shrinks (next a)) :
    Shrinks (eat text >>= fun found => check found >>= next) ∧
      Takes (eat text >>= fun found => check found >>= next) := by
  have behind (found : Bool) : Shrinks (check found >>= next) := (shrinks_check found).bind shrinks
  refine ⟨(shrinks_eat text).bind behind, fun input a left read => ?_⟩
  rcases of_bind read with ⟨_ | _, between, found, read⟩
  · nomatch read
  · exact Nat.lt_of_le_of_lt (behind true between a left read).length_le (takes_eat some found)

theorem consumes_asciiClass : Shrinks asciiClass ∧ Takes asciiClass := by
  refine consumes_eat (List.cons_ne_nil _ _) fun _ => ?_
  refine (shrinks_eat _).bind fun negated => shrinks_get fun seen => ?_
  refine (shrinks_modify fun _ => List.drop_suffix _ _).bind fun _ => ?_
  refine (shrinks_eat _).bind fun _ => (shrinks_check _).bind fun _ => ?_
  exact (shrinks_lift _).bind fun _ => shrinks_pure _

theorem reflects_attempt_asciiClass :
    Reflects size count (attempt asciiClass) (attempt asciiClass) :=
  oblivious_asciiClass.attempt.reflects consumes_asciiClass.1.attempt

/-! ## Sets in brackets -/

/-- A sign that is no blank comes first if it comes first when blanks are left out. -/
theorem head?_dropWhile_of_head?
    {rest : List Char}
    {sign : Char}
    (notBlank : Text.isBlank sign = false)
    (first : rest.head? = some sign) :
    (rest.dropWhile Text.isBlank).head? = some sign := by
  cases rest with
  | nil => nomatch first
  | cons c rest =>
      cases first
      rw [List.dropWhile_cons, if_neg (by simp [notBlank])]
      rfl

/-- A sign that is looked for behind the next character is not found in the anchors. -/
theorem charAfterNext?_closed
    {input : Input}
    (remains : input.rest ≠ [])
    (sign : Char)
    (plain : (Text.isBlank sign || sign == '#' || sign == ')') = false) :
    (charAfterNext? input.closed == some sign) = (charAfterNext? input == some sign) := by
  simp only [Bool.or_eq_false_iff, beq_eq_false_iff_ne] at plain
  rcases plain with ⟨⟨notBlank, notHash⟩, notClosing⟩
  have blank : Text.isBlank ')' = false := by decide
  have anchor : (some ')' == some sign) = false := by simpa using Ne.symm notClosing
  rcases input with ⟨_ | ⟨c, behind⟩, _ | _, names⟩
  · exact absurd rfl remains
  · exact absurd rfl remains
  · cases behind with
    | nil => exact anchor
    | cons d rest => rfl
  · simp only [charAfterNext?, Input.closed, List.cons_append, List.drop_succ_cons,
      List.drop_zero, dropWhile_append_closing blank, if_true]
    have first : behind.head? = some sign → (behind.dropWhile Text.isBlank).head? = some sign :=
      head?_dropWhile_of_head? notBlank
    cases found : behind.dropWhile Text.isBlank with
    | nil =>
        rw [found] at first
        have absent : (behind.head? == some sign) = false :=
          beq_eq_false_iff_ne.2 fun head => Option.some_ne_none sign (first head).symm
        exact anchor.trans absent.symm
    | cons d rest =>
        rw [found] at first
        by_cases comment : d = '#'
        · subst comment
          have absent : (behind.head? == some sign) = false :=
            beq_eq_false_iff_ne.2 fun head => notHash (Option.some.inj (first head)).symm
          simp only [List.cons_append, dropWhile_append_closing blank]
          cases rest.dropWhile Text.isBlank with
          | nil => exact anchor.trans absent.symm
          | cons e rest => rfl
        · simp [comment]

theorem shrinks_setAtom : Shrinks setAtom := by
  refine shrinks_take.bind fun c => ?_
  split
  · exact shrinks_escape
  · exact shrinks_pure _

theorem takes_setAtom : Takes setAtom := by
  refine takes_take.bind fun c => ?_
  split
  · exact shrinks_escape
  · exact shrinks_pure _

/-- Unless it is a condition, which has no place in a set. -/
theorem reflectsAt_setAtom (input : Input) :
    ReflectsAt (fun found stop => stop.Short 2 ∨ ∃ condition, found = .assertion condition)
      setAtom setAtom input := by
  refine reflectsAt_take (fun ended found stop read => ?_) fun c rest first => ?_
  · cases read
    exact .inl Nat.one_lt_two
  · split
    · exact (reflectsAt_escape _).mono fun _ _ lost => lost.imp_right And.right
    · exact (reflects_pure _).or

theorem progresses_setAtom_bind
    {next nextOther : Escape → Reader α}
    (second : ∀ found, Reflects size 3 (next found) (nextOther found))
    (fails : ∀ condition input, nextOther (.assertion condition) input = none) :
    Progresses size 3 (setAtom >>= next) (setAtom >>= nextOther) where
  shrinks := shrinks_setAtom.bind fun found => (second found).shrinks
  takes := takes_setAtom.bind fun found => (second found).shrinks
  reflectsAt input fits := by
    refine (reflectsAt_setAtom input).bind (fun found left _ read => ?_)
      fun found between b stop missing read => ?_
    · exact (second found).reflectsAt left
        (Nat.lt_of_le_of_lt (shrinks_setAtom.length_le read) fits)
    · rcases missing with short | ⟨condition, rfl⟩
      · exact Nat.lt_succ_of_lt ((second found).shrinks.short short read)
      · nomatch (fails condition between).symm.trans read

theorem progresses_setRange : Progresses size 3 setRange setRange := by
  refine progresses_setAtom_bind (fun first => ?_) fun condition input => ?_
  · refine (reflects_skip.weaken (Nat.le_succ 2)).bind fun _ => ?_
    refine reflects_lookAhead (fun c input remains => ?_) (reflects_lift _) ?_
    · rw [charAfterNext?_closed remains ']' (by decide),
        charAfterNext?_closed remains '-' (by decide)]
    · refine (progresses_takeAndSkip.weaken (Nat.le_succ 2)).toReflects.bind fun _ => ?_
      refine (progresses_setAtom_bind (fun last => ?_) fun condition input => ?_).toReflects
      · exact (reflects_lift _).bind fun _ => (reflects_lift _).bind fun _ =>
          (reflects_check _).bind fun _ => reflects_pure _
      · cases first <;> rfl
  · -- a condition is neither a part of a set nor an end of a range
    refine Option.eq_none_iff_forall_ne_some.2 fun result read => ?_
    rcases of_bind read with ⟨_, _, _, read⟩
    rcases of_bind read with ⟨c, left, _, read⟩
    rcases of_bind read with ⟨seen, _, _, read⟩
    dsimp only at read
    split at read
    · nomatch read
    · rcases of_bind read with ⟨_, _, _, read⟩
      rcases of_bind read with ⟨last, _, _, read⟩
      nomatch read

theorem reflects_setOperator? : Reflects size count setOperator? setOperator? := by
  refine (reflects_eat (by decide)).bind fun found => ?_
  cases found
  · refine (reflects_eat (by decide)).bind fun found => ?_
    cases found
    · refine (reflects_eat (by decide)).bind fun found => ?_
      cases found <;> exact reflects_pure _
    · exact reflects_pure _
  · exact reflects_pure _

theorem takesSome_setOperator? : TakesSome setOperator? := by
  intro input operator left read
  have unchanged {text : List Char} {input left : Input}
      (read : eat text input = some (false, left)) : left = input := by
    rw [eat_apply] at read
    split at read <;> cases read
    rfl
  rcases of_bind read with ⟨_ | _, between, one, read⟩
  · cases unchanged one
    rcases of_bind read with ⟨_ | _, between, two, read⟩
    · cases unchanged two
      rcases of_bind read with ⟨_ | _, _, three, read⟩
      · nomatch read
      · cases read
        exact takes_eat (List.cons_ne_nil _ _) three
    · cases read
      exact takes_eat (List.cons_ne_nil _ _) two
  · cases read
    exact takes_eat (List.cons_ne_nil _ _) one

theorem progresses_setOpening : Progresses size 3 setOpening setOpening := by
  have negation : Reflects (size - 1) 2 (takeIf (· == '^')) (takeIf (· == '^')) := reflects_takeIf _
  refine (progresses_takeAndSkip.weaken (Nat.le_succ 2)).bind fun _ => ?_
  refine ((negation.map _).weaken (Nat.le_succ 2)).bind fun negated => ?_
  refine ((reflects_collectIf _).weaken (Nat.le_succ 2)).bind fun hyphens => ?_
  dsimp only
  split
  · exact ((reflects_takeIf _).weaken (Nat.le_succ 2)).bind fun bracket =>
      reflects_next.bind fun _ => reflects_pure _
  · exact (reflects_pure none).bind fun bracket => reflects_next.bind fun _ => reflects_pure _

/-- A set ends with a bracket, so what is in it is left behind in front of the anchors. -/
theorem progresses_setRest
    (left : Option (SetOperator × WrittenSet))
    (items : List SetItem)
    {bound more : Nat}
    (enough : size ≤ bound) :
    Progresses size 2 (setRest left items bound) (setRest left items more) := by
  -- on the rounds in front of the anchors, while the input by itself gets smaller
  induction more generalizing left items size bound with
  | zero => exact progresses_fail _
  | succ more ih =>
      refine .ofRounds (fun size bound enough => ?_) enough
      have ih {less : Nat} (fits : less ≤ size - 1)
          (left : Option (SetOperator × WrittenSet)) (items : List SetItem) :
          Progresses less 2 (setRest left items bound) (setRest left items more) :=
        ih left items (by omega)
      refine (reflects_skip.weaken (Nat.le_succ 2)).bindProgresses fun _ => ?_
      refine reflects_next.bindProgresses fun c => ?_
      split
      · exact progresses_take.bind fun _ => reflects_pure _
      split
      · refine reflects_attempt_asciiClass.bindAnswerProgresses consumes_asciiClass.2.attempt
          (fun item => (ih (Nat.le_refl _) left _).toReflects) ?_
        refine progresses_setOpening.bindProgresses fun opening => ?_
        refine (ih (Nat.le_refl _) none _).bind fun inner => ?_
        exact (ih (Nat.sub_le _ 1) left _).toReflects
      · refine reflects_setOperator?.bindAnswerProgresses takesSome_setOperator?
          (fun operator => (ih (Nat.le_refl _) _ []).toReflects) ?_
        exact progresses_setRange.bindProgresses fun item => ih (Nat.le_refl _) left _

theorem progresses_bracketedSet : Progresses size 2 bracketedSet bracketedSet := by
  refine progresses_get fun input seen _ => ?_
  refine progresses_setOpening.bindProgresses fun opening => ?_
  exact (progresses_setRest none _ (by omega)).bind fun inner => reflects_pure _

end GcodeTemplate.Regex.Reader
