import GcodeTemplate.Proofs.Enclosure

/-!
# Characters and escapes in front of closing anchors

Characters are taken, skipped and repeated by themselves as in front of the anchors, and
so are numbers and escapes.

There is one exception: a brace behind `\b` is put back if no name stands in it.  In front
of the anchors it is, but by itself something has to stand behind it.  Such a brace
dangles, since it does not begin a repetition either.
-/

namespace GcodeTemplate.Regex.Reader

variable {α β : Type} {size count : Nat}

/-! ## Taking characters -/

theorem take_apply (input : Input) :
    take input =
      match input.rest with
      | [] => none
      | c :: rest => some (c, { input with rest := rest }) := by
  rcases input with ⟨_ | ⟨c, rest⟩, extended, names⟩ <;> rfl

theorem take_of_end
    {input : Input}
    (ended : input.rest = []) :
    take input = none := by
  rw [take_apply, ended]

theorem next_apply (input : Input) :
    next input = input.rest.head?.map fun c => (c, input) := by
  rcases input with ⟨_ | ⟨c, rest⟩, extended, names⟩ <;> rfl

theorem eat_apply
    (text : List Char)
    (input : Input) :
    eat text input =
      if text.isPrefixOf input.rest then
        some (true, { input with rest := input.rest.drop text.length })
      else
        some (false, input) := by
  show (if text.isPrefixOf input.rest then _ else _ : Reader Bool) input = _
  split <;> rfl

theorem shrinks_take : Shrinks take := by
  rintro ⟨_ | ⟨c, rest⟩, extended, names⟩ a left read
  · nomatch read
  · cases read
    exact List.suffix_cons _ _

theorem takes_take : Takes take := by
  rintro ⟨_ | ⟨c, rest⟩, extended, names⟩ a left read
  · nomatch read
  · cases read
    exact Nat.lt_succ_self _

theorem progresses_take : Progresses size 2 take take where
  shrinks := shrinks_take
  takes := takes_take
  reflectsAt := by
    rintro ⟨_ | ⟨c, rest⟩, extended, names⟩ _ a left read
    · cases read
      exact .inl Nat.one_lt_two
    · cases read
      exact .inr ⟨_, rfl, rfl⟩

theorem shrinks_next : Shrinks next := by
  intro input a left read
  rw [next_apply] at read
  rcases Option.map_eq_some_iff.1 read with ⟨_, _, same⟩
  cases same
  exact List.suffix_refl _

/-- The parenthesis of the anchors comes next where nothing does by itself. -/
theorem reflects_next : Reflects size 3 next next where
  shrinks := shrinks_next
  reflectsAt := by
    rintro ⟨_ | ⟨c, rest⟩, extended, names⟩ _ a left read
    · cases read
      exact .inl (Nat.lt_succ_self 2)
    · cases read
      exact .inr ⟨_, rfl, rfl⟩

theorem reflectsAt_take
    {lost : α → Input → Prop}
    {next nextOther : Char → Reader α}
    {input : Input}
    (ended : input.rest = [] → ∀ a stop,
      nextOther ')' { input with rest := ['$'] } = some (a, stop) → lost a stop)
    (first : ∀ c rest, input.rest = c :: rest →
      ReflectsAt lost (next c) (nextOther c) { input with rest := rest }) :
    ReflectsAt lost (take >>= next) (take >>= nextOther) input := by
  rcases input with ⟨_ | ⟨c, rest⟩, extended, names⟩
  · exact fun a stop read => .inl (ended rfl a stop read)
  · exact first c rest rfl

theorem reflectsAt_next
    {lost : α → Input → Prop}
    {next nextOther : Char → Reader α}
    {input : Input}
    {c : Char}
    (first : input.rest.head? = some c)
    (reflects : ReflectsAt lost (next c) (nextOther c) input) :
    ReflectsAt lost (Reader.next >>= next) (Reader.next >>= nextOther) input := by
  rcases input with ⟨_ | ⟨d, rest⟩, extended, names⟩
  · nomatch first
  · cases first
    exact reflects

theorem shrinks_next?
    {next : Option Char → Reader α}
    (shrinks : ∀ seen, Shrinks (next seen)) :
    Shrinks (next? >>= next) :=
  fun input => shrinks input.rest.head? input

/-- By itself the text may end where the parenthesis of the anchors comes next. -/
theorem reflects_next?
    {next nextOther : Option Char → Reader α}
    (ended : Reflects size count (next none) (nextOther (some ')')))
    (shrinks : Shrinks (nextOther none))
    (first : ∀ c, Reflects size count (next (some c)) (nextOther (some c))) :
    Reflects size count (next? >>= next) (next? >>= nextOther) where
  shrinks := shrinks_next? fun seen => by
    cases seen with
    | none => exact shrinks
    | some c => exact (first c).shrinks
  reflectsAt input fits := by
    rcases input with ⟨_ | ⟨c, rest⟩, extended, names⟩
    · exact ended.reflectsAt _ fits
    · exact (first c).reflectsAt _ fits

/-- Closing anchors do not complete a text without a parenthesis. -/
theorem isPrefixOf_append_closing
    {text : List Char}
    (free : ')' ∉ text)
    (rest : List Char) :
    text.isPrefixOf (rest ++ closing) = text.isPrefixOf rest := by
  induction text generalizing rest with
  | nil =>
      simp
  | cons c text ih =>
      simp only [List.mem_cons, not_or] at free
      cases rest with
      | nil => simp [closing, List.isPrefixOf, Ne.symm free.1]
      | cons d rest => simp [List.isPrefixOf, ih free.2]

theorem oblivious_eat
    {text : List Char}
    (free : ')' ∉ text) :
    Oblivious (eat text) := by
  intro input
  rw [eat_apply, eat_apply]
  simp only [Input.closed, isPrefixOf_append_closing free]
  split
  next found =>
    have short : text.length ≤ input.rest.length :=
      (List.isPrefixOf_iff_prefix.1 found).length_le
    rw [List.drop_append_of_le_length short]
    rfl
  next =>
    rfl

theorem shrinks_eat (text : List Char) : Shrinks (eat text) := by
  intro input found left read
  rw [eat_apply] at read
  split at read <;> cases read
  · exact List.drop_suffix _ _
  · exact List.suffix_refl _

theorem reflects_eat
    {text : List Char}
    (free : ')' ∉ text) :
    Reflects size count (eat text) (eat text) :=
  (oblivious_eat free).reflects (shrinks_eat text)

/-! ## Skipping -/

theorem withoutBlanks_suffix
    (inComment : Bool)
    (rest : List Char) :
    withoutBlanks inComment rest <:+ rest := by
  fun_induction withoutBlanks inComment rest with
  | case1 => exact List.suffix_refl _
  | case2 c rest ih => exact ih.trans (List.suffix_cons c rest)
  | case3 c rest blank ih => exact ih.trans (List.suffix_cons c rest)
  | case4 c rest notBlank hash ih => exact ih.trans (List.suffix_cons c rest)
  | case5 => exact List.suffix_refl _

/-- Anchors are no blanks; at most a comment goes on over them, and then nothing is left. -/
theorem withoutBlanks_append_closing
    (inComment : Bool)
    (rest : List Char) :
    withoutBlanks inComment (rest ++ closing) = [] ∨
      withoutBlanks inComment (rest ++ closing) = withoutBlanks inComment rest ++ closing := by
  fun_induction withoutBlanks inComment rest with
  | case1 inComment =>
      cases inComment
      · exact .inr (by decide)
      · exact .inl (by decide)
  | case2 c rest ih => simpa [withoutBlanks] using ih
  | case3 c rest blank ih => simpa [withoutBlanks, blank] using ih
  | case4 c rest notBlank hash ih => simpa [withoutBlanks, notBlank, hash] using ih
  | case5 c rest notBlank notHash =>
      exact .inr (by simp [withoutBlanks, notBlank, notHash])

theorem shrinks_skip : Shrinks skip := by
  refine shrinks_modify fun input => ?_
  split
  · exact withoutBlanks_suffix false input.rest
  · exact List.suffix_refl _

theorem reflectsAt_skip (input : Input) :
    ReflectsAt (fun _ stop => stop.rest = []) skip skip input := by
  intro a stop read
  cases read
  rcases input with ⟨rest, _ | _, names⟩
  · exact .inr ⟨_, rfl, rfl⟩
  · refine (withoutBlanks_append_closing false rest).imp id fun behind => ?_
    exact ⟨_, rfl, by simp [Input.closed, behind]⟩

theorem short_of_nil
    {count : Nat}
    {stop : Input}
    (ended : stop.rest = []) :
    stop.Short (count + 1) := by
  simp [Input.Short, ended]

theorem reflects_skip : Reflects size 2 skip skip where
  shrinks := shrinks_skip
  reflectsAt input _ := (reflectsAt_skip input).mono fun _ _ => short_of_nil

theorem shrinks_takeAndSkip : Shrinks takeAndSkip :=
  shrinks_take.bind fun c => shrinks_skip.bind fun _ => shrinks_pure c

theorem takes_takeAndSkip : Takes takeAndSkip :=
  takes_take.bind fun c => shrinks_skip.bind fun _ => shrinks_pure c

theorem progresses_takeAndSkip : Progresses size 2 takeAndSkip takeAndSkip :=
  progresses_take.bind fun c => reflects_skip.bind fun _ => reflects_pure c

/-- Where a character is left, only a comment can lose what is behind it. -/
theorem reflectsAt_takeAndSkip
    {input : Input}
    (remains : input.rest ≠ []) :
    ReflectsAt (fun _ stop => stop.rest = []) takeAndSkip takeAndSkip input := by
  rcases input with ⟨_ | ⟨c, rest⟩, extended, names⟩
  · exact absurd rfl remains
  · intro a stop read
    rcases of_bind read with ⟨_, between, taken, read⟩
    cases taken
    rcases of_bind read with ⟨_, _, skipped, read⟩
    cases read
    refine (reflectsAt_skip ⟨rest, extended, names⟩ _ _ skipped).imp_right ?_
    rintro ⟨left, alone, rfl⟩
    exact ⟨left, bind_of rfl (bind_of alone rfl), rfl⟩

theorem shrinks_takeIf (test : Char → Bool) : Shrinks (takeIf test) := by
  refine shrinks_next? fun seen => ?_
  split
  · split
    · exact shrinks_takeAndSkip.map some
    · exact shrinks_pure none
  · exact shrinks_pure none

theorem takesSome_takeIf (test : Char → Bool) : TakesSome (takeIf test) := by
  rintro ⟨_ | ⟨c, rest⟩, extended, names⟩ a left read
  · nomatch read
  · rcases of_bind read with ⟨_, _, seen, read⟩
    cases seen
    dsimp only [List.head?_cons] at read
    split at read
    · exact takes_takeAndSkip.map some _ _ left read
    · nomatch read

/-- What is not taken by itself is not taken in front of the anchors, or they are taken. -/
theorem reflects_takeIf (test : Char → Bool) :
    Reflects size 2 (takeIf test) (takeIf test) where
  shrinks := shrinks_takeIf test
  reflectsAt input fits := by
    rcases input with ⟨_ | ⟨c, rest⟩, extended, names⟩
    · show ReflectsAt _ (pure none) (if test ')' then _ else _) _
      split
      · -- the parenthesis of the anchors is taken
        intro a stop read
        have taken := takes_takeAndSkip.map some _ a stop read
        exact .inl (by simpa [Input.Short, Input.closed_length] using taken)
      · exact (reflects_pure none).reflectsAt _ fits
    · show ReflectsAt _ (if test c then _ else _) (if test c then _ else _) _
      split
      · exact (progresses_takeAndSkip.map some).reflectsAt _ fits
      · exact (reflects_pure none).reflectsAt _ fits

/-! ## Repeating -/

/-- The rounds suffice by itself too, since every one of them takes something. -/
theorem reflects_collectUpTo
    {reader : Reader (Option α)}
    (reflects : ∀ size, Reflects size count reader reader)
    (takes : TakesSome reader)
    {bound more : Nat}
    (enough : size ≤ bound) :
    Reflects size count (collectUpTo reader bound) (collectUpTo reader more) := by
  -- on the rounds in front of the anchors, while the input by itself gets smaller
  induction more generalizing size bound with
  | zero => exact (progresses_fail _).toReflects
  | succ more ih =>
      refine .ofRounds (fun size bound enough => ?_) enough
      refine (reflects size).bindAnswer takes (fun a => ?_) (reflects_pure [])
      have rest : Reflects (size - 1) count (collectUpTo reader bound) (collectUpTo reader more) :=
        ih (by omega)
      exact rest.bind fun rest => reflects_pure (a :: rest)

theorem reflects_collect
    {reader : Reader (Option α)}
    (reflects : ∀ size, Reflects size count reader reader)
    (takes : TakesSome reader) :
    Reflects size count (collect reader) (collect reader) :=
  reflects_get fun _ _ _ => reflects_collectUpTo reflects takes (Nat.min_le_right _ _)

theorem reflects_collectIf (test : Char → Bool) :
    Reflects size 2 (collect (takeIf test)) (collect (takeIf test)) :=
  reflects_collect (fun _ => reflects_takeIf test) (takesSome_takeIf test)

/-! ## Numbers -/

theorem dropWhile_append_closing
    {test : Char → Bool}
    (stops : test ')' = false)
    (rest : List Char) :
    (rest ++ closing).dropWhile test = rest.dropWhile test ++ closing := by
  rw [List.dropWhile_append]
  split
  next empty =>
    rw [closing, List.dropWhile_cons, if_neg (by simp [stops]), List.isEmpty_iff.1 empty,
      List.nil_append]
  next => rfl

theorem reflects_decimal : Reflects size 2 decimal decimal := by
  have blank : Text.isBlank ')' = false := by decide
  have skipping : Reflects size 2 skipBlanks skipBlanks :=
    reflects_modify (fun input => by simp [Input.closed, dropWhile_append_closing blank])
      fun _ => List.dropWhile_suffix _
  refine skipping.bind fun _ => (reflects_collectIf _).bind fun digits => ?_
  exact (reflects_collectIf _).bind fun _ => (reflects_check _).bind fun _ => reflects_pure _

/-- Anchors are no number. -/
theorem decimal_of_closing
    {input : Input}
    (anchors : input.rest = closing) :
    decimal input = none := by
  rcases input with ⟨_, extended, names⟩
  cases anchors
  rfl

/-! ## Escapes -/

theorem reflects_hexChar (digits : List Char) : Reflects size 2 (hexChar digits) (hexChar digits) :=
  (reflects_check _).bind fun _ => reflects_pure _

theorem progresses_hexDigits (count : Nat) :
    Progresses size 2 (hexDigits (count + 1)) (hexDigits (count + 1)) := by
  induction count generalizing size with
  | zero =>
      exact progresses_takeAndSkip.bind fun c => (reflects_check _).bind fun _ =>
        (reflects_pure []).bind fun rest => reflects_pure (c :: rest)
  | succ count ih =>
      exact progresses_takeAndSkip.bind fun c => (reflects_check _).bind fun _ =>
        ih.toReflects.bind fun rest => reflects_pure (c :: rest)

theorem progresses_hexEscape (count : Nat) :
    Progresses size 2 (hexEscape (count + 1)) (hexEscape (count + 1)) := by
  refine (reflects_skip.weaken (Nat.le_succ 2)).bindProgresses fun _ => ?_
  refine reflects_next.bindProgresses fun c => ?_
  split
  · refine progresses_takeAndSkip.bind fun _ => (reflects_collectIf _).bind fun digits => ?_
    refine progresses_takeAndSkip.toReflects.bind fun _ => (reflects_check _).bind fun _ => ?_
    exact (reflects_hexChar digits).bind fun _ => reflects_pure _
  · exact (progresses_hexDigits count).bind fun digits =>
      (reflects_hexChar digits).bind fun _ => reflects_pure _

theorem progresses_propertyEscape (negated : Bool) :
    Progresses size 2 (propertyEscape negated) (propertyEscape negated) := by
  refine (reflects_skip.weaken (Nat.le_succ 2)).bindProgresses fun _ => ?_
  refine reflects_next.bindProgresses fun c => ?_
  split
  · refine progresses_takeAndSkip.bind fun _ => (reflects_collectIf _).bind fun text => ?_
    exact progresses_take.toReflects.bind fun _ => (reflects_check _).bind fun _ => reflects_pure _
  · exact progresses_takeAndSkip.bind fun _ => (reflects_check _).bind fun _ => reflects_pure _

/-- An opening brace comes next, and nothing but the anchors behind it. -/
def Dangling (input : Input) : Prop :=
  input.rest.head? = some '{' ∧
    ∃ brace stop, takeAndSkip input = some (brace, stop) ∧ stop.rest = closing

/-- The name of a condition, and the brace behind it. -/
theorem reflects_conditionName
    {condition : List Char → Reader Assertion}
    (reflects : ∀ name, Reflects size 2 (condition name) (condition name)) :
    Reflects size 2
      (do
        let name ← collect (takeIf isConditionChar)
        check ((← take) == '}')
        condition name)
      (do
        let name ← collect (takeIf isConditionChar)
        check ((← take) == '}')
        condition name) :=
  (reflects_collectIf _).bind fun name => progresses_take.toReflects.bind fun _ =>
    (reflects_check _).bind fun _ => reflects name

theorem shrinks_wordBoundary : Shrinks wordBoundary := by
  intro before condition left read
  rcases of_bind read with ⟨_, _, seen, read⟩
  cases seen
  rcases of_bind read with ⟨_, _, seen, read⟩
  cases seen
  split at read
  · rcases of_bind read with ⟨_, between, taken, read⟩
    rcases of_bind read with ⟨first, _, seen, read⟩
    split at read
    · refine (Reflects.shrinks (show Reflects 0 2 _ _ from reflects_conditionName fun name => ?_)
        _ _ _ read).trans ?_
      · split
        all_goals first | exact reflects_pure _ | exact reflects_lift none
      · exact (shrinks_next _ _ _ seen).trans (shrinks_takeAndSkip _ _ _ taken)
    · cases read
      exact List.suffix_refl _
  · cases read
    exact List.suffix_refl _

/-- A brace that begins no name is put back, with the anchors behind it if nothing else. -/
theorem reflectsAt_wordBoundary (input : Input) :
    ReflectsAt (fun _ stop => stop.Short 2 ∨ Dangling stop) wordBoundary wordBoundary input := by
  have ends {input : Input} :
      ReflectsAt (fun _ stop => stop.Short 2 ∨ Dangling stop)
        (pure .wordBoundary : Reader Assertion) (pure .wordBoundary) input :=
    (reflects_pure _).or
  refine reflectsAt_get ?_
  rcases input with ⟨_ | ⟨c, rest⟩, extended, names⟩
  · exact ends
  · show ReflectsAt _ (if c == '{' then _ else _) (if c == '{' then _ else _) _
    split
    next isBrace =>
      cases eq_of_beq isBrace
      refine (reflectsAt_takeAndSkip (List.cons_ne_nil _ rest)).bind
        (fun brace left alone anchored => ?_) fun brace between condition stop ended read => ?_
      · rcases left with ⟨_ | ⟨first, behind⟩, extendedBehind, namesBehind⟩
        · -- the parenthesis of the anchors comes next, and is no part of a name
          intro condition stop read
          cases read
          exact .inl (.inr ⟨rfl, brace, _, anchored, rfl⟩)
        · refine reflectsAt_next rfl ?_
          split
          · refine (reflects_conditionName fun name => ?_).or
            split
            all_goals first | exact reflects_pure _ | exact reflects_lift none
          · intro condition stop read
            cases read
            exact .inr ⟨_, rfl, rfl⟩
      · -- a comment behind the brace has gone on over the anchors
        rcases of_bind read with ⟨_, _, seen, _⟩
        rw [next_apply, ended] at seen
        nomatch seen
    next => exact ends

theorem shrinks_escape : Shrinks escape := by
  have hexEscape (count : Nat) : Progresses 0 2 (hexEscape (count + 1)) (hexEscape (count + 1)) :=
    progresses_hexEscape count
  have propertyEscape (negated : Bool) :
      Progresses 0 2 (propertyEscape negated) (propertyEscape negated) :=
    progresses_propertyEscape negated
  refine shrinks_take.bind fun c => ?_
  dsimp only
  split
  all_goals
    first
    | exact shrinks_pure _
    | exact (hexEscape _).shrinks.map _
    | exact (propertyEscape _).shrinks
    | exact (shrinks_check _).bind fun _ => shrinks_pure _
    | exact shrinks_wordBoundary.map _

/-- Where a brace dangles, the escape in front of it is a condition. -/
theorem reflectsAt_escape (input : Input) :
    ReflectsAt
      (fun found stop => stop.Short 2 ∨ Dangling stop ∧ ∃ condition, found = .assertion condition)
      escape escape input := by
  refine reflectsAt_take (fun ended found stop read => ?_) fun c rest first => ?_
  · cases read
    exact .inl Nat.one_lt_two
  · dsimp only
    split
    all_goals
      first
      | exact (reflects_pure _).or
      | exact ((progresses_hexEscape _).map _).or
      | exact (progresses_propertyEscape _).or
      | exact ((reflects_check _).bind fun _ => reflects_pure _).or
      | skip
    rw [map_eq_pure_bind]
    refine (reflectsAt_wordBoundary _).bind (fun condition left _ _ => ?_)
      fun condition between found stop missing read => ?_
    · exact (reflects_pure _).or
    · cases read
      exact missing.imp_right fun dangling => ⟨dangling, condition, rfl⟩

end GcodeTemplate.Regex.Reader
