import GcodeTemplate.Regex.Escape

/-!
# Reading in front of closing anchors

What is read of a regular expression in front of closing anchors is read of it by itself
as well, as long as the anchors are left.  A reader may see the parenthesis of the anchors
where it sees the end of the text by itself; but if that makes a difference to it, it
goes on by taking the parenthesis, and whatever stands in front of readers that do so
does not have to care.

The bounds on the rounds of a reader come from the sizes of its inputs, so they are larger
in front of the anchors.  What is said of two readers therefore is said up to a size, and
behind something taken up to a smaller one.
-/

namespace GcodeTemplate.Regex

/-- What stands behind a regular expression that is put between anchors. -/
def closing : List Char :=
  [')', '$']

namespace Input

/-- An input with the closing anchors behind it. -/
def closed (input : Input) : Input :=
  { input with rest := input.rest ++ closing }

/-- Fewer than a number of characters are left; two of them are those of the anchors. -/
def Short (count : Nat) (input : Input) : Prop :=
  input.rest.length < count

theorem closed_length (input : Input) :
    input.closed.rest.length = input.rest.length + 2 := by
  simp [closed, closing]

end Input

namespace Reader

variable {α β : Type}

/-! ## Readers one after the other -/

theorem of_bind
    {reader : Reader α}
    {next : α → Reader β}
    {input : Input}
    {result : β × Input}
    (read : (reader >>= next) input = some result) :
    ∃ a left, reader input = some (a, left) ∧ next a left = some result := by
  rcases Option.bind_eq_some_iff.1 read with ⟨⟨a, left⟩, first, second⟩
  exact ⟨a, left, first, second⟩

theorem bind_of
    {reader : Reader α}
    {next : α → Reader β}
    {input left : Input}
    {a : α}
    {result : β × Input}
    (first : reader input = some (a, left))
    (second : next a left = some result) :
    (reader >>= next) input = some result :=
  Option.bind_eq_some_iff.2 ⟨(a, left), first, second⟩

/-! ## Taking from the front -/

/-- What a reader leaves is the end of what it was given. -/
def Shrinks (reader : Reader α) : Prop :=
  ∀ input a left, reader input = some (a, left) → left.rest <:+ input.rest

/-- A reader takes something. -/
def Takes (reader : Reader α) : Prop :=
  ∀ input a left, reader input = some (a, left) → left.rest.length < input.rest.length

/-- A reader takes something unless it answers `none`. -/
def TakesSome (reader : Reader (Option α)) : Prop :=
  ∀ input a left, reader input = some (some a, left) → left.rest.length < input.rest.length

theorem shrinks_pure (a : α) : Shrinks (pure a) := by
  intro input _ left read
  cases read
  exact List.suffix_refl _

theorem shrinks_lift (result : Option α) : Shrinks (liftM result) := by
  intro input a left read
  cases result with
  | none => nomatch read
  | some b =>
      cases read
      exact List.suffix_refl _

theorem Shrinks.bind
    {reader : Reader α}
    {next : α → Reader β}
    (first : Shrinks reader)
    (second : ∀ a, Shrinks (next a)) :
    Shrinks (reader >>= next) := by
  intro input b stop read
  rcases of_bind read with ⟨a, left, one, two⟩
  exact (second a left b stop two).trans (first input a left one)

theorem Shrinks.map
    {reader : Reader α}
    (shrinks : Shrinks reader)
    (f : α → β) :
    Shrinks (f <$> reader) := by
  rw [map_eq_pure_bind]
  exact shrinks.bind fun a => shrinks_pure (f a)

theorem Takes.map
    {reader : Reader α}
    (takes : Takes reader)
    (f : α → β) :
    Takes (f <$> reader) := by
  intro input b left read
  rw [map_eq_pure_bind] at read
  rcases of_bind read with ⟨a, _, one, same⟩
  cases same
  exact takes input a left one

/-- Looking at the input takes nothing. -/
theorem shrinks_get
    {next : Input → Reader α}
    (shrinks : ∀ seen, Shrinks (next seen)) :
    Shrinks (get >>= next) :=
  fun input => shrinks input input

theorem shrinks_modify
    {change : Input → Input}
    (shorter : ∀ input, (change input).rest <:+ input.rest) :
    Shrinks (modify change) := by
  intro input a left read
  cases read
  exact shorter input

/-! ## Reading by itself what is read in front of the anchors -/

/--
What one reader reads of an input in front of the anchors another one reads of the input by
itself, unless it is lost.
-/
def ReflectsAt
    (lost : α → Input → Prop)
    (reader other : Reader α)
    (input : Input) :
    Prop :=
  ∀ a stop, other input.closed = some (a, stop) →
    lost a stop ∨ ∃ left, reader input = some (a, left) ∧ stop = left.closed

/--
For inputs below a given size, it is lost only if fewer than a number of characters are
left.
-/
structure Reflects (size count : Nat) (reader other : Reader α) : Prop where
  shrinks : Shrinks other
  reflectsAt (input : Input) (fits : input.rest.length < size) :
    ReflectsAt (fun _ => Input.Short count) reader other input

/-- Something is taken besides. -/
structure Progresses (size count : Nat) (reader other : Reader α) : Prop
    extends Reflects size count reader other where
  takes : Takes other

theorem ReflectsAt.bind
    {lost : α → Input → Prop}
    {lostNext : β → Input → Prop}
    {reader other : Reader α}
    {next nextOther : α → Reader β}
    {input : Input}
    (first : ReflectsAt lost reader other input)
    (second : ∀ a left, reader input = some (a, left) → other input.closed = some (a, left.closed) →
      ReflectsAt lostNext (next a) (nextOther a) left)
    (kept : ∀ a between b stop, lost a between → nextOther a between = some (b, stop) →
      lostNext b stop) :
    ReflectsAt lostNext (reader >>= next) (other >>= nextOther) input := by
  intro b stop read
  rcases of_bind read with ⟨a, between, one, two⟩
  rcases first a between one with missing | ⟨left, alone, rfl⟩
  · exact .inl (kept a between b stop missing two)
  · refine (second a left alone one b stop two).imp_right fun ⟨final, more, same⟩ => ?_
    exact ⟨final, bind_of alone more, same⟩

theorem ReflectsAt.mono
    {lost lostMore : α → Input → Prop}
    {reader other : Reader α}
    {input : Input}
    (reflects : ReflectsAt lost reader other input)
    (more : ∀ a stop, lost a stop → lostMore a stop) :
    ReflectsAt lostMore reader other input :=
  fun a stop read => (reflects a stop read).imp_left (more a stop)

theorem Shrinks.length_le
    {reader : Reader α}
    (shrinks : Shrinks reader)
    {input left : Input}
    {a : α}
    (read : reader input.closed = some (a, left.closed)) :
    left.rest.length ≤ input.rest.length := by
  have shorter := (shrinks _ _ _ read).length_le
  rw [Input.closed_length, Input.closed_length] at shorter
  omega

theorem Takes.length_lt
    {reader : Reader α}
    (takes : Takes reader)
    {input left : Input}
    {a : α}
    (read : reader input.closed = some (a, left.closed)) :
    left.rest.length < input.rest.length := by
  have shorter := takes _ _ _ read
  rw [Input.closed_length, Input.closed_length] at shorter
  omega

theorem Shrinks.short
    {reader : Reader α}
    (shrinks : Shrinks reader)
    {count : Nat}
    {input left : Input}
    {a : α}
    (short : input.Short count)
    (read : reader input = some (a, left)) :
    left.Short count :=
  Nat.lt_of_le_of_lt (shrinks input a left read).length_le short

section Combining

variable {size count : Nat} {reader other : Reader α} {next nextOther : α → Reader β}

theorem Reflects.weaken
    {more : Nat}
    (reflects : Reflects size count reader other)
    (le : count ≤ more) :
    Reflects size more reader other where
  shrinks := reflects.shrinks
  reflectsAt input fits :=
    (reflects.reflectsAt input fits).mono fun _ _ short => Nat.lt_of_lt_of_le short le

theorem Reflects.here
    {input : Input}
    (reflects : Reflects (input.rest.length + 1) count reader other) :
    ReflectsAt (fun _ => Input.Short count) reader other input :=
  reflects.reflectsAt input (Nat.lt_succ_self _)

/-- Of one input nothing is lost but what is said to be, besides short ends. -/
theorem Reflects.or
    {lost : α → Input → Prop}
    {input : Input}
    (reflects : Reflects (input.rest.length + 1) count reader other) :
    ReflectsAt (fun a stop => stop.Short count ∨ lost a stop) reader other input :=
  reflects.here.mono fun _ _ => .inl

theorem Progresses.weaken
    {more : Nat}
    (progresses : Progresses size count reader other)
    (le : count ≤ more) :
    Progresses size more reader other where
  toReflects := progresses.toReflects.weaken le
  takes := progresses.takes

/-- Without rounds of its own the reader by itself has no input to be compared on. -/
theorem Reflects.ofRounds
    {rounds : Nat → Reader α}
    (round : ∀ size bound, size ≤ bound + 1 → Reflects size count (rounds (bound + 1)) other)
    {bound : Nat}
    (enough : size ≤ bound) :
    Reflects size count (rounds bound) other := by
  cases bound with
  | zero => exact ⟨(round 0 0 (Nat.zero_le _)).shrinks, fun _ fits => absurd fits (by omega)⟩
  | succ bound => exact round size bound enough

theorem Progresses.ofRounds
    {rounds : Nat → Reader α}
    (round : ∀ size bound, size ≤ bound + 1 → Progresses size count (rounds (bound + 1)) other)
    {bound : Nat}
    (enough : size ≤ bound) :
    Progresses size count (rounds bound) other where
  toReflects := .ofRounds (fun size bound enough => (round size bound enough).toReflects) enough
  takes := (round 0 0 (Nat.zero_le _)).takes

theorem Reflects.bind
    (first : Reflects size count reader other)
    (second : ∀ a, Reflects size count (next a) (nextOther a)) :
    Reflects size count (reader >>= next) (other >>= nextOther) where
  shrinks := first.shrinks.bind fun a => (second a).shrinks
  reflectsAt input fits := (first.reflectsAt input fits).bind
    (fun a left _ read => (second a).reflectsAt left
      (Nat.lt_of_le_of_lt (first.shrinks.length_le read) fits))
    fun a _ _ _ short => (second a).shrinks.short short

theorem Takes.bind
    (takes : Takes reader)
    (shrinks : ∀ a, Shrinks (next a)) :
    Takes (reader >>= next) := by
  intro input b stop read
  rcases of_bind read with ⟨a, left, one, two⟩
  exact Nat.lt_of_le_of_lt (shrinks a left b stop two).length_le (takes input a left one)

/-- What is read behind something taken has a smaller input. -/
theorem Progresses.bind
    (first : Progresses size count reader other)
    (second : ∀ a, Reflects (size - 1) count (next a) (nextOther a)) :
    Progresses size count (reader >>= next) (other >>= nextOther) where
  shrinks := first.shrinks.bind fun a => (second a).shrinks
  reflectsAt input fits := (first.reflectsAt input fits).bind
    (fun a left _ read => (second a).reflectsAt left (by
      have shorter := first.takes.length_lt read
      omega))
    fun a _ _ _ short => (second a).shrinks.short short
  takes := first.takes.bind fun a => (second a).shrinks

/-- One character more may be missing in front of a reader that takes something. -/
theorem Reflects.bindProgresses
    (first : Reflects size (count + 1) reader other)
    (second : ∀ a, Progresses size count (next a) (nextOther a)) :
    Progresses size count (reader >>= next) (other >>= nextOther) where
  shrinks := first.shrinks.bind fun a => (second a).shrinks
  reflectsAt input fits := (first.reflectsAt input fits).bind
    (fun a left _ read => (second a).reflectsAt left
      (Nat.lt_of_le_of_lt (first.shrinks.length_le read) fits))
    fun a between b stop short read =>
      Nat.lt_of_lt_of_le ((second a).takes between b stop read) (Nat.lt_succ_iff.1 short)
  takes := by
    intro input b stop read
    rcases of_bind read with ⟨a, left, one, two⟩
    exact Nat.lt_of_lt_of_le ((second a).takes left b stop two)
      (first.shrinks input a left one).length_le

theorem Progresses.bindProgresses
    (first : Progresses size (count + 1) reader other)
    (second : ∀ a, Progresses (size - 1) count (next a) (nextOther a)) :
    Progresses size count (reader >>= next) (other >>= nextOther) where
  shrinks := first.shrinks.bind fun a => (second a).shrinks
  reflectsAt input fits := (first.reflectsAt input fits).bind
    (fun a left _ read => (second a).reflectsAt left (by
      have shorter := first.takes.length_lt read
      omega))
    fun a between b stop short read =>
      Nat.lt_of_lt_of_le ((second a).takes between b stop read) (Nat.lt_succ_iff.1 short)
  takes := first.takes.bind fun a => (second a).shrinks

end Combining

section Answering

variable
  {size count : Nat} {reader other : Reader (Option α)} {next nextOther : Option α → Reader β}

/-- The input is smaller only behind an answer that something has been taken for. -/
theorem Reflects.bindAnswer
    (first : Reflects size count reader other)
    (takes : TakesSome other)
    (answered : ∀ a, Reflects (size - 1) count (next (some a)) (nextOther (some a)))
    (unanswered : Reflects size count (next none) (nextOther none)) :
    Reflects size count (reader >>= next) (other >>= nextOther) where
  shrinks := first.shrinks.bind fun answer => by
    cases answer with
    | none => exact unanswered.shrinks
    | some a => exact (answered a).shrinks
  reflectsAt input fits := by
    refine (first.reflectsAt input fits).bind (fun answer left _ read => ?_)
      fun answer _ _ _ short => ?_
    all_goals cases answer with
    | none => ?_
    | some a => ?_
    · exact unanswered.reflectsAt left (Nat.lt_of_le_of_lt (first.shrinks.length_le read) fits)
    · have shorter := takes _ _ _ read
      rw [Input.closed_length, Input.closed_length] at shorter
      exact (answered a).reflectsAt left (by omega)
    · exact unanswered.shrinks.short short
    · exact (answered a).shrinks.short short

theorem Reflects.bindAnswerProgresses
    (first : Reflects size count reader other)
    (takes : TakesSome other)
    (answered : ∀ a, Reflects (size - 1) count (next (some a)) (nextOther (some a)))
    (unanswered : Progresses size count (next none) (nextOther none)) :
    Progresses size count (reader >>= next) (other >>= nextOther) where
  toReflects := first.bindAnswer takes answered unanswered.toReflects
  takes := by
    intro input b stop read
    rcases of_bind read with ⟨_ | a, left, one, two⟩
    · exact Nat.lt_of_lt_of_le (unanswered.takes left b stop two)
        (first.shrinks _ _ _ one).length_le
    · exact Nat.lt_of_le_of_lt ((answered a).shrinks left b stop two).length_le (takes _ _ _ one)

end Answering

/-- A reader that reads the same with the anchors behind, and fails if it does without. -/
def Oblivious (reader : Reader α) : Prop :=
  ∀ input, reader input.closed = (reader input).map fun (a, left) => (a, left.closed)

theorem Oblivious.reflects
    {size count : Nat}
    {reader : Reader α}
    (oblivious : Oblivious reader)
    (shrinks : Shrinks reader) :
    Reflects size count reader reader where
  shrinks := shrinks
  reflectsAt input _ := by
    intro a stop read
    rw [oblivious] at read
    rcases Option.map_eq_some_iff.1 read with ⟨⟨b, left⟩, alone, same⟩
    cases same
    exact .inr ⟨left, alone, rfl⟩

theorem Oblivious.bind
    {reader : Reader α}
    {next : α → Reader β}
    (first : Oblivious reader)
    (second : ∀ a, Oblivious (next a)) :
    Oblivious (reader >>= next) := by
  intro input
  show (reader input.closed).bind (fun (a, left) => next a left) =
    ((reader input).bind fun (a, left) => next a left).map _
  rw [first]
  cases reader input with
  | none => rfl
  | some pair => exact second pair.1 pair.2

theorem oblivious_pure (a : α) : Oblivious (pure a) :=
  fun _ => rfl

theorem oblivious_lift (result : Option α) : Oblivious (liftM result) := by
  intro input
  cases result <;> rfl

theorem oblivious_check (condition : Bool) : Oblivious (check condition) := by
  unfold check
  split
  · exact oblivious_pure ()
  · exact oblivious_lift none

theorem of_check
    {condition : Bool}
    {a : Unit}
    {input left : Input}
    (read : check condition input = some (a, left)) :
    condition = true ∧ left = input := by
  cases condition <;> cases read
  exact ⟨rfl, rfl⟩

theorem shrinks_check (condition : Bool) : Shrinks (check condition) := by
  unfold check
  split
  · exact shrinks_pure ()
  · exact shrinks_lift none

variable {size count : Nat}

theorem reflects_pure (a : α) : Reflects size count (pure a) (pure a) :=
  (oblivious_pure a).reflects (shrinks_pure a)

theorem reflects_lift (result : Option α) :
    Reflects size count (liftM result : Reader α) (liftM result) :=
  (oblivious_lift result).reflects (shrinks_lift result)

/-- A reader that fails reads nothing, so nothing has to be read by itself. -/
theorem progresses_fail (reader : Reader α) :
    Progresses size count reader (liftM (none : Option α)) where
  shrinks _ _ _ read := nomatch read
  takes _ _ _ read := nomatch read
  reflectsAt _ _ _ _ read := nomatch read

theorem reflects_check (condition : Bool) :
    Reflects size count (check condition) (check condition) :=
  (oblivious_check condition).reflects (shrinks_check condition)

theorem Reflects.map
    {reader other : Reader α}
    (reflects : Reflects size count reader other)
    (f : α → β) :
    Reflects size count (f <$> reader) (f <$> other) := by
  rw [map_eq_pure_bind, map_eq_pure_bind]
  exact reflects.bind fun a => reflects_pure (f a)

theorem Progresses.map
    {reader other : Reader α}
    (progresses : Progresses size count reader other)
    (f : α → β) :
    Progresses size count (f <$> reader) (f <$> other) := by
  rw [map_eq_pure_bind, map_eq_pure_bind]
  exact progresses.bind fun a => reflects_pure (f a)

theorem reflectsAt_check
    {lost : α → Input → Prop}
    {condition : Bool}
    {next nextOther : Unit → Reader α}
    {input : Input}
    (reflects : ReflectsAt lost (next ()) (nextOther ()) input) :
    ReflectsAt lost (check condition >>= next) (check condition >>= nextOther) input := by
  intro a stop read
  cases condition with
  | false => nomatch read
  | true => exact reflects a stop read

theorem reflectsAt_modify
    {lost : α → Input → Prop}
    {change changeOther : Input → Input}
    {next nextOther : Unit → Reader α}
    {input : Input}
    (closed : changeOther input.closed = (change input).closed)
    (reflects : ReflectsAt lost (next ()) (nextOther ()) (change input)) :
    ReflectsAt lost (modify change >>= next) (modify changeOther >>= nextOther) input := by
  intro a stop read
  refine reflects a stop ?_
  rw [← closed]
  exact read

/-- A change of the input that leaves the anchors alone is the same in front of them. -/
theorem reflects_modify
    {change : Input → Input}
    (closed : ∀ input : Input, change input.closed = (change input).closed)
    (shorter : ∀ input, (change input).rest <:+ input.rest) :
    Reflects size count (modify change) (modify change) :=
  Oblivious.reflects
    (fun input => congrArg (fun changed => some ((), changed)) (closed input))
    (shrinks_modify shorter)

/-! ## Looking and trying -/

theorem reflectsAt_get
    {lost : α → Input → Prop}
    {next nextOther : Input → Reader α}
    {input : Input}
    (reflects : ReflectsAt lost (next input) (nextOther input.closed) input) :
    ReflectsAt lost (get >>= next) (get >>= nextOther) input :=
  reflects

/-- What is looked at makes a difference only by its size and by whether blanks count. -/
theorem reflects_get
    {next nextOther : Input → Reader α}
    (reflects : ∀ input seen : Input, seen.extended = input.extended →
      Reflects (min size (input.rest.length + 1)) count (next input) (nextOther seen)) :
    Reflects size count (get >>= next) (get >>= nextOther) where
  shrinks := shrinks_get fun seen => (reflects seen seen rfl).shrinks
  reflectsAt input fits :=
    reflectsAt_get ((reflects input input.closed rfl).reflectsAt input (by omega))

theorem progresses_get
    {next nextOther : Input → Reader α}
    (progresses : ∀ input seen : Input, seen.extended = input.extended →
      Progresses (min size (input.rest.length + 1)) count (next input) (nextOther seen)) :
    Progresses size count (get >>= next) (get >>= nextOther) where
  toReflects := reflects_get fun input seen same => (progresses input seen same).toReflects
  takes input a left read := (progresses input input rfl).takes input a left read

/-- A condition on what is looked at that holds as well without the anchors. -/
theorem reflects_checkSeen
    {condition : Input → Bool}
    (same : ∀ input : Input, condition input.closed = condition input)
    {next nextOther : Unit → Reader α}
    (reflects : ∀ a, Reflects size count (next a) (nextOther a)) :
    Reflects size count
      (get >>= fun input => check (condition input) >>= next)
      (get >>= fun input => check (condition input) >>= nextOther) where
  shrinks := shrinks_get fun _ => (shrinks_check _).bind fun a => (reflects a).shrinks
  reflectsAt input fits := by
    refine reflectsAt_get ?_
    rw [same]
    exact ((reflects_check _).bind reflects).reflectsAt input fits

theorem Oblivious.attempt
    {reader : Reader α}
    (oblivious : Oblivious reader) :
    Oblivious (attempt reader) := by
  intro input
  unfold Reader.attempt
  rw [oblivious]
  cases reader input <;> rfl

theorem Shrinks.attempt
    {reader : Reader α}
    (shrinks : Shrinks reader) :
    Shrinks (attempt reader) := by
  intro input answer left read
  unfold Reader.attempt at read
  split at read <;> cases read
  next => exact List.suffix_refl _
  next found => exact shrinks _ _ _ found

theorem Takes.attempt
    {reader : Reader α}
    (takes : Takes reader) :
    TakesSome (attempt reader) := by
  intro input a left read
  unfold Reader.attempt at read
  split at read <;> cases read
  next found => exact takes _ _ _ found

end Reader

end GcodeTemplate.Regex
