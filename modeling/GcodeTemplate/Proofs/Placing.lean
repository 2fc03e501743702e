import GcodeTemplate.Proofs.Parsing
import GcodeTemplate.Proofs.Positions

/-!
# Parsers and positions

A cursor stands in a source if what is behind it is the rest of the source behind as
many bytes as it has gone.  Whatever a parser reads from such a cursor lies between
where it began and where the last token has stopped; and if it fails, it blames a part
of the source for not following the grammar.

What is known of a cursor is said with two numbers: it has come from the one, and the
last token has stopped at the other.  Where it has come from is chosen by whoever asks.
-/

namespace GcodeTemplate

open Text

/-- A cursor that stands between two characters of a source, or at one of its ends. -/
structure Cursor.IsOn (source : List Char) (cursor : Cursor) : Prop where
  splits : ∃ before, source = before ++ cursor.rest ∧ byteWidth before = cursor.position
  stopped : IsBoundary source cursor.previousStop
  behind : cursor.previousStop ≤ cursor.position

/--
A cursor that has come from a position, and whose last token has stopped at another
one.  It may be known where the next token stands.
-/
structure Cursor.Stands
    (source : List Char)
    (start stop : Nat)
    (next : Option Span)
    (cursor : Cursor) : Prop where
  isOn : cursor.IsOn source
  start : start ≤ cursor.position
  stop : cursor.previousStop = stop
  next : ∀ span ∈ next, ∃ lexeme, Parser.lexemeAt cursor = .ok (lexeme, span)

/-- A fault that says that a part of a source does not follow the grammar. -/
structure Fault.BlamesGrammar (source : List Char) (fault : Fault) : Prop where
  kind : fault.cause.kind = .grammar
  span : fault.span.IsIn source

/-- A token and its span as they are read from a source; the text of a word is the source there. -/
structure Token.IsAt (source : List Char) (token : Token) (span : Span) : Prop where
  isIn : span.IsIn source
  word (name : String) : token = .word name →
    span.Holds source name.toList ∧ (Token.isReserved name = false → Token.isName name = true)

/-- A word that is not reserved is a name of a variable where it stands. -/
theorem Token.IsAt.names
    {source : List Char}
    {span : Span}
    {name : String}
    (isAt : (Token.word name).IsAt source span)
    (free : ¬ Token.isReserved name = true) :
    span.Names source name := by
  rcases isAt.word name rfl with ⟨holds, named⟩
  exact ⟨named (by simpa using free), holds⟩

namespace Cursor

variable {source : List Char} {start stop : Nat} {next : Option Span} {cursor : Cursor}

theorem start_stands (source : String) :
    (Cursor.start source).Stands source.toList 0 0 none where
  isOn := ⟨⟨[], rfl, rfl⟩, isBoundary_zero, Nat.le_refl _⟩
  start := Nat.le_refl _
  stop := rfl
  next := by simp

theorem IsOn.isBoundary (isOn : cursor.IsOn source) : IsBoundary source cursor.position := by
  rcases isOn.splits with ⟨before, given, width⟩
  exact ⟨before, cursor.rest, given, width⟩

/-- The blanks at a cursor are one byte wide each. -/
theorem IsOn.splits_blanks (isOn : cursor.IsOn source) :
    ∃ before, source = before ++ cursor.rest.dropWhile isAsciiBlank ∧
      byteWidth before = cursor.position + (cursor.rest.takeWhile isAsciiBlank).length := by
  rcases isOn.splits with ⟨before, given, width⟩
  refine ⟨before ++ cursor.rest.takeWhile isAsciiBlank, ?_, ?_⟩
  · rw [List.append_assoc, List.takeWhile_append_dropWhile, given]
  · rw [byteWidth_append, width, byteWidth_of_blank (List.all_eq_true.1 List.all_takeWhile)]

namespace Stands

/-- Nothing has to be known of the next token. -/
theorem anyNext (stands : cursor.Stands source start stop next) :
    cursor.Stands source start stop none :=
  ⟨stands.isOn, stands.start, stands.stop, by simp⟩

/-- How much nesting has been spent does not matter. -/
theorem withDepth
    (stands : cursor.Stands source start stop none)
    (depth : Nat) :
    Cursor.Stands source start stop none { cursor with depth := depth } :=
  ⟨⟨stands.isOn.splits, stands.isOn.stopped, stands.isOn.behind⟩, stands.start, stands.stop,
    by simp⟩

/-- A cursor that stays where it is has come to where it stands. -/
theorem stays (stands : cursor.Stands source start stop next) :
    cursor.Stands source start cursor.previousStop none ∧ stop ≤ cursor.previousStop :=
  ⟨⟨stands.isOn, stands.start, rfl, by simp⟩, Nat.le_of_eq stands.stop.symm⟩

/-- What has been passed may be taken as the place to come from. -/
theorem passing
    (stands : cursor.Stands source start stop next)
    {later : Nat}
    (passed : later ≤ stop) :
    cursor.Stands source later stop next :=
  ⟨stands.isOn,
    Nat.le_trans passed (stands.stop ▸ stands.isOn.behind),
    stands.stop, stands.next⟩

end Stands

end Cursor

namespace Parser

variable {α β σ : Type} {source : List Char} {start stop : Nat} {next : Option Span}

/-- The token at the cursor is read from the source, in front of which are only blanks. -/
theorem lexemeAt_stands
    {cursor : Cursor}
    {lexeme : Lexeme}
    {span : Span}
    (isOn : cursor.IsOn source)
    (found : lexemeAt cursor = .ok (lexeme, span)) :
    lexeme.token.IsAt source span ∧ cursor.position ≤ span.start ∧
      (behind cursor lexeme span).IsOn source := by
  rcases isOn.splits_blanks with ⟨before, given, width⟩
  rcases lexemeAt_eq_ok found with ⟨read, starts, stops⟩
  rw [← Lexeme.read_text_rest read] at given
  have holds : span.Holds source lexeme.text := by
    refine ⟨before, lexeme.rest, given, ?_⟩
    rw [width, ← starts, ← stops]
  refine ⟨⟨holds.isIn, fun name isWord => ?_⟩, by omega, ?_, holds.isIn.stops, Nat.le_refl _⟩
  · rcases Lexeme.word_of_read read isWord with ⟨text, named⟩
    exact ⟨text ▸ holds, named⟩
  · refine ⟨before ++ lexeme.text, ?_, ?_⟩
    · rw [List.append_assoc]
      exact given
    · rw [byteWidth_append, width, ← starts]
      exact stops.symm

/-- What is no token is blamed where it stands. -/
theorem lexemeAt_blames
    {cursor : Cursor}
    {fault : Fault}
    (isOn : cursor.IsOn source)
    (failed : lexemeAt cursor = .error fault) :
    fault.BlamesGrammar source := by
  rcases isOn.splits_blanks with ⟨before, given, width⟩
  unfold lexemeAt at failed
  dsimp only at failed
  split at failed
  next flaw unread =>
    cases failed
    rcases Lexeme.read_flaw unread with ⟨kind, front, inside, after, text, lead, long⟩
    have given : source = (before ++ front) ++ (inside ++ after) := by
      rw [given, text, List.append_assoc]
    have holds := Span.Holds.isIn ⟨before ++ front, after, given, rfl⟩
    rw [byteWidth_append, width, ← lead, ← long] at holds
    exact ⟨kind, holds⟩
  next =>
    nomatch failed

/--
A parser has come to a cursor with something that is good for the position of that
cursor, or it blames a part of the source.
-/
def Lands
    (source : List Char)
    (start stop : Nat)
    (good : Nat → α → Prop) :
    Except Fault (α × Cursor) → Prop
  | .error fault => fault.BlamesGrammar source
  | .ok (a, moved) =>
      moved.Stands source start moved.previousStop none ∧
        stop ≤ moved.previousStop ∧ good moved.previousStop a

/-- So does a parser wherever a cursor stands that has come from one position to another one. -/
def Places
    (source : List Char)
    (start stop : Nat)
    (next : Option Span)
    (good : Nat → α → Prop)
    (parser : Parser α) :
    Prop :=
  ∀ cursor, cursor.Stands source start stop next → Lands source start stop good (parser cursor)

section Rules

variable
  {good : Nat → α → Prop}
  {goodNext : Nat → β → Prop}
  {parser : Parser α}

/-! ## Combining parsers -/

theorem places_pure
    {a : α}
    (holds : good stop a) :
    Places source start stop next good (pure a) := by
  intro cursor stands
  exact ⟨stands.stays.1, stands.stays.2, stands.stop ▸ holds⟩

theorem places_fail
    {cause : Cause}
    {span : Span}
    (kind : cause.kind = .grammar)
    (isIn : span.IsIn source) :
    Places source start stop next good (fail cause span) := by
  intro cursor _
  exact ⟨kind, isIn⟩

theorem places_failExpecting
    {expectation : Expectation}
    {span : Span}
    (isIn : span.IsIn source) :
    Places source start stop next good (failExpecting expectation span) :=
  places_fail rfl isIn

/-- Something that has been read further on has been read from here on, too. -/
theorem Lands.farther
    {outcome : Except Fault (α × Cursor)}
    {later : Nat}
    (passed : stop ≤ later)
    (lands : Lands source start later good outcome) :
    Lands source start stop good outcome := by
  cases outcome with
  | error fault => exact lands
  | ok answer => exact ⟨lands.1, Nat.le_trans passed lands.2.1, lands.2.2⟩

/-- What follows may rely on what has been read up to a later position. -/
theorem Places.bind
    {following : α → Parser β}
    (places : Places source start stop next good parser)
    (placesNext : ∀ a later, stop ≤ later → good later a →
      Places source start later none goodNext (following a)) :
    Places source start stop next goodNext (parser >>= following) := by
  intro cursor stands
  have read := places cursor stands
  cases outcome : parser cursor with
  | error fault =>
      rw [outcome] at read
      rw [bind_of_error outcome]
      exact read
  | ok answer =>
      rcases answer with ⟨a, moved⟩
      rw [outcome] at read
      rcases read with ⟨here, passed, holds⟩
      rw [bind_of_ok outcome]
      exact (placesNext a moved.previousStop passed holds moved here).farther passed

theorem Places.map
    (places : Places source start stop next good parser)
    {f : α → β}
    (implied : ∀ a later, stop ≤ later → good later a → goodNext later (f a)) :
    Places source start stop next goodNext (f <$> parser) := by
  rw [map_eq_pure_bind]
  exact places.bind fun a later passed holds => places_pure (implied a later passed holds)

theorem Places.mono
    {weaker : Nat → α → Prop}
    (places : Places source start stop next good parser)
    (implied : ∀ a later, stop ≤ later → good later a → weaker later a) :
    Places source start stop next weaker parser := by
  rw [← id_map parser]
  exact places.map implied

/-- Nothing has to be known of the next token. -/
theorem Places.anyNext
    (places : Places source start stop none good parser) :
    Places source start stop next good parser :=
  fun cursor stands => places cursor stands.anyNext

/-- What is read behind a position may be said to come from there. -/
theorem Places.passing
    {later : Nat}
    (after : start ≤ later)
    (passed : later ≤ stop)
    (places : Places source later stop next good parser) :
    Places source start stop next good parser := by
  intro cursor stands
  have read := places cursor (stands.passing passed)
  cases outcome : parser cursor with
  | error fault =>
      rw [outcome] at read
      exact read
  | ok answer =>
      rw [outcome] at read
      have moved := read.1
      exact ⟨⟨moved.isOn, Nat.le_trans after moved.start, rfl, moved.next⟩, read.2⟩

/-- An attempt that fails stays where it is. -/
theorem Places.attempt (places : Places source start stop next good parser) :
    Places source start stop next (fun later answer => ∀ a ∈ answer, good later a)
      (attempt parser) := by
  intro cursor stands
  have read := places cursor stands
  cases outcome : parser cursor with
  | error fault =>
      simp only [Parser.attempt, outcome]
      exact ⟨stands.stays.1, stands.stays.2, by simp⟩
  | ok answer =>
      rw [outcome] at read
      simp only [Parser.attempt, outcome]
      exact ⟨read.1, read.2.1, by simpa using read.2.2⟩

/-- So does a parser that is to stay where it is if it answers nothing. -/
theorem Lands.restoring
    {parser : Parser (Option α)}
    {cursor : Cursor}
    (stands : cursor.Stands source start stop next)
    (lands : Lands source start stop (fun later answer => ∀ a ∈ answer, good later a)
      (parser cursor)) :
    Lands source start stop (fun later answer => ∀ a ∈ answer, good later a)
      (restoring parser cursor) := by
  unfold Parser.restoring
  cases outcome : parser cursor with
  | error fault =>
      rw [outcome] at lands
      exact lands
  | ok answer =>
      rcases answer with ⟨_ | a, moved⟩
      · exact ⟨stands.stays.1, stands.stays.2, by simp⟩
      · rw [outcome] at lands
        exact lands

/-- If it answers nothing, it is still known where the next token stands. -/
theorem Places.trying
    {parser : Parser (Option α)}
    {following : Option α → Parser β}
    (places : Places source start stop next (fun later answer => ∀ a ∈ answer, good later a)
      parser)
    (otherwise : Places source start stop next goodNext (following none))
    (placesNext : ∀ a later, stop ≤ later → good later a →
      Places source start later none goodNext (following (some a))) :
    Places source start stop next goodNext (restoring parser >>= following) := by
  intro cursor stands
  have read := places cursor stands
  cases outcome : parser cursor with
  | error fault =>
      rw [outcome] at read
      have fails : restoring parser cursor = .error fault := by
        rw [Parser.restoring, outcome]
      rw [bind_of_error fails]
      exact read
  | ok answer =>
      rcases answer with ⟨_ | a, moved⟩
      · have stays : restoring parser cursor = .ok (none, cursor) := by
          rw [Parser.restoring, outcome]
        rw [bind_of_ok stays]
        exact otherwise cursor stands
      · rw [outcome] at read
        rcases read with ⟨here, passed, holds⟩
        have goesOn : restoring parser cursor = .ok (some a, moved) := by
          rw [Parser.restoring, outcome]
        rw [bind_of_ok goesOn]
        exact (placesNext a _ passed (holds a rfl) moved here).farther passed

/-! ## Loops -/

/-- What the state of another round is good for, or else the result of the loop. -/
def Step.Good (kept : σ → Prop) (done : β → Prop) : Step σ β → Prop
  | .again state => kept state
  | .done b => done b

section Loops

variable
  {step : σ → Parser (Step σ β)}
  (kept : Nat → σ → Prop)
  (each : ∀ state later, stop ≤ later → kept later state →
    Places source start later none (fun last => Step.Good (kept last) (goodNext last))
      (step state))

include each

theorem places_rounds
    (bound : Nat)
    {state : σ}
    {later : Nat}
    (passed : stop ≤ later)
    (begun : kept later state) :
    Places source start later none goodNext (rounds step bound state) := by
  induction bound generalizing state later with
  | zero =>
      intro cursor stands
      exact ⟨rfl, Span.isIn_point stands.isOn.isBoundary⟩
  | succ bound ih =>
      refine (each state later passed begun).bind fun answer last further holds => ?_
      cases answer with
      | done b => exact places_pure holds
      | again state => exact ih (Nat.le_trans passed further) holds

/-- A loop keeps what every one of its rounds keeps. -/
theorem places_iterate
    {state : σ}
    (begun : kept stop state) :
    Places source start stop next goodNext (iterate step state) := by
  intro cursor stands
  exact places_rounds kept each _ (Nat.le_refl _) begun cursor stands.anyNext

end Loops

/-- A repetition collects what is good and stays so. -/
theorem places_many
    {parser : Parser (Option α)}
    (lasting : ∀ a earlier later, earlier ≤ later → good earlier a → good later a)
    (each : ∀ later, stop ≤ later →
      Places source start later none (fun last answer => ∀ a ∈ answer, good last a) parser) :
    Places source start stop next (fun later collected => ∀ a ∈ collected, good later a)
      (many parser) := by
  apply places_iterate fun later collected => ∀ a ∈ collected, good later a
  · intro collected later passed kept
    refine (each later passed).bind fun answer last further holds => ?_
    have old : ∀ a ∈ collected, good last a := fun a member =>
      lasting a later last further (kept a member)
    cases answer with
    | none =>
        apply places_pure
        simpa only [Step.Good, List.mem_reverse] using old
    | some a =>
        apply places_pure
        simpa only [Step.Good, List.mem_cons, forall_eq_or_imp] using ⟨holds a rfl, old⟩
  · simp

/-! ## Tokens -/

/-- The next token is looked at, and it is known from then on where it stands. -/
theorem places_peek
    {following : Token × Span → Parser β}
    (placesNext : ∀ token span, token.IsAt source span → start ≤ span.start →
      (∀ known ∈ next, known = span) →
      Places source start stop (some span) goodNext (following (token, span))) :
    Places source start stop next goodNext (peek >>= following) := by
  intro cursor stands
  cases found : lexemeAt cursor with
  | error fault =>
      rw [bind_of_error (by rw [peek, found])]
      exact lexemeAt_blames stands.isOn found
  | ok token =>
      rcases token with ⟨lexeme, span⟩
      rcases lexemeAt_stands stands.isOn found with ⟨isAt, before, _⟩
      rw [bind_of_ok (peek_of_lexeme found)]
      refine placesNext lexeme.token span isAt (Nat.le_trans stands.start before) ?_ cursor
        ⟨stands.isOn, stands.start, stands.stop, ?_⟩
      · intro known isNext
        rcases stands.next known isNext with ⟨other, there⟩
        cases found.symm.trans there
        rfl
      · rintro _ ⟨⟩
        exact ⟨lexeme, found⟩

/-- A token that has been read is the one that was known to come next. -/
theorem places_advance :
    Places source start stop next
      (fun later (token, span) => token.IsAt source span ∧ start ≤ span.start ∧
        span.stop = later ∧ ∀ known ∈ next, known = span)
      advance := by
  intro cursor stands
  cases found : lexemeAt cursor with
  | error fault =>
      rw [advance, found]
      exact lexemeAt_blames stands.isOn found
  | ok token =>
      rcases token with ⟨lexeme, span⟩
      rcases lexemeAt_stands stands.isOn found with ⟨isAt, before, moved⟩
      have ordered := isAt.isIn.ordered
      have stopped := stands.isOn.behind
      rw [stands.stop] at stopped
      rw [advance_of_lexeme found]
      refine ⟨⟨moved, ?_, rfl, by simp⟩, ?_, isAt, Nat.le_trans stands.start before, rfl, ?_⟩
      · exact Nat.le_trans stands.start (Nat.le_trans before ordered)
      · exact Nat.le_trans stopped (Nat.le_trans before ordered)
      · intro known isNext
        rcases stands.next known isNext with ⟨other, there⟩
        cases found.symm.trans there
        rfl

/-- Behind the token that was known to come next one stands where that token stops. -/
theorem places_advance_known
    {span : Span} :
    Places source start stop (some span) (fun later _ => later = span.stop) advance :=
  places_advance.mono fun _ _ _ ⟨_, _, stopped, known⟩ => by rw [known span rfl, stopped]

/-- If a token is read, it is the one that was known to come next. -/
theorem places_eatIf (test : Token → Bool) :
    Places source start stop next
      (fun later eaten => eaten = true → ∀ known ∈ next, known.stop = later)
      (eatIf test) := by
  refine places_peek fun token span _ _ same => ?_
  dsimp only
  split
  · refine places_advance.bind fun ⟨_, read⟩ later _ ⟨_, _, stopped, known⟩ =>
      places_pure fun _ other isNext => ?_
    rw [same other isNext, known span rfl, stopped]
  · exact places_pure nofun

theorem places_eat (symbol : Symbol) :
    Places source start stop next
      (fun later eaten => eaten = true → ∀ known ∈ next, known.stop = later)
      (eat symbol) :=
  places_eatIf _

theorem places_eatWord (name : String) :
    Places source start stop next
      (fun later eaten => eaten = true → ∀ known ∈ next, known.stop = later)
      (eatWord name) :=
  places_eatIf _

theorem places_expect (symbol : Symbol) (expectation : Expectation) :
    Places source start stop next (fun later _ => ∀ known ∈ next, known.stop = later)
      (expect symbol expectation) := by
  refine places_peek fun token span isAt _ same => ?_
  dsimp only
  split
  · refine places_advance.bind fun ⟨_, read⟩ later _ ⟨_, _, stopped, known⟩ =>
      places_pure fun other isNext => ?_
    rw [same other isNext, known span rfl, stopped]
  · exact places_failExpecting isAt.isIn

/-- What has begun at a position has a span from there to where its last token has stopped. -/
theorem places_spanFrom
    {begun : Nat}
    {following : Span → Parser β}
    (passed : begun ≤ stop)
    (boundary : IsBoundary source begun)
    (placesNext : ∀ later, stop ≤ later → (Span.mk begun later).IsIn source →
      Places source start later none goodNext (following ⟨begun, later⟩)) :
    Places source start stop next goodNext (spanFrom begun >>= following) := by
  intro cursor stands
  rcases stands.stays with ⟨here, passedHere⟩
  have latest : max cursor.previousStop begun = cursor.previousStop :=
    Nat.max_eq_left (Nat.le_trans passed passedHere)
  have spanned : spanFrom begun cursor = .ok (⟨begun, cursor.previousStop⟩, cursor) := by
    rw [spanFrom, latest]
  rw [bind_of_ok spanned]
  have isIn : (Span.mk begun cursor.previousStop).IsIn source :=
    Span.isIn_of_boundaries (Nat.le_trans passed passedHere) boundary here.isOn.stopped
  exact (placesNext _ passedHere isIn cursor here).farther passedHere

/-! ## Nesting -/

theorem places_charge
    (cost : Nat)
    {span : Span}
    (isIn : span.IsIn source) :
    Places source start stop next (fun later _ => later = stop) (charge cost span) := by
  intro cursor stands
  rcases stands.stays with ⟨here, passed⟩
  by_cases deep : maximalDepth < cursor.depth + cost
  · simp only [charge, if_pos deep]
    exact ⟨rfl, isIn⟩
  · simp only [charge, if_neg deep]
    exact ⟨here.withDepth _, passed, stands.stop⟩

theorem places_release (cost : Nat) :
    Places source start stop next (fun later _ => later = stop) (release cost) := by
  intro cursor stands
  rcases stands.stays with ⟨here, passed⟩
  exact ⟨here.withDepth _, passed, stands.stop⟩

theorem Places.nested
    {span : Span}
    (isIn : span.IsIn source)
    (places : Places source start stop none good parser) :
    Places source start stop next good (nested span parser) := by
  refine (places_charge _ isIn).bind fun _ _ _ same => ?_
  subst same
  refine places.bind fun a later _ holds => ?_
  exact (places_release _).bind fun _ _ _ same => places_pure (same ▸ holds)

/-! ## Whole sources -/

/-- What is known of a parser at the start of a source holds of what it makes of the source. -/
theorem Places.outcome
    {source : String}
    {good : α → Prop}
    (places : Places source.toList 0 0 none (fun _ => good) parser) :
    Settled (Fault.BlamesGrammar source.toList) good ((parser (.start source)).map (·.1)) := by
  have read := places (.start source) (Cursor.start_stands source)
  cases outcome : parser (.start source) with
  | error fault =>
      rw [outcome] at read
      exact read
  | ok answer =>
      rw [outcome] at read
      exact read.2.2

end Rules

end Parser

end GcodeTemplate
