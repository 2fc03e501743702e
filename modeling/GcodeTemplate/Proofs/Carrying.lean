import GcodeTemplate.Proofs.Progress
import GcodeTemplate.Proofs.Seams
import GcodeTemplate.Proofs.Spans

/-!
# Reading a text at another place

What a parser reads from a text it reads also where the text stands at another
place, in front of more text, and with no less nesting left.  Nothing differs but
the spans, which are moved.

The tokens that a parser has read may be followed by anything if there is a seam
behind them.  So the seam is asked for where the parser has stopped; it is then
ahead of all that the parser has looked at.
-/

namespace GcodeTemplate

open Text

/-- Where else a text stands. -/
structure Relocation where
  /-- How many bytes further it starts. -/
  offset : Nat
  /-- What follows it. -/
  more : List Char
  /-- Whether a brace that follows may stand for the end of the input. -/
  closed : Bool

namespace Relocation

/-- A span at the other place. -/
abbrev span (place : Relocation) : Span → Span :=
  Span.shift place.offset

/-- An expression at the other place. -/
abbrev expr (place : Relocation) : Expr → Expr :=
  Expr.mapSpans place.span

/-- A reference at the other place. -/
abbrev reference (place : Relocation) : Reference Expr → Reference Expr :=
  Reference.mapSpans place.span

/-- A call at the other place. -/
abbrev call (place : Relocation) : Call → Call :=
  Call.mapSpans place.span

/-- Nothing that follows a text at the other place is read together with it. -/
abbrev Seam (place : Relocation) (text : List Char) : Prop :=
  GcodeTemplate.Seam place.closed text place.more

/-- A cursor in the text, and the one that corresponds to it at the other place. -/
structure Carries (place : Relocation) (cursor further : Cursor) : Prop where
  rest : further.rest = cursor.rest ++ place.more
  position : further.position = cursor.position + place.offset
  previousStop : further.previousStop = cursor.previousStop + place.offset
  depth : further.depth ≤ cursor.depth

theorem Carries.starts
    {place : Relocation}
    {cursor further : Cursor}
    {c : Char}
    {rest : List Char}
    (carries : place.Carries cursor further)
    (starts : cursor.rest = c :: rest) :
    further.rest = c :: (rest ++ place.more) := by
  rw [carries.rest, starts, List.cons_append]

end Relocation

namespace Parser

variable {α β γ σ : Type} {place : Relocation}

/--
What a parser reads at a cursor, another one reads at the cursor that corresponds
to it, if there is a seam where the first one stops.
-/
def CarriedAt
    (place : Relocation)
    (f : α → α)
    (first second : Parser α)
    (cursor : Cursor) : Prop :=
  ∀ ⦃a moved⦄, first cursor = .ok (a, moved) →
    moved.rest <:+ cursor.rest ∧
      (place.Seam moved.rest → ∀ ⦃further⦄, place.Carries cursor further →
        ∃ stop, second further = .ok (f a, stop) ∧ place.Carries moved stop)

/-- What a parser reads, another one reads wherever the text stands. -/
def Carried (place : Relocation) (f : α → α) (first second : Parser α) : Prop :=
  ∀ cursor, CarriedAt place f first second cursor

/-- What a parser reads at a cursor, another one reads there whatever follows. -/
def CarriedOver
    (place : Relocation)
    (f : α → α)
    (first second : Parser α)
    (cursor : Cursor) : Prop :=
  ∀ ⦃a moved⦄, first cursor = .ok (a, moved) →
    moved.rest <:+ cursor.rest ∧ ∀ ⦃further⦄, place.Carries cursor further →
      ∃ stop, second further = .ok (f a, stop) ∧ place.Carries moved stop

section Combinators

variable {f : α → α} {g : β → β} {first second : Parser α} {cursor : Cursor}

theorem CarriedOver.carriedAt
    (carried : CarriedOver place f first second cursor) :
    CarriedAt place f first second cursor :=
  fun _ _ run => ⟨(carried run).1, fun _ => (carried run).2⟩

theorem CarriedOver.bind
    {next continuation : α → Parser β}
    (firstCarried : CarriedOver place f first second cursor)
    (nextCarried : ∀ a moved, first cursor = .ok (a, moved) →
      CarriedOver place g (next a) (continuation (f a)) moved) :
    CarriedOver place g (first >>= next) (second >>= continuation) cursor := by
  intro b stop run
  rcases bind_eq_ok run with ⟨a, moved, read, rest⟩
  rcases firstCarried read with ⟨suffix, answers⟩
  rcases nextCarried a moved read rest with ⟨suffixRest, answersRest⟩
  refine ⟨suffixRest.trans suffix, fun further carries => ?_⟩
  rcases answers carries with ⟨between, readThere, carriesBetween⟩
  rcases answersRest carriesBetween with ⟨last, restThere, carriesLast⟩
  exact ⟨last, (bind_of_ok readThere).trans restThere, carriesLast⟩

theorem carriedOver_pure_of_eq {a there : α} (same : f a = there) (cursor : Cursor) :
    CarriedOver place f (pure a : Parser α) (pure there) cursor := by
  rintro _ _ ⟨⟩
  subst same
  exact ⟨List.suffix_refl _, fun further carries => ⟨further, rfl, carries⟩⟩

theorem carried_pure_of_eq {a there : α} (same : f a = there) :
    Carried place f (pure a : Parser α) (pure there) :=
  fun cursor => (carriedOver_pure_of_eq same cursor).carriedAt

theorem carried_pure (a : α) :
    Carried place f (pure a : Parser α) (pure (f a)) :=
  carried_pure_of_eq rfl

theorem carried_fail (cause : Cause) (span : Span) (second : Parser α) :
    Carried place f (fail cause span) second := by
  intro cursor a moved run
  nomatch run

theorem carried_failExpecting (expectation : Expectation) (span : Span) (second : Parser α) :
    Carried place f (failExpecting expectation span) second :=
  carried_fail _ span second

/-- The seam behind a sequence is ahead of its first part, too. -/
theorem CarriedAt.bind
    {next continuation : α → Parser β}
    (firstCarried : CarriedAt place f first second cursor)
    (nextCarried : ∀ a moved, first cursor = .ok (a, moved) →
      CarriedAt place g (next a) (continuation (f a)) moved) :
    CarriedAt place g (first >>= next) (second >>= continuation) cursor := by
  intro b stop run
  rcases bind_eq_ok run with ⟨a, moved, read, rest⟩
  rcases firstCarried read with ⟨suffix, answers⟩
  rcases nextCarried a moved read rest with ⟨suffixRest, answersRest⟩
  refine ⟨suffixRest.trans suffix, fun seam further carries => ?_⟩
  rcases answers (seam.mono suffixRest) carries with ⟨between, readThere, carriesBetween⟩
  rcases answersRest seam carriesBetween with ⟨last, restThere, carriesLast⟩
  exact ⟨last, (bind_of_ok readThere).trans restThere, carriesLast⟩

theorem CarriedAt.andThen
    {next continuation : α → Parser β}
    (firstCarried : CarriedAt place f first second cursor)
    (nextCarried : ∀ a, Carried place g (next a) (continuation (f a))) :
    CarriedAt place g (first >>= next) (second >>= continuation) cursor :=
  firstCarried.bind fun a moved _ => nextCarried a moved

theorem Carried.bind
    {next continuation : α → Parser β}
    (firstCarried : Carried place f first second)
    (nextCarried : ∀ a, Carried place g (next a) (continuation (f a))) :
    Carried place g (first >>= next) (second >>= continuation) :=
  fun cursor => (firstCarried cursor).andThen nextCarried

theorem Carried.map
    {h h' : α → β}
    (carried : Carried place f first second)
    (same : ∀ a, h' (f a) = g (h a)) :
    Carried place g (h <$> first) (h' <$> second) := by
  simp only [map_eq_pure_bind]
  refine carried.bind fun a => ?_
  rw [same a]
  exact carried_pure (h a)

theorem carriedOver_spanFrom (start : Nat) (cursor : Cursor) :
    CarriedOver place place.span (spanFrom start) (spanFrom (start + place.offset)) cursor := by
  rintro _ _ ⟨⟩
  refine ⟨List.suffix_refl _, fun further carries => ⟨further, ?_, carries⟩⟩
  simp only [spanFrom, carries.previousStop, Span.shift, Except.ok.injEq, Prod.mk.injEq,
    Span.mk.injEq, and_true, true_and]
  omega

theorem carried_spanFrom (start : Nat) :
    Carried place place.span (spanFrom start) (spanFrom (start + place.offset)) :=
  fun cursor => (carriedOver_spanFrom start cursor).carriedAt

theorem carried_charge (cost : Nat) (span span' : Span) :
    Carried place id (charge cost span) (charge cost span') := by
  intro cursor a moved run
  rcases charge_eq_ok run with ⟨enough, rfl⟩
  refine ⟨List.suffix_refl _, fun _ further carries => ?_⟩
  have less := carries.depth
  refine ⟨{ further with depth := further.depth + cost }, ?_,
    carries.rest, carries.position, carries.previousStop, Nat.add_le_add_right less cost⟩
  rw [charge, if_neg (by omega)]

theorem carried_release (cost : Nat) :
    Carried place id (release cost) (release cost) := by
  rintro cursor _ _ ⟨⟩
  refine ⟨List.suffix_refl _, fun _ further carries => ?_⟩
  exact ⟨{ further with depth := further.depth - cost }, rfl,
    carries.rest, carries.position, carries.previousStop,
    Nat.sub_le_sub_right carries.depth cost⟩

theorem Carried.nested
    (carried : Carried place f first second)
    (span span' : Span) :
    Carried place f (nested span first) (nested span' second) :=
  (carried_charge _ _ _).bind fun _ => carried.bind fun a =>
    (carried_release _).bind fun _ => carried_pure a

/-- A round of a loop with its state and its result replaced. -/
def Step.map (f : σ → σ) (g : β → β) : Step σ β → Step σ β
  | .again state => .again (f state)
  | .done result => .done (g result)

/-- At the other place a loop needs no more rounds, and has no fewer to spare. -/
theorem Carried.rounds
    {f : σ → σ}
    {step continuation : σ → Parser (Step σ β)}
    (carried : ∀ state, Carried place (Step.map f g) (step state) (continuation (f state)))
    {bound larger : Nat}
    (enough : bound ≤ larger)
    (state : σ) :
    Carried place g (rounds step bound state) (rounds continuation larger (f state)) := by
  induction bound generalizing larger state with
  | zero =>
      intro cursor b stop run
      nomatch run
  | succ bound ih =>
      cases larger with
      | zero => nomatch enough
      | succ larger =>
          refine (carried state).bind fun answer => ?_
          cases answer with
          | done result => exact carried_pure result
          | again next => exact ih (Nat.le_of_succ_le_succ enough) next

theorem Carried.iterate
    {f : σ → σ}
    {step continuation : σ → Parser (Step σ β)}
    (carried : ∀ state, Carried place (Step.map f g) (step state) (continuation (f state)))
    (state : σ) :
    Carried place g (iterate step state) (iterate continuation (f state)) := by
  intro cursor b stop run
  have once := Carried.rounds carried (Nat.le_refl (cursor.rest.length + 1)) state cursor run
  refine ⟨once.1, fun seam further carries => ?_⟩
  have longer : cursor.rest.length + 1 ≤ further.rest.length + 1 := by
    rw [carries.rest, List.length_append]
    omega
  exact (Carried.rounds carried longer state cursor run).2 seam carries

theorem Carried.many
    {first second : Parser (Option α)}
    (carried : Carried place (Option.map f) first second) :
    Carried place (List.map f) (many first) (many second) := by
  refine Carried.iterate (f := List.map f) (fun collected => ?_) []
  refine carried.bind fun answer => ?_
  cases answer with
  | none =>
      have same : (List.map f collected).reverse = List.map f collected.reverse :=
        List.map_reverse.symm
      rw [Option.map_none, same]
      exact carried_pure (Step.done collected.reverse)
  | some a => exact carried_pure (Step.again (a :: collected))

end Combinators

section Tokens

variable {g : β → β} {cursor further : Cursor} {lexeme : Lexeme} {span : Span}

/--
The token at the other place is the same, unless a brace stands there for the end of
the input.
-/
theorem lexemeAt_carried
    (found : lexemeAt cursor = .ok (lexeme, span))
    (seam : place.Seam cursor.rest)
    (carries : place.Carries cursor further) :
    lexemeAt further = .ok (lexeme.append place.more, place.span span) ∨
      place.closed = true ∧ lexeme.token = .endOfInput ∧
        ∃ rest there, lexemeAt further = .ok (⟨.symbol .rightBrace, ['}'], rest⟩, there) := by
  rcases lexemeAt_eq_ok found with ⟨read, start, stop⟩
  rcases seam.run_append isAsciiBlank rfl rfl with ⟨taken, dropped⟩
  have inside := seam.behind_run isAsciiBlank rfl rfl
  have blanks : further.rest.takeWhile isAsciiBlank = cursor.rest.takeWhile isAsciiBlank := by
    rw [carries.rest, taken]
  have behind :
      further.rest.dropWhile isAsciiBlank = cursor.rest.dropWhile isAsciiBlank ++ place.more := by
    rw [carries.rest, dropped]
  have moved :
      Lexeme.read (further.rest.dropWhile isAsciiBlank) = .ok (lexeme.append place.more) →
        lexemeAt further = .ok (lexeme.append place.more, place.span span) := by
    intro readThere
    rcases span with ⟨first, last⟩
    simp only at start stop
    simp only [lexemeAt, readThere, blanks, carries.position, Lexeme.append, Span.shift,
      Except.ok.injEq, Prod.mk.injEq, Span.mk.injEq, true_and]
    omega
  cases text : cursor.rest.dropWhile isAsciiBlank with
  | cons c rest =>
      apply Or.inl
      apply moved
      rw [behind]
      exact Lexeme.read_append inside (by simp [text]) read
  | nil =>
      rw [text] at read inside behind
      cases read
      rcases inside.nil_eq with none | ⟨isClosed, rest, brace⟩
      · apply Or.inl
        apply moved
        rw [behind, none]
        rfl
      · rw [brace] at behind
        let start := further.position + (further.rest.takeWhile isAsciiBlank).length
        refine .inr ⟨isClosed, rfl, rest, ⟨start, start + 1⟩, ?_⟩
        simp only [lexemeAt, behind, List.nil_append, Lexeme.read_rightBrace]
        rfl

/-- A token that is looked at is the same, or it is the brace instead of the end. -/
theorem CarriedAt.peek
    {next continuation : Token × Span → Parser β}
    (same : ∀ lexeme span, lexemeAt cursor = .ok (lexeme, span) →
      CarriedAt place g (next (lexeme.token, span))
        (continuation (lexeme.token, place.span span)) cursor)
    (ends : place.closed = true → ∀ span there,
      CarriedAt place g (next (.endOfInput, span))
        (continuation (.symbol .rightBrace, there)) cursor) :
    CarriedAt place g (peek >>= next) (peek >>= continuation) cursor := by
  intro b stop run
  rcases bind_eq_ok run with ⟨⟨token, span⟩, moved, peeked, rest⟩
  rcases peek_eq_ok peeked with ⟨rfl, lexeme, found, rfl⟩
  rcases same lexeme span found rest with ⟨suffix, answers⟩
  refine ⟨suffix, fun seam further carries => ?_⟩
  rcases lexemeAt_carried found (seam.mono suffix) carries with
    there | ⟨isClosed, isEnd, _, _, there⟩
  · rw [bind_of_ok (peek_of_lexeme there)]
    exact answers seam carries
  · rw [isEnd] at rest
    rw [bind_of_ok (peek_of_lexeme there)]
    exact (ends isClosed _ _ rest).2 seam carries

/-- A token other than the end of the input is the same. -/
theorem carriedAt_advance
    (place : Relocation)
    (found : lexemeAt cursor = .ok (lexeme, span))
    (proper : place.closed = true → lexeme.token ≠ .endOfInput) :
    CarriedAt place (Prod.map id place.span) advance advance cursor := by
  rintro ⟨token, _⟩ moved run
  cases (advance_of_lexeme found).symm.trans run
  have suffix := lexemeAt_rest_isSuffix found
  refine ⟨suffix, fun seam further carries => ?_⟩
  rcases lexemeAt_carried found (seam.mono suffix) carries with there | ⟨isClosed, isEnd, _⟩
  · refine ⟨behind further (lexeme.append place.more) (place.span span),
      advance_of_lexeme there, ?_⟩
    exact ⟨rfl, rfl, rfl, carries.depth⟩
  · exact absurd isEnd (proper isClosed)

/-- Without a brace that stands for the end of the input all tokens are the same. -/
theorem carried_advance (isOpen : place.closed = false) :
    Carried place (Prod.map id place.span) advance advance := by
  intro cursor a moved run
  rcases advance_eq_ok run with ⟨lexeme, found, _, _⟩
  exact carriedAt_advance place found (fun isClosed => by simp [isOpen] at isClosed) run

theorem carried_eatIf
    (test : Token → Bool)
    (noEnd : test .endOfInput = false)
    (noBrace : place.closed = true → test (.symbol .rightBrace) = false) :
    Carried place id (eatIf test) (eatIf test) := by
  intro cursor
  refine CarriedAt.peek (fun lexeme span found => ?_) fun isClosed span there => ?_
  · dsimp only
    cases passes : test lexeme.token with
    | false => exact carried_pure false cursor
    | true =>
        have proper : lexeme.token ≠ .endOfInput := by
          intro isEnd
          simp [isEnd, noEnd] at passes
        exact (carriedAt_advance place found fun _ => proper).andThen fun _ => carried_pure true
  · simp only [noEnd, noBrace isClosed]
    exact carried_pure false cursor

theorem carried_eat
    (symbol : Symbol)
    (noBrace : place.closed = true → symbol ≠ .rightBrace) :
    Carried place id (eat symbol) (eat symbol) := by
  refine carried_eatIf _ rfl fun isClosed => ?_
  simp only [Token.isSymbol, beq_eq_false_iff_ne]
  exact (noBrace isClosed).symm

theorem carried_eatWord (name : String) :
    Carried place id (eatWord name) (eatWord name) :=
  carried_eatIf _ rfl fun _ => rfl

theorem carried_expect (symbol : Symbol) (expectation : Expectation) :
    Carried place id (expect symbol expectation) (expect symbol expectation) := by
  intro cursor
  refine CarriedAt.peek (fun lexeme span found => ?_) fun isClosed span there => ?_
  · dsimp only
    cases isSymbol : lexeme.token.isSymbol symbol with
    | false => exact carried_failExpecting _ _ _ cursor
    | true =>
        have proper : lexeme.token ≠ .endOfInput := by
          intro isEnd
          simp [isEnd, Token.isSymbol] at isSymbol
        exact (carriedAt_advance place found fun _ => proper).andThen fun _ => carried_pure ()
  · exact carried_failExpecting _ _ _ cursor

/-- There is a seam where a closing brace or bracket comes next. -/
theorem seam_of_closing
    {symbol : Symbol}
    (found : lexemeAt cursor = .ok (lexeme, span))
    (isSymbol : lexeme.token = .symbol symbol)
    (closing : symbol = .rightBrace ∨ symbol = .rightBracket) :
    place.Seam cursor.rest := by
  have suffix : cursor.rest.dropWhile isAsciiBlank <:+ cursor.rest := List.dropWhile_suffix _
  rcases Lexeme.read_closing (lexemeAt_eq_ok found).1 isSymbol closing with brace | bracket
  · exact .inr (.inl (suffix.subset brace))
  · exact .inr (.inr (.inl (suffix.subset bracket)))

theorem expect_carriedOver
    {symbol : Symbol}
    (closing : symbol = .rightBrace ∨ symbol = .rightBracket)
    (expectation : Expectation)
    (cursor : Cursor) :
    CarriedOver place id (expect symbol expectation) (expect symbol expectation) cursor := by
  intro a moved run
  refine ⟨(keeps_expect _ _ run).rest, fun further carries => ?_⟩
  rcases expect_eq_ok run with ⟨lexeme, span, found, isSymbol, rfl⟩
  have token := Token.isSymbol_iff.mp isSymbol
  rcases lexemeAt_carried found (seam_of_closing found token closing) carries with
    there | ⟨_, isEnd, _⟩
  · refine ⟨behind further (lexeme.append place.more) (place.span span),
      expect_of_symbol expectation there isSymbol, ?_⟩
    exact ⟨rfl, rfl, rfl, carries.depth⟩
  · rw [token] at isEnd
    nomatch isEnd

/-- What a closing brace or bracket ends is carried whatever follows. -/
theorem CarriedAt.closed_by
    {f : α → α}
    {first second : Parser α}
    {next continuation : α → Parser β}
    {symbol : Symbol}
    {expectation : Expectation}
    (carried : CarriedAt place f first second cursor)
    (closing : symbol = .rightBrace ∨ symbol = .rightBracket)
    (finished : ∀ a moved,
      CarriedOver place g (next a) (continuation (f a)) moved) :
    CarriedOver place g
      (do
        let a ← first
        expect symbol expectation
        next a)
      (do
        let a ← second
        expect symbol expectation
        continuation a) cursor := by
  intro b stop run
  rcases bind_eq_ok run with ⟨a, moved, read, rest⟩
  have ends : CarriedOver place g
      (expect symbol expectation >>= fun _ => next a)
      (expect symbol expectation >>= fun _ => continuation (f a)) moved :=
    (expect_carriedOver closing expectation moved).bind fun _ closed _ => finished a closed
  rcases carried read with ⟨suffix, answers⟩
  rcases ends rest with ⟨suffixRest, answersRest⟩
  refine ⟨suffixRest.trans suffix, fun further carries => ?_⟩
  rcases bind_eq_ok rest with ⟨_, _, expected, _⟩
  rcases expect_eq_ok expected with ⟨lexeme, span, found, isSymbol, _⟩
  have seam : place.Seam moved.rest :=
    seam_of_closing found (Token.isSymbol_iff.mp isSymbol) closing
  rcases answers seam carries with ⟨movedThere, readThere, carriesMoved⟩
  rcases answersRest carriesMoved with ⟨last, restThere, carriesLast⟩
  exact ⟨last, (bind_of_ok readThere).trans restThere, carriesLast⟩

end Tokens

section Trials

variable
  {f : α → α}
  {g : β → β}
  {parser there first second : Parser (Option α)}
  {next continuation : Option α → Parser β}
  {cursor : Cursor}

/--
A parser that tries another one: it answers what the other one finds, and if that
finds nothing or fails, it answers nothing and stays where it is.
-/
structure Tries (parser first : Parser (Option α)) : Prop where
  found {cursor moved : Cursor} {a : α} :
    parser cursor = .ok (some a, moved) → first cursor = .ok (some a, moved)
  nothing {cursor moved : Cursor} :
    parser cursor = .ok (none, moved) → first cursor = .ok (none, cursor)
  failed {cursor moved : Cursor} {fault : Fault} {answer : Option α} :
    parser cursor = .error fault → first cursor = .ok (answer, moved) →
      answer = none ∧ moved = cursor

/--
A trial is carried if what goes on without a result has read as far as the trial
has looked, which then was no failure.
-/
theorem CarriedAt.tries
    (tries : Tries parser first)
    (triesThere : Tries there second)
    (carried : CarriedAt place (Option.map f) parser there cursor)
    (found : ∀ a, Carried place g (next (some a)) (continuation (some (f a))))
    (otherwise : CarriedAt place g (next none) (continuation none) cursor)
    (ahead : ∀ b stop, next none cursor = .ok (b, stop) →
      ∃ answer moved, parser cursor = .ok (answer, moved) ∧
        (answer = none → stop.rest <:+ moved.rest)) :
    CarriedAt place g (first >>= next) (second >>= continuation) cursor := by
  intro b stop run
  rcases bind_eq_ok run with ⟨answer, moved, tried, rest⟩
  cases outcome : parser cursor with
  | error fault =>
      rcases tries.failed outcome tried with ⟨rfl, rfl⟩
      rcases ahead b stop rest with ⟨_, _, read, _⟩
      rw [outcome] at read
      nomatch read
  | ok result =>
      rcases result with ⟨_ | a, looked⟩
      · cases (tries.nothing outcome).symm.trans tried
        rcases otherwise rest with ⟨suffix, answers⟩
        refine ⟨suffix, fun seam further carries => ?_⟩
        rcases ahead b stop rest with ⟨_, _, read, reaches⟩
        cases outcome.symm.trans read
        rcases (carried outcome).2 (seam.mono (reaches rfl)) carries with
          ⟨lookedThere, readThere, _⟩
        rw [bind_of_ok (triesThere.nothing readThere)]
        exact answers seam carries
      · cases (tries.found outcome).symm.trans tried
        rcases carried outcome with ⟨suffix, answers⟩
        rcases found a moved rest with ⟨suffixRest, answersRest⟩
        refine ⟨suffixRest.trans suffix, fun seam further carries => ?_⟩
        rcases answers (seam.mono suffixRest) carries with
          ⟨lookedThere, readThere, carriesLooked⟩
        rw [bind_of_ok (triesThere.found readThere)]
        exact answersRest seam carriesLooked

end Trials

end Parser

end GcodeTemplate
