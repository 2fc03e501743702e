import GcodeTemplate.Parser
import Mathlib.Order.Defs.Unbundled

/-!
# Laws of parsers

What a sequence of parsers does on success and on a fault, and what a loop of
parsers does.  A relation between cursors that the steps of a parser keep is kept
by the parser; an invariant that the rounds of a loop keep holds when it ends.  A
loop whose rounds all read something never uses up its bound, so its equation can
be stated without one.

Two properties of parsers are put together along their text: what they keep of the
cursor, and what is true of whatever they yield.
-/

namespace GcodeTemplate

@[simp]
theorem Token.isSymbol_iff {token : Token} {symbol : Symbol} :
    token.isSymbol symbol = true ↔ token = .symbol symbol := by
  cases token <;> simp [Token.isSymbol]

@[simp]
theorem Token.isWord_iff {token : Token} {name : String} :
    token.isWord name = true ↔ token = .word name := by
  cases token <;> simp [Token.isWord]

namespace Parser

open Text

variable {α β σ : Type}

@[simp]
theorem pure_apply (a : α) (cursor : Cursor) :
    (pure a : Parser α) cursor = .ok (a, cursor) :=
  rfl

theorem bind_of_error
    {first : Parser α}
    {next : α → Parser β}
    {cursor : Cursor}
    {fault : Fault}
    (h : first cursor = .error fault) :
    (first >>= next) cursor = .error fault := by
  simp [bind, h]

theorem bind_of_ok
    {first : Parser α}
    {next : α → Parser β}
    {cursor moved : Cursor}
    {a : α}
    (h : first cursor = .ok (a, moved)) :
    (first >>= next) cursor = next a moved := by
  simp [bind, h]

/-- A sequence that reads something has stopped at a cursor in between. -/
theorem bind_eq_ok
    {first : Parser α}
    {next : α → Parser β}
    {cursor stop : Cursor}
    {b : β}
    (run : (first >>= next) cursor = .ok (b, stop)) :
    ∃ a moved, first cursor = .ok (a, moved) ∧ next a moved = .ok (b, stop) := by
  cases outcome : first cursor with
  | error fault =>
      nomatch (bind_of_error outcome).symm.trans run
  | ok answer =>
      rcases answer with ⟨a, moved⟩
      exact ⟨a, moved, rfl, (bind_of_ok outcome).symm.trans run⟩

instance : LawfulMonad Parser :=
  LawfulMonad.mk' _
    (fun parser => by
      funext cursor
      simp only [Functor.map]
      rcases parser cursor with _ | ⟨_, _⟩ <;> rfl)
    (fun _ _ => rfl)
    (fun parser next further => by
      funext cursor
      simp only [bind]
      rcases parser cursor with _ | ⟨_, _⟩ <;> rfl)

theorem map_of_ok
    {parser : Parser α}
    {cursor moved : Cursor}
    {a : α}
    (f : α → β)
    (h : parser cursor = .ok (a, moved)) :
    (f <$> parser) cursor = .ok (f a, moved) := by
  rw [map_eq_pure_bind, bind_of_ok h]
  rfl

theorem map_eq_ok
    {parser : Parser α}
    {f : α → β}
    {cursor moved : Cursor}
    {b : β}
    (run : (f <$> parser) cursor = .ok (b, moved)) :
    ∃ a, parser cursor = .ok (a, moved) ∧ f a = b := by
  rw [map_eq_pure_bind] at run
  rcases bind_eq_ok run with ⟨a, stop, read, answered⟩
  cases answered
  exact ⟨a, read, rfl⟩

/-- A parser that stays where it is if another one answers nothing. -/
theorem restoring_eq_ok
    {parser : Parser (Option α)}
    {cursor moved : Cursor}
    {answer : Option α}
    (run : restoring parser cursor = .ok (answer, moved)) :
    (answer = none ∧ moved = cursor ∧ ∃ stop, parser cursor = .ok (none, stop)) ∨
      ∃ a, answer = some a ∧ parser cursor = .ok (some a, moved) := by
  cases outcome : parser cursor with
  | error fault =>
      simp [restoring, outcome] at run
  | ok found =>
      rcases found with ⟨_ | a, stop⟩
      · simp only [restoring, outcome, Except.ok.injEq, Prod.mk.injEq] at run
        exact .inl ⟨run.1.symm, run.2.symm, stop, rfl⟩
      · simp only [restoring, outcome, Except.ok.injEq, Prod.mk.injEq] at run
        rcases run with ⟨rfl, rfl⟩
        exact .inr ⟨a, rfl, rfl⟩

section Primitives

theorem lexemeAt_eq_ok
    {cursor : Cursor}
    {lexeme : Lexeme}
    {span : Span}
    (found : lexemeAt cursor = .ok (lexeme, span)) :
    Lexeme.read (cursor.rest.dropWhile isAsciiBlank) = .ok lexeme ∧
      span.start = cursor.position + (cursor.rest.takeWhile isAsciiBlank).length ∧
      span.stop = span.start + byteWidth lexeme.text := by
  unfold lexemeAt at found
  simp only at found
  split at found
  · nomatch found
  · rename_i read
    cases found
    exact ⟨read, rfl, rfl⟩

/-- What comes next depends only on where a cursor stands. -/
theorem lexemeAt_congr
    {cursor there : Cursor}
    (rest : there.rest = cursor.rest)
    (position : there.position = cursor.position) :
    lexemeAt there = lexemeAt cursor := by
  simp only [lexemeAt, rest, position]

/-- The cursor behind a lexeme. -/
def behind (cursor : Cursor) (lexeme : Lexeme) (span : Span) : Cursor :=
  { cursor with
    rest := lexeme.rest
    position := span.stop
    previousStop := span.stop }

theorem peek_of_lexeme
    {cursor : Cursor}
    {lexeme : Lexeme}
    {span : Span}
    (found : lexemeAt cursor = .ok (lexeme, span)) :
    peek cursor = .ok ((lexeme.token, span), cursor) := by
  rw [peek, found]

theorem advance_of_lexeme
    {cursor : Cursor}
    {lexeme : Lexeme}
    {span : Span}
    (found : lexemeAt cursor = .ok (lexeme, span)) :
    advance cursor = .ok ((lexeme.token, span), behind cursor lexeme span) := by
  rw [advance, found]
  rfl

theorem peek_eq_ok
    {cursor moved : Cursor}
    {token : Token}
    {span : Span}
    (run : peek cursor = .ok ((token, span), moved)) :
    moved = cursor ∧ ∃ lexeme, lexemeAt cursor = .ok (lexeme, span) ∧ lexeme.token = token := by
  unfold peek at run
  split at run
  · nomatch run
  · rename_i lexeme _ found
    cases run
    exact ⟨rfl, lexeme, found, rfl⟩

theorem advance_eq_ok
    {cursor moved : Cursor}
    {token : Token}
    {span : Span}
    (run : advance cursor = .ok ((token, span), moved)) :
    ∃ lexeme, lexemeAt cursor = .ok (lexeme, span) ∧ lexeme.token = token ∧
      moved = behind cursor lexeme span := by
  unfold advance at run
  split at run
  · nomatch run
  · rename_i lexeme _ found
    cases run
    exact ⟨lexeme, found, rfl, rfl⟩

theorem eatIf_of_pass
    {test : Token → Bool}
    {cursor : Cursor}
    {lexeme : Lexeme}
    {span : Span}
    (found : lexemeAt cursor = .ok (lexeme, span))
    (passes : test lexeme.token = true) :
    eatIf test cursor = .ok (true, behind cursor lexeme span) := by
  rw [eatIf, bind_of_ok (peek_of_lexeme found)]
  simp only [passes, if_true]
  rw [bind_of_ok (advance_of_lexeme found)]
  rfl

theorem eatIf_of_not
    {test : Token → Bool}
    {cursor : Cursor}
    {lexeme : Lexeme}
    {span : Span}
    (found : lexemeAt cursor = .ok (lexeme, span))
    (fails : test lexeme.token = false) :
    eatIf test cursor = .ok (false, cursor) := by
  rw [eatIf, bind_of_ok (peek_of_lexeme found)]
  simp only [fails]
  rfl

theorem eat_of_symbol
    {symbol : Symbol}
    {cursor : Cursor}
    {lexeme : Lexeme}
    {span : Span}
    (found : lexemeAt cursor = .ok (lexeme, span))
    (isSymbol : lexeme.token.isSymbol symbol = true) :
    eat symbol cursor = .ok (true, behind cursor lexeme span) :=
  eatIf_of_pass found isSymbol

theorem eat_of_not
    {symbol : Symbol}
    {cursor : Cursor}
    {lexeme : Lexeme}
    {span : Span}
    (found : lexemeAt cursor = .ok (lexeme, span))
    (noSymbol : lexeme.token.isSymbol symbol = false) :
    eat symbol cursor = .ok (false, cursor) :=
  eatIf_of_not found noSymbol

theorem expect_of_symbol
    {symbol : Symbol}
    {cursor : Cursor}
    {lexeme : Lexeme}
    {span : Span}
    (expectation : Expectation)
    (found : lexemeAt cursor = .ok (lexeme, span))
    (isSymbol : lexeme.token.isSymbol symbol = true) :
    expect symbol expectation cursor = .ok ((), behind cursor lexeme span) := by
  rw [expect, bind_of_ok (peek_of_lexeme found)]
  simp only [isSymbol, if_true]
  rw [bind_of_ok (advance_of_lexeme found)]
  rfl

theorem expect_eq_ok
    {symbol : Symbol}
    {expectation : Expectation}
    {cursor moved : Cursor}
    {a : Unit}
    (run : expect symbol expectation cursor = .ok (a, moved)) :
    ∃ lexeme span, lexemeAt cursor = .ok (lexeme, span) ∧
      lexeme.token.isSymbol symbol = true ∧ moved = behind cursor lexeme span := by
  rcases bind_eq_ok run with ⟨⟨token, span⟩, between, peeked, rest⟩
  rcases peek_eq_ok peeked with ⟨rfl, lexeme, found, rfl⟩
  cases isSymbol : lexeme.token.isSymbol symbol with
  | false =>
      simp only [isSymbol] at rest
      nomatch rest
  | true =>
      rw [expect_of_symbol expectation found isSymbol] at run
      cases run
      exact ⟨lexeme, span, found, isSymbol, rfl⟩

theorem charge_eq_ok
    {cost : Nat}
    {span : Span}
    {cursor moved : Cursor}
    {a : Unit}
    (run : charge cost span cursor = .ok (a, moved)) :
    cursor.depth + cost ≤ maximalDepth ∧
      moved = { cursor with depth := cursor.depth + cost } := by
  unfold charge at run
  split at run
  · nomatch run
  · cases run
    exact ⟨by omega, rfl⟩

/-- What is read one level deeper. -/
theorem nested_eq_ok
    {span : Span}
    {parser : Parser α}
    {cursor moved : Cursor}
    {a : α}
    (run : nested span parser cursor = .ok (a, moved)) :
    cursor.depth + nestingCost ≤ maximalDepth ∧
      ∃ stop, parser { cursor with depth := cursor.depth + nestingCost } = .ok (a, stop) ∧
        moved = { stop with depth := stop.depth - nestingCost } := by
  unfold nested at run
  rcases bind_eq_ok run with ⟨_, deeper, charged, run⟩
  rcases bind_eq_ok run with ⟨_, stop, read, run⟩
  rcases bind_eq_ok run with ⟨_, released, release, answered⟩
  rcases charge_eq_ok charged with ⟨enough, rfl⟩
  cases release
  cases answered
  exact ⟨enough, stop, read, rfl⟩

end Primitives

section Loops

variable {step : σ → Parser (Step σ β)}

/-- What the rounds of a loop keep, and turn into something else in the last one. -/
theorem rounds_invariant
    (invariant : σ → Cursor → Prop)
    (result : β → Cursor → Prop)
    (again : ∀ {state cursor next moved}, invariant state cursor →
      step state cursor = .ok (.again next, moved) → invariant next moved)
    (done : ∀ {state cursor b moved}, invariant state cursor →
      step state cursor = .ok (.done b, moved) → result b moved)
    {bound : Nat}
    {state : σ}
    {cursor stop : Cursor}
    {b : β}
    (begun : invariant state cursor)
    (run : rounds step bound state cursor = .ok (b, stop)) :
    result b stop := by
  induction bound generalizing state cursor with
  | zero =>
      nomatch run
  | succ bound ih =>
      rw [rounds] at run
      rcases bind_eq_ok run with ⟨next, moved, stepped, rest⟩
      cases next with
      | again next =>
          exact ih (again begun stepped) rest
      | done last =>
          cases rest
          exact done begun stepped

theorem iterate_invariant
    (invariant : σ → Cursor → Prop)
    (result : β → Cursor → Prop)
    (again : ∀ {state cursor next moved}, invariant state cursor →
      step state cursor = .ok (.again next, moved) → invariant next moved)
    (done : ∀ {state cursor b moved}, invariant state cursor →
      step state cursor = .ok (.done b, moved) → result b moved)
    {state : σ}
    {cursor stop : Cursor}
    {b : β}
    (begun : invariant state cursor)
    (run : iterate step state cursor = .ok (b, stop)) :
    result b stop :=
  rounds_invariant invariant result again done begun run

/-- Every round of a loop that asks for another one has read something. -/
def Reads (step : σ → Parser (Step σ β)) : Prop :=
  ∀ ⦃state cursor next moved⦄, step state cursor = .ok (.again next, moved) →
    moved.rest.length < cursor.rest.length

/-- The bound of a loop makes no difference if it is beyond the characters that are left. -/
theorem rounds_eq_of_lt
    (reads : Reads step)
    {first second : Nat}
    (state : σ)
    (cursor : Cursor)
    (enough : cursor.rest.length < first)
    (enoughToo : cursor.rest.length < second) :
    rounds step first state cursor = rounds step second state cursor := by
  induction first generalizing second state cursor with
  | zero => omega
  | succ first ih =>
      cases second with
      | zero => omega
      | succ second =>
          rw [rounds, rounds]
          cases outcome : step state cursor with
          | error fault =>
              rw [bind_of_error outcome, bind_of_error outcome]
          | ok answer =>
              rcases answer with ⟨next | last, moved⟩
              · have shorter := reads outcome
                rw [bind_of_ok outcome, bind_of_ok outcome]
                exact ih next moved (by omega) (by omega)
              · rw [bind_of_ok outcome, bind_of_ok outcome]

/-- A loop is its first round, and the loop again if that asks for it. -/
theorem iterate_eq (reads : Reads step) (state : σ) :
    iterate step state =
      step state >>= fun
        | .done result => pure result
        | .again next => iterate step next := by
  funext cursor
  rw [iterate, rounds]
  cases outcome : step state cursor with
  | error fault =>
      rw [bind_of_error outcome, bind_of_error outcome]
  | ok answer =>
      rcases answer with ⟨next | last, moved⟩
      · have shorter := reads outcome
        rw [bind_of_ok outcome, bind_of_ok outcome]
        exact rounds_eq_of_lt reads next moved (by omega) (by omega)
      · rw [bind_of_ok outcome, bind_of_ok outcome]

theorem iterate_of_done
    {state : σ}
    {cursor moved : Cursor}
    {b : β}
    (h : step state cursor = .ok (.done b, moved)) :
    iterate step state cursor = .ok (b, moved) := by
  rw [iterate, rounds, bind_of_ok h]
  rfl

theorem iterate_of_again
    (reads : Reads step)
    {state next : σ}
    {cursor moved : Cursor}
    (h : step state cursor = .ok (.again next, moved)) :
    iterate step state cursor = iterate step next moved := by
  rw [iterate_eq reads state, bind_of_ok h]

/-- Where there are characters left, two rounds are never too many. -/
theorem iterate_of_two
    {state next : σ}
    {cursor moved stop : Cursor}
    {b : β}
    (more : cursor.rest ≠ [])
    (first : step state cursor = .ok (.again next, moved))
    (second : step next moved = .ok (.done b, stop)) :
    iterate step state cursor = .ok (b, stop) := by
  cases left : cursor.rest with
  | nil => exact absurd left more
  | cons c rest =>
      rw [iterate, left, List.length_cons, rounds, bind_of_ok first]
      dsimp only
      rw [rounds, bind_of_ok second]
      rfl

theorem iterate_of_error
    {state : σ}
    {cursor : Cursor}
    {fault : Fault}
    (h : step state cursor = .error fault) :
    iterate step state cursor = .error fault := by
  rw [iterate, rounds, bind_of_error h]

end Loops

/-- Wherever a parser stops, it stands in a relation to where it started. -/
def Keeps (relation : Cursor → Cursor → Prop) (parser : Parser α) : Prop :=
  ∀ ⦃cursor a moved⦄, parser cursor = .ok (a, moved) → relation cursor moved

section Keeps

variable {relation : Cursor → Cursor → Prop} [IsPreorder Cursor relation]

theorem keeps_pure (a : α) : Keeps relation (pure a : Parser α) := by
  rintro cursor _ _ ⟨⟩
  exact refl cursor

omit [IsPreorder Cursor relation] in
theorem keeps_fail (cause : Cause) (span : Span) :
    Keeps relation (fail cause span : Parser α) := by
  intro cursor a moved run
  nomatch run

omit [IsPreorder Cursor relation] in
theorem keeps_failExpecting (expectation : Expectation) (span : Span) :
    Keeps relation (failExpecting expectation span : Parser α) :=
  keeps_fail _ span

theorem keeps_cursor : Keeps relation cursor := by
  rintro start _ _ ⟨⟩
  exact refl start

theorem keeps_spanFrom (start : Nat) : Keeps relation (spanFrom start) := by
  rintro cursor _ _ ⟨⟩
  exact refl cursor

theorem keeps_peek : Keeps relation peek := by
  intro cursor a moved run
  unfold peek at run
  split at run
  · nomatch run
  · cases run
    exact refl cursor

theorem Keeps.bind
    {first : Parser α}
    {next : α → Parser β}
    (firstKeeps : Keeps relation first)
    (nextKeeps : ∀ a, Keeps relation (next a)) :
    Keeps relation (first >>= next) := by
  intro cursor b stop run
  rcases bind_eq_ok run with ⟨a, moved, read, rest⟩
  exact IsTrans.trans _ _ _ (firstKeeps read) (nextKeeps a rest)

omit [IsPreorder Cursor relation] in
theorem Keeps.map
    {parser : Parser α}
    (keeps : Keeps relation parser)
    (f : α → β) :
    Keeps relation (f <$> parser) := by
  intro cursor b moved run
  rcases map_eq_ok run with ⟨a, read, _⟩
  exact keeps read

theorem Keeps.attempt
    {parser : Parser α}
    (keeps : Keeps relation parser) :
    Keeps relation (attempt parser) := by
  intro cursor answer moved run
  unfold Parser.attempt at run
  split at run
  · cases run
    exact refl cursor
  · rename_i a stop read
    cases run
    exact keeps read

theorem Keeps.restoring
    {parser : Parser (Option α)}
    (keeps : Keeps relation parser) :
    Keeps relation (restoring parser) := by
  intro cursor answer moved run
  rcases restoring_eq_ok run with ⟨_, rfl, _⟩ | ⟨a, _, read⟩
  · exact refl moved
  · exact keeps read

theorem Keeps.iterate
    {step : σ → Parser (Step σ β)}
    (keeps : ∀ state, Keeps relation (step state))
    (state : σ) :
    Keeps relation (iterate step state) := by
  intro cursor b stop run
  exact iterate_invariant
    (fun _ between => relation cursor between)
    (fun _ stop => relation cursor stop)
    (fun kept stepped => IsTrans.trans _ _ _ kept (keeps _ stepped))
    (fun kept stepped => IsTrans.trans _ _ _ kept (keeps _ stepped))
    (refl cursor) run

theorem Keeps.many
    {parser : Parser (Option α)}
    (keeps : Keeps relation parser) :
    Keeps relation (many parser) := by
  apply Keeps.iterate
  intro collected
  refine keeps.bind fun answer => ?_
  cases answer with
  | none => exact keeps_pure _
  | some a => exact keeps_pure _

end Keeps

section Yields

variable {good : α → Prop}

/-- Whatever a parser reads has a property. -/
def Yields (good : α → Prop) (parser : Parser α) : Prop :=
  ∀ ⦃cursor a moved⦄, parser cursor = .ok (a, moved) → good a

theorem yields_pure {a : α} (h : good a) : Yields good (pure a : Parser α) := by
  rintro cursor _ _ ⟨⟩
  exact h

theorem yields_fail (cause : Cause) (span : Span) :
    Yields good (fail cause span : Parser α) := by
  intro cursor a moved run
  nomatch run

theorem yields_failExpecting (expectation : Expectation) (span : Span) :
    Yields good (failExpecting expectation span : Parser α) :=
  yields_fail _ span

theorem yields_any (parser : Parser α) : Yields (fun _ => True) parser :=
  fun _ _ _ _ => trivial

theorem Yields.bind
    {result : β → Prop}
    {first : Parser α}
    {next : α → Parser β}
    (firstYields : Yields good first)
    (nextYields : ∀ a, good a → Yields result (next a)) :
    Yields result (first >>= next) := by
  intro cursor b stop run
  rcases bind_eq_ok run with ⟨a, moved, read, rest⟩
  exact nextYields a (firstYields read) rest

theorem Yields.mono
    {better : α → Prop}
    {parser : Parser α}
    (yields : Yields good parser)
    (h : ∀ a, good a → better a) :
    Yields better parser :=
  fun _ a _ run => h a (yields run)

/-- What is read first does not matter. -/
theorem Yields.after
    {result : β → Prop}
    {first : Parser α}
    {next : α → Parser β}
    (nextYields : ∀ a, Yields result (next a)) :
    Yields result (first >>= next) :=
  (yields_any first).bind fun a _ => nextYields a

theorem Yields.map
    {result : β → Prop}
    {parser : Parser α}
    {f : α → β}
    (yields : Yields good parser)
    (h : ∀ a, good a → result (f a)) :
    Yields result (f <$> parser) := by
  intro cursor b moved run
  rcases map_eq_ok run with ⟨a, read, rfl⟩
  exact h a (yields read)

theorem Yields.nested
    {parser : Parser α}
    (yields : Yields good parser)
    (span : Span) :
    Yields good (nested span parser) := by
  intro cursor a moved run
  rcases nested_eq_ok run with ⟨_, stop, read, _⟩
  exact yields read

theorem Yields.restoring
    {parser : Parser (Option α)}
    (yields : Yields (fun answer => ∀ a ∈ answer, good a) parser) :
    Yields (fun answer => ∀ a ∈ answer, good a) (restoring parser) := by
  intro cursor answer moved run
  rcases restoring_eq_ok run with ⟨rfl, _⟩ | ⟨a, rfl, read⟩
  · simp
  · exact yields read

theorem Yields.attempt
    {parser : Parser α}
    (yields : Yields good parser) :
    Yields (fun answer => ∀ a ∈ answer, good a) (attempt parser) := by
  intro cursor answer moved run
  unfold Parser.attempt at run
  split at run
  · cases run
    simp
  · rename_i a stop read
    cases run
    simpa using yields read

/-- What a loop has collected has a property if what each round adds has it. -/
theorem Yields.iterate
    {result : β → Prop}
    {step : σ → Parser (Step σ β)}
    (kept : σ → Prop)
    (round : ∀ state, kept state →
      Yields (fun
        | .again next => kept next
        | .done b => result b) (step state))
    {state : σ}
    (begun : kept state) :
    Yields result (iterate step state) := by
  intro cursor b stop run
  exact iterate_invariant (fun state _ => kept state) (fun b _ => result b)
    (fun holds stepped => round _ holds stepped)
    (fun holds stepped => round _ holds stepped) begun run

theorem Yields.many
    {parser : Parser (Option α)}
    (yields : Yields (fun answer => ∀ a ∈ answer, good a) parser) :
    Yields (fun collected => ∀ a ∈ collected, good a) (many parser) := by
  refine Yields.iterate (fun collected => ∀ a ∈ collected, good a) ?_ (by simp)
  intro collected each
  refine yields.bind fun answer found => ?_
  cases answer with
  | none =>
      apply yields_pure
      simpa using each
  | some a =>
      apply yields_pure
      simp only [List.forall_mem_cons]
      exact ⟨found a rfl, each⟩

end Yields

end Parser

end GcodeTemplate
