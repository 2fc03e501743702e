import GcodeTemplate.Proofs.Parsing

/-!
# Cursors that are alike

Two cursors are alike if the same text is left behind them and as much nesting is spent.
They may stand at different places of different sources.  A parser cannot tell them apart
but by the spans that it notes: at both it fails, or at both it reads something and moves on
to cursors that are alike again.  What it reads there has the same shape, as far as anything
that is read afterwards depends on it.
-/

namespace GcodeTemplate

/-- Two cursors that differ at most in where they stand. -/
structure Cursor.Alike (cursor there : Cursor) : Prop where
  rest : there.rest = cursor.rest
  depth : there.depth = cursor.depth

namespace Parser

variable {α β γ σ : Type}

/-- Two outcomes that are both faults, or results in a relation with cursors that are alike. -/
inductive OutcomesAgree (same : α → α → Prop) :
    Except Fault (α × Cursor) → Except Fault (α × Cursor) → Prop
  | faults (fault other : Fault) :
      OutcomesAgree same (.error fault) (.error other)
  | results {a b : α} {moved there : Cursor} :
      same a b → moved.Alike there → OutcomesAgree same (.ok (a, moved)) (.ok (b, there))

/-- At cursors that are alike two parsers have outcomes that agree. -/
def Agree (same : α → α → Prop) (first second : Parser α) : Prop :=
  ∀ ⦃cursor there : Cursor⦄, cursor.Alike there →
    OutcomesAgree same (first cursor) (second there)

/-- What is read does not matter. -/
abbrev Anything (_ _ : α) : Prop :=
  True

/-- Two answers that are both there or both nothing. -/
abbrev SameAnswer : Option α → Option α → Prop :=
  Option.Rel Anything

/-- Two tokens that differ at most in where they stand. -/
def SameToken (found other : Token × Span) : Prop :=
  other.1 = found.1

/-- Two rounds of a loop that both ask for another one, or both are the last. -/
inductive SameStep (kept : σ → σ → Prop) (same : β → β → Prop) : Step σ β → Step σ β → Prop
  | again {state other : σ} :
      kept state other → SameStep kept same (.again state) (.again other)
  | done {result other : β} :
      same result other → SameStep kept same (.done result) (.done other)

section Combinators

variable {same : α → α → Prop} {result : β → β → Prop}

theorem agree_pure {a b : α} (h : same a b) :
    Agree same (pure a) (pure b) :=
  fun _ _ alike => .results h alike

theorem agree_fail (cause other : Cause) (span further : Span) :
    Agree same (fail cause span) (fail other further) :=
  fun _ _ _ => .faults _ _

theorem agree_failExpecting (expectation other : Expectation) (span further : Span) :
    Agree same (failExpecting expectation span) (failExpecting other further) :=
  agree_fail _ _ _ _

/-- Both parsers fail, or both read something and move on. -/
theorem Agree.outcomes
    {first second : Parser α}
    {cursor there : Cursor}
    (agree : Agree same first second)
    (alike : cursor.Alike there) :
    (∃ fault other, first cursor = .error fault ∧ second there = .error other) ∨
      ∃ a b moved further, first cursor = .ok (a, moved) ∧ second there = .ok (b, further) ∧
        same a b ∧ moved.Alike further := by
  have agreed := agree alike
  generalize first cursor = outcome, second there = outcomeThere at agreed
  cases agreed with
  | faults fault other => exact .inl ⟨fault, other, rfl, rfl⟩
  | results related alike => exact .inr ⟨_, _, _, _, rfl, rfl, related, alike⟩

/-- One parser after the other, each of them with another parser that it agrees with. -/
theorem Agree.bind
    {first second : Parser α}
    {next continuation : α → Parser β}
    (firstAgree : Agree same first second)
    (nextAgree : ∀ a b, same a b → Agree result (next a) (continuation b)) :
    Agree result (first >>= next) (second >>= continuation) := by
  intro cursor there alike
  rcases firstAgree.outcomes alike with
    ⟨fault, other, fails, failsThere⟩ | ⟨a, b, _, _, read, readThere, related, moved⟩
  · rw [bind_of_error fails, bind_of_error failsThere]
    exact .faults fault other
  · rw [bind_of_ok read, bind_of_ok readThere]
    exact nextAgree a b related moved

theorem Agree.map
    {f g : α → β}
    {first second : Parser α}
    (agree : Agree same first second)
    (h : ∀ a b, same a b → result (f a) (g b)) :
    Agree result (f <$> first) (g <$> second) := by
  rw [map_eq_pure_bind, map_eq_pure_bind]
  exact agree.bind fun a b related => agree_pure (h a b related)

/-- A trial answers at one cursor if it answers at the other one. -/
theorem Agree.attempt
    {first second : Parser α}
    (agree : Agree same first second) :
    Agree (Option.Rel same) (attempt first) (attempt second) := by
  intro cursor there alike
  unfold Parser.attempt
  rcases agree.outcomes alike with
    ⟨_, _, fails, failsThere⟩ | ⟨_, _, _, _, read, readThere, related, moved⟩
  · rw [fails, failsThere]
    exact .results .none alike
  · rw [read, readThere]
    exact .results (.some related) moved

theorem Agree.restoring
    {first second : Parser (Option α)}
    (agree : Agree (Option.Rel same) first second) :
    Agree (Option.Rel same) (restoring first) (restoring second) := by
  intro cursor there alike
  unfold Parser.restoring
  rcases agree.outcomes alike with
    ⟨fault, other, fails, failsThere⟩ | ⟨_, _, _, _, read, readThere, answered, moved⟩
  · rw [fails, failsThere]
    exact .faults fault other
  · rw [read, readThere]
    cases answered with
    | none => exact .results .none alike
    | some related => exact .results (.some related) moved

theorem agree_rounds
    {kept : σ → σ → Prop}
    {step : σ → Parser (Step σ β)}
    (agree : ∀ state other, kept state other →
      Agree (SameStep kept result) (step state) (step other))
    (bound : Nat)
    {state other : σ}
    (begun : kept state other) :
    Agree result (rounds step bound state) (rounds step bound other) := by
  induction bound generalizing state other with
  | zero => exact fun _ _ _ => .faults _ _
  | succ bound ih =>
      refine (agree state other begun).bind fun answer answerThere related => ?_
      cases related with
      | done finished => exact agree_pure finished
      | again further => exact ih further

/-- As many characters are left, so the loops have as many rounds to spare. -/
theorem agree_iterate
    (kept : σ → σ → Prop)
    {step : σ → Parser (Step σ β)}
    (agree : ∀ state other, kept state other →
      Agree (SameStep kept result) (step state) (step other))
    {state other : σ}
    (begun : kept state other) :
    Agree result (iterate step state) (iterate step other) := by
  intro cursor there alike
  unfold iterate
  rw [alike.rest]
  exact agree_rounds agree _ begun alike

theorem Agree.many
    {parser : Parser (Option α)}
    (agree : Agree SameAnswer parser parser) :
    Agree Anything (many parser) (many parser) := by
  refine agree_iterate Anything (fun collected other _ => ?_) trivial
  refine agree.bind fun answer answerThere related => ?_
  cases related with
  | none => exact agree_pure (.done trivial)
  | some => exact agree_pure (.again trivial)

end Combinators

section Primitives

/-- The same lexeme comes next, or none can be read at either cursor. -/
theorem lexemeAt_of_alike
    {cursor there : Cursor}
    (alike : cursor.Alike there) :
    (∃ fault other, lexemeAt cursor = .error fault ∧ lexemeAt there = .error other) ∨
      ∃ lexeme span further, lexemeAt cursor = .ok (lexeme, span) ∧
        lexemeAt there = .ok (lexeme, further) := by
  simp only [lexemeAt, alike.rest]
  cases Lexeme.read (cursor.rest.dropWhile Text.isAsciiBlank) with
  | error flaw => exact .inl ⟨_, _, rfl, rfl⟩
  | ok lexeme => exact .inr ⟨lexeme, _, _, rfl, rfl⟩

theorem agree_cursor : Agree Cursor.Alike cursor cursor :=
  fun _ _ alike => .results alike alike

theorem agree_peek : Agree SameToken peek peek := by
  intro cursor there alike
  rcases lexemeAt_of_alike alike with ⟨_, _, none, noneThere⟩ | ⟨_, _, _, found, foundThere⟩
  · rw [peek, peek, none, noneThere]
    exact .faults _ _
  · rw [peek_of_lexeme found, peek_of_lexeme foundThere]
    exact .results rfl alike

theorem agree_advance : Agree SameToken advance advance := by
  intro cursor there alike
  rcases lexemeAt_of_alike alike with ⟨_, _, none, noneThere⟩ | ⟨_, _, _, found, foundThere⟩
  · rw [advance, advance, none, noneThere]
    exact .faults _ _
  · rw [advance_of_lexeme found, advance_of_lexeme foundThere]
    exact .results rfl ⟨rfl, alike.depth⟩

theorem agree_eatIf (test : Token → Bool) : Agree Eq (eatIf test) (eatIf test) := by
  refine agree_peek.bind ?_
  rintro ⟨token, span⟩ ⟨_, further⟩ ⟨⟩
  dsimp only
  split
  · exact agree_advance.bind fun _ _ _ => agree_pure rfl
  · exact agree_pure rfl

theorem agree_eat (symbol : Symbol) : Agree Eq (eat symbol) (eat symbol) :=
  agree_eatIf _

theorem agree_eatWord (name : String) : Agree Eq (eatWord name) (eatWord name) :=
  agree_eatIf _

theorem agree_expect (symbol : Symbol) (expectation : Expectation) :
    Agree Anything (expect symbol expectation) (expect symbol expectation) := by
  refine agree_peek.bind ?_
  rintro ⟨token, span⟩ ⟨_, further⟩ ⟨⟩
  dsimp only
  split
  · exact agree_advance.bind fun _ _ _ => agree_pure trivial
  · exact agree_failExpecting _ _ _ _

theorem agree_spanFrom (start other : Nat) :
    Agree Anything (spanFrom start) (spanFrom other) :=
  fun _ _ alike => .results trivial alike

/-- Whether there is enough nesting left depends on the depth alone. -/
theorem agree_charge (cost : Nat) (span further : Span) :
    Agree Anything (charge cost span) (charge cost further) := by
  intro cursor there alike
  unfold charge
  rw [alike.depth]
  split
  · exact .faults _ _
  · exact .results trivial ⟨alike.rest, rfl⟩

theorem agree_release (cost : Nat) : Agree Anything (release cost) (release cost) :=
  fun _ _ alike => .results trivial ⟨alike.rest, congrArg (· - cost) alike.depth⟩

theorem Agree.nested
    {same : α → α → Prop}
    {first second : Parser α}
    (agree : Agree same first second)
    (span further : Span) :
    Agree same (nested span first) (nested further second) :=
  (agree_charge _ _ _).bind fun _ _ _ => agree.bind fun _ _ related =>
    (agree_release _).bind fun _ _ _ => agree_pure related

end Primitives

/-- Two parsers that agree both read something at cursors that are alike, or neither does. -/
theorem Agree.exists_iff
    {same : α → α → Prop}
    {first second : Parser α}
    (agree : Agree same first second)
    {cursor there : Cursor}
    (alike : cursor.Alike there) :
    (∃ result, first cursor = .ok result) ↔ ∃ result, second there = .ok result := by
  rcases agree.outcomes alike with
    ⟨_, _, fails, failsThere⟩ | ⟨_, _, _, _, read, readThere, _, _⟩
  · simp [fails, failsThere]
  · simp [read, readThere]

end Parser

end GcodeTemplate
