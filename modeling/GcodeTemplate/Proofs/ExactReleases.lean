import GcodeTemplate.Proofs.Progress

/-!
# Units that are given back exactly

Units of nesting are given back by a subtraction that is cut at zero.  The cut could hide
that more is given back than has been spent.  Here the units are given back exactly instead,
with a fault where they are not there; and wherever the grammar gives units back, namely at
the ends of chains and of what is one level deeper, this comes to the same.
-/

namespace GcodeTemplate

namespace Parser

variable {α β σ : Type}

/-- Give units of nesting back that have been spent; it is a fault if there are not as many. -/
def repay (cost : Nat) : Parser Unit :=
  fun cursor =>
    if cursor.depth < cost then
      .error ⟨.nestedTooDeeply, .point cursor.position⟩
    else
      .ok ((), { cursor with depth := cursor.depth - cost })

theorem repay_of_le
    {cost : Nat}
    {cursor : Cursor}
    (enough : cost ≤ cursor.depth) :
    repay cost cursor = release cost cursor := by
  rw [repay, if_neg (Nat.not_lt.2 enough), release]

/-- Read something one level deeper, and give back exactly what that has cost. -/
def nestedExactly (span : Span) (parser : Parser α) : Parser α := do
  charge nestingCost span
  let a ← parser
  repay nestingCost
  pure a

/-- What follows has to be the same only for what can come first. -/
theorem bind_apply_congr
    {first : Parser α}
    {next other : α → Parser β}
    {cursor : Cursor}
    (same : ∀ a moved, first cursor = .ok (a, moved) → next a moved = other a moved) :
    (first >>= next) cursor = (first >>= other) cursor := by
  cases outcome : first cursor with
  | error fault => rw [bind_of_error outcome, bind_of_error outcome]
  | ok answer =>
      rw [bind_of_ok outcome, bind_of_ok outcome]
      exact same answer.1 answer.2 outcome

/-- Two loops are the same if their rounds are, as far as an invariant of the rounds goes. -/
theorem iterate_congr
    {step other : σ → Parser (Step σ β)}
    (invariant : σ → Cursor → Prop)
    (same : ∀ state cursor, invariant state cursor → step state cursor = other state cursor)
    (again : ∀ {state cursor next moved}, invariant state cursor →
      step state cursor = .ok (.again next, moved) → invariant next moved)
    {state : σ}
    {cursor : Cursor}
    (begun : invariant state cursor) :
    iterate step state cursor = iterate other state cursor := by
  unfold iterate
  generalize cursor.rest.length + 1 = bound
  induction bound generalizing state cursor with
  | zero => rfl
  | succ bound ih =>
      have there := same state cursor begun
      rw [rounds, rounds]
      cases outcome : step state cursor with
      | error fault => rw [bind_of_error outcome, bind_of_error (there.symm.trans outcome)]
      | ok answer =>
          rcases answer with ⟨next | result, moved⟩
          · rw [bind_of_ok outcome, bind_of_ok (there.symm.trans outcome)]
            exact ih (again begun outcome)
          · rw [bind_of_ok outcome, bind_of_ok (there.symm.trans outcome)]

/-- What leaves the depth as it was leaves enough of it for what it has cost to be nested. -/
theorem nested_eq_nestedExactly
    {parser : Parser α}
    (keeps : Keeps Cursor.Precedes parser)
    (span : Span) :
    nested span parser = nestedExactly span parser := by
  funext cursor
  refine bind_apply_congr fun _ deeper charged => bind_apply_congr fun a stop read => ?_
  rcases charge_eq_ok charged with ⟨_, rfl⟩
  have depth : stop.depth = cursor.depth + nestingCost := (keeps read).depth
  have repaid : repay nestingCost stop = release nestingCost stop :=
    repay_of_le (depth ▸ Nat.le_add_left _ _)
  simp only [bind, repaid]

end Parser

namespace Grammar

open GcodeTemplate.Parser
open Cursor (Precedes)

/-- A round of the loop of a chain, at whose end its units are given back exactly. -/
def Level.stepExactly
    (level : Level)
    (operand : Parser Expr) :
    Expr × Nat → Parser (Step (Expr × Nat) Expr)
  | (left, spent) => do
      let (token, _) ← peek
      match level.operator? token, level.match? token with
      | some operator, _ => chainLink operand operator left spent
      | none, some negated => matchLink negated left spent
      | none, none => do
          repay spent
          pure (.done left)

/-- A chain of a level, at whose end its units are given back exactly. -/
def Level.linksExactly (level : Level) (operand : Parser Expr) : Parser Expr := do
  let first ← operand
  iterate (level.stepExactly operand) (first, 0)

theorem Level.step_eq_stepExactly
    (level : Level)
    (operand : Parser Expr)
    {left : Expr}
    {spent : Nat}
    {cursor : Cursor}
    (enough : spent ≤ cursor.depth) :
    level.step operand (left, spent) cursor = level.stepExactly operand (left, spent) cursor := by
  refine bind_apply_congr fun ⟨token, span⟩ moved peeked => ?_
  obtain rfl : moved = cursor := (peek_eq_ok peeked).1
  dsimp only
  cases level.operator? token with
  | some operator => rfl
  | none =>
      cases level.match? token with
      | some negated => rfl
      | none => simp only [chainEnd, bind, repay_of_le enough]

/-- The depth is at all times at least what the chain has spent. -/
theorem Level.links_eq_linksExactly
    (level : Level)
    {operand : Parser Expr}
    (keeps : Keeps Precedes operand) :
    level.links operand = level.linksExactly operand := by
  funext cursor
  refine bind_apply_congr fun first moved _ => ?_
  refine iterate_congr (fun (state : Expr × Nat) cursor => state.2 ≤ cursor.depth)
    (fun state cursor => level.step_eq_stepExactly operand) ?_ (Nat.zero_le _)
  rintro ⟨left, spent⟩ cursor ⟨next, more⟩ stop enough stepped
  have accounted := (level.accounts_step keeps stepped).2.2
  dsimp only at enough accounted ⊢
  omega

/-- The two branches of a conditional, which are one level deeper than it. -/
def bothBranches (inner : Expressions) : Parser (Expr × Expr) := do
  let yes ← inner.conditional
  expect .colon .conditional
  let no ← inner.conditional
  pure (yes, no)

/-- The branches behind a condition, after which the units are given back exactly. -/
def branchingExactly (inner : Expressions) (condition : Expr) : Parser Expr := do
  if ← eat .question then
    let (yes, no) ← nestedExactly condition.span (bothBranches inner)
    let span ← spanFrom condition.span.start
    pure (.conditional span condition yes no)
  else
    pure condition

/-- An operand, after which the units are given back exactly. -/
def operandExactly (inner : Expressions) : Parser Expr := do
  let (_, span) ← peek
  nestedExactly span (primary inner)

section Exact

variable {inner : Expressions} (keep : inner.Keep Precedes)

include keep

theorem operand_eq_operandExactly : operand inner = operandExactly inner :=
  congrArg (peek >>= ·) (funext fun _ => nested_eq_nestedExactly keep.primary _)

theorem branching_eq_branchingExactly (condition : Expr) :
    branching inner condition = branchingExactly inner condition := by
  have keeps : Keeps Precedes (bothBranches inner) :=
    keep.conditional.bind fun _ => (keeps_expect _ _).bind fun _ =>
      keep.conditional.bind fun _ => keeps_pure _
  rw [branchingExactly, ← nested_eq_nestedExactly keeps]
  rfl

/-- These are all chains, those in indices and counts included. -/
theorem parser_eq_linksExactly
    {level : Level}
    (isChain : level.isChain) :
    level.parser inner = level.linksExactly (level.tighter.parser inner) :=
  (level.parser_eq_links inner isChain).trans (level.links_eq_linksExactly (keep.parser _))

end Exact

end Grammar

end GcodeTemplate
