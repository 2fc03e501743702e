import GcodeTemplate.Proofs.Fitting
import GcodeTemplate.Proofs.PrintedTokens
import GcodeTemplate.Proofs.Progress

/-!
# Reading written expressions at all levels

What is written without parentheses is read at its own level, and at each looser one as a
chain of one operand; what needs parentheses is read as an operand, and at each looser
level again as a chain of one operand.  So it is enough to read an expression at its own
level.

A chain is read operator by operator: behind its last operand the loop goes on with the
tree that it has so far and the units that its operators have spent.  What may follow
there is anything that ends the last operand, be it another operator or the end.
-/

namespace GcodeTemplate

open Grammar GcodeTemplate.Parser Text
open Cursor (Precedes)

/-- What comes next at a cursor, behind blanks. -/
def Cursor.Faces (cursor : Cursor) (text : List Char) : Prop :=
  cursor.rest.dropWhile isAsciiBlank = text

theorem lexemeAt_of_faces
    {cursor : Cursor}
    {text : List Char}
    {lexeme : Lexeme}
    (faces : cursor.Faces text)
    (read : Lexeme.read text = .ok lexeme) :
    ∃ span, lexemeAt cursor = .ok (lexeme, span) := by
  rw [← faces] at read
  simp [lexemeAt, read]

namespace Grammar

section Levels

variable {level other : Level}

theorem Level.eq_of_rank_eq (same : level.rank = other.rank) : level = other := by
  cases level <;> cases other <;> first | rfl | nomatch same

theorem Level.ne_of_rank_lt (tighter : level.rank < other.rank) : level ≠ other := by
  rintro rfl
  exact Nat.lt_irrefl _ tighter

theorem Level.rank_le_operand (level : Level) : level.rank ≤ operand.rank := by
  cases level <;> decide

theorem Level.ne_operand_of_isChain (isChain : level.isChain) : level ≠ .operand := by
  rintro rfl
  nomatch isChain

/-- What holds of a level and goes on to the next looser one holds of all looser ones. -/
theorem Level.loosening
    {motive : Level → Prop}
    {tight : Level}
    (holds : motive tight)
    (looser : ∀ level, level.rank < tight.rank → motive level.tighter → motive level)
    (level : Level)
    (loose : level.rank ≤ tight.rank) :
    motive level := by
  induction gap : tight.rank - level.rank generalizing level with
  | zero =>
      have same : level = tight := eq_of_rank_eq (by omega)
      exact same ▸ holds
  | succ gap ih =>
      have bound := tight.rank_le_operand
      have proper : level ≠ .operand := ne_of_rank_lt (by omega)
      have next := rank_tighter proper
      exact looser level (by omega) (ih level.tighter (by omega) (by omega))

end Levels

section Cursors

variable
  {levels units further links : Nat}
  {level : Level}
  {cursor moved : Cursor}
  {more between : List Char}
  {good : Expr → Prop}

/-- Where no level of nesting is left, nothing is read at any level. -/
theorem parser_of_tooDeep
    {fault : Fault}
    (fails : tooDeep cursor = .error fault)
    (level : Level) :
    level.parser (expressions 0) cursor = .error fault := by
  induction level using Level.tightening with
  | conditional => exact fails
  | operand => exact fails
  | chain level isChain ih =>
      rw [level.parser_eq_links _ isChain]
      exact bind_of_error ih

theorem tooDeep_fails (cursor : Cursor) : ∃ fault, tooDeep cursor = .error fault := by
  cases looked : peek cursor with
  | error fault => exact ⟨fault, bind_of_error looked⟩
  | ok answer => exact ⟨_, bind_of_ok looked⟩

/-- Where no level of nesting is left, what takes some units at one level fails at all levels. -/
theorem fits_of_tooDeep
    {goodNext : Expr → Prop}
    (fits : Fits (level.parser (expressions 0)) units good between cursor)
    (other : Level) :
    Fits (other.parser (expressions 0)) (max units further) goodNext more cursor := by
  rcases tooDeep_fails cursor with ⟨fault, fails⟩
  have failed := parser_of_tooDeep fails level
  have exceeds : maximalDepth < cursor.depth + units := by
    apply Nat.lt_of_not_le
    intro room
    rcases fits.enough room with ⟨expr, stop, read, _⟩
    nomatch failed.symm.trans read
  constructor
  · intro less
    omega
  · intro _
    rcases fits.beyond exceeds with ⟨span, there⟩
    exact ⟨span, (parser_of_tooDeep fails other).trans (failed.symm.trans there)⟩

/-- What follows an expression is looked at, and nothing goes on with it. -/
theorem Level.Ends.found
    (ends : level.Ends more)
    (rest : cursor.rest = more) :
    ∃ lexeme span, lexemeAt cursor = .ok (lexeme, span) ∧ level.Stops lexeme.token ∧
      lexeme.token.isSymbol .leftBracket = false := by
  rcases ends.next with ⟨lexeme, read, stops, noBracket⟩
  have faces : cursor.Faces (more.dropWhile isAsciiBlank) := by rw [Cursor.Faces, rest]
  rcases lexemeAt_of_faces faces read with ⟨span, found⟩
  exact ⟨lexeme, span, found, stops, noBracket⟩

/--
Reading a chain from a cursor leads in front of some text to the loop of the chain, with
a tree that is good and the units of some links spent; or there are not units enough.
-/
structure Level.Leads
    (level : Level)
    (grammar : Expressions)
    (units links : Nat)
    (good : Expr → Prop)
    (more : List Char)
    (cursor : Cursor) : Prop where
  enough : cursor.depth + units ≤ maximalDepth →
    ∃ left moved,
      level.parser grammar cursor =
        iterate (level.step (level.tighter.parser grammar)) (left, links) moved ∧
      good left ∧ moved.rest = more ∧ moved.depth = cursor.depth + links
  beyond : maximalDepth < cursor.depth + units →
    ∃ span, level.parser grammar cursor = .error ⟨.nestedTooDeeply, span⟩

/-- The first operand of a chain leads to its loop. -/
theorem Level.leads_of_tighter
    {grammar : Expressions}
    (isChain : level.isChain)
    (fits : Fits (level.tighter.parser grammar) units good more cursor) :
    level.Leads grammar units 0 good more cursor where
  enough less := by
    rcases fits.enough less with ⟨first, moved, read, isGood, rest, depth⟩
    refine ⟨first, moved, ?_, isGood, rest, depth⟩
    rw [level.parser_eq_links grammar isChain, links, bind_of_ok read]
  beyond exceeds := by
    rcases fits.beyond exceeds with ⟨span, fails⟩
    rw [level.parser_eq_links grammar isChain]
    exact ⟨span, bind_of_error fails⟩

/-- A round of a chain takes the units of its operand and one for the operator. -/
theorem chainLink_of_fits
    {operand : Parser Expr}
    {lexeme : Lexeme}
    {span : Span}
    (found : lexemeAt cursor = .ok (lexeme, span))
    (fits :
      Fits operand units good more
        { Parser.behind cursor lexeme span with depth := cursor.depth + 1 })
    (operator : BinaryOperator)
    (left : Expr)
    (spent : Nat) :
    (cursor.depth + 1 + units ≤ maximalDepth → ∃ right stop,
        chainLink operand operator left spent cursor =
          .ok (Step.again (joined operator left right, spent + 1), stop) ∧
        good right ∧ stop.rest = more ∧ stop.depth = cursor.depth + 1) ∧
      (maximalDepth < cursor.depth + 1 + units → ∃ place,
        chainLink operand operator left spent cursor = .error ⟨.nestedTooDeeply, place⟩) := by
  let next := Parser.behind cursor lexeme span
  by_cases spent : maximalDepth < cursor.depth + 1
  · have fails : charge 1 left.span next = .error ⟨.nestedTooDeeply, left.span⟩ := if_pos spent
    refine ⟨fun less => by omega, fun _ => ⟨left.span, ?_⟩⟩
    rw [chainLink, bind_of_ok (advance_of_lexeme found), bind_of_error fails]
  · have charged : charge 1 left.span next = .ok ((), { next with depth := cursor.depth + 1 }) :=
      if_neg spent
    rw [chainLink, bind_of_ok (advance_of_lexeme found), bind_of_ok charged]
    constructor
    · intro less
      rcases fits.enough less with ⟨right, stop, read, isGood, rest, depth⟩
      exact ⟨right, stop, bind_of_ok read, isGood, rest, depth⟩
    · intro exceeds
      rcases fits.beyond exceeds with ⟨place, fails⟩
      exact ⟨place, bind_of_error fails⟩

/-- An operator and the operand behind it lead to the loop once more. -/
theorem Level.Leads.link
    {operator : BinaryOperator}
    {lexeme : Lexeme}
    {goodRight goodBoth : Expr → Prop}
    (leads : level.Leads (expressions levels) units links good between cursor)
    (read : Lexeme.read (between.dropWhile isAsciiBlank) = .ok lexeme)
    (isOperator : level.operator? lexeme.token = some operator)
    (fits : ∀ moved : Cursor,
      moved.rest = lexeme.rest → moved.depth = cursor.depth + links + 1 →
        Fits (level.tighter.parser (expressions levels)) further goodRight more moved)
    (isGood : ∀ left right, good left → goodRight right → goodBoth (joined operator left right)) :
    level.Leads (expressions levels) (max units (links + 1 + further)) (links + 1) goodBoth more
      cursor := by
  have reads := (level.accounts_step ((expressions_keep levels).parser level.tighter)).reads
  by_cases room : cursor.depth + units ≤ maximalDepth
  · rcases leads.enough room with ⟨left, moved, loop, goodLeft, rest, depth⟩
    have faces : moved.Faces (between.dropWhile isAsciiBlank) := by rw [Cursor.Faces, rest]
    rcases lexemeAt_of_faces faces read with ⟨span, found⟩
    have operand :=
      fits { Parser.behind moved lexeme span with depth := moved.depth + 1 } rfl (by rw [depth])
    have round := chainLink_of_fits found operand operator left links
    rw [← step_of_operator found isOperator] at round
    constructor
    · intro less
      rcases round.1 (by omega) with ⟨right, stop, linked, goodHere, restRight, depthRight⟩
      exact ⟨joined operator left right, stop,
        loop.trans (iterate_of_again reads linked),
        isGood left right goodLeft goodHere, restRight, by omega⟩
    · intro exceeds
      rcases round.2 (by omega) with ⟨place, fails⟩
      exact ⟨place, loop.trans (iterate_of_error fails)⟩
  · constructor
    · intro less
      omega
    · intro _
      exact leads.beyond (by omega)

/-- At its end a chain gives back what its links have spent. -/
theorem Level.Leads.fits
    {grammar : Expressions}
    (leads : level.Leads grammar units links good more cursor)
    (isChain : level.isChain)
    (ends : level.Ends more) :
    Fits (level.parser grammar) units good more cursor where
  enough less := by
    rcases leads.enough less with ⟨left, moved, loop, isGood, rest, depth⟩
    rcases ends.found rest with ⟨lexeme, span, found, stops, _⟩
    refine ⟨left, { moved with depth := moved.depth - links }, ?_, isGood, rest, by simp [depth]⟩
    refine loop.trans (iterate_of_done ?_)
    rw [step_of_not_continues isChain left links found (stops level (Nat.le_refl _))]
    rfl
  beyond := leads.beyond

/-- A disjunction without branches behind it is read as a conditional. -/
theorem fits_conditional
    (ends : Level.conditional.Ends more)
    (fits : Fits (Level.disjunction.parser (expressions levels)) units good more cursor) :
    Fits (Level.conditional.parser (expressions levels)) units good more cursor := by
  cases levels with
  | zero =>
      rcases tooDeep_fails cursor with ⟨fault, fails⟩
      refine fits.congr ?_
      rw [parser_of_tooDeep fails, parser_of_tooDeep fails]
  | succ levels =>
      refine fits.followed fun condition moved isGood rest => ?_
      rcases ends.found rest with ⟨lexeme, span, found, stops, _⟩
      have noBranches := stops .conditional (Nat.le_refl _)
      refine ⟨condition, moved, ?_, isGood, rest, rfl⟩
      exact bind_of_ok (eat_of_not found noBranches)

end Cursors

end Grammar

namespace Expr

variable {style : Style} {expr : Expr} {level : Level}

/-- The text of an expression is read at a level as the same expression, spans aside. -/
def ReadsAt (style : Style) (expr : Expr) (level : Level) : Prop :=
  ∀ ⦃levels : Nat⦄ ⦃cursor : Cursor⦄ ⦃more : List Char⦄,
    maximalDepth ≤ cursor.depth + nestingCost * levels →
    level.Ends more →
    cursor.Faces (expr.textAt style level ++ more) →
      Fits (level.parser (expressions levels)) (expr.unitsAt level) (·.shape = expr.shape) more
        cursor

/--
The text of an expression leads to the loop of a level, in front of whatever ends an
operand of the level.
-/
def LeadsAt (style : Style) (expr : Expr) (level : Level) : Prop :=
  ∀ ⦃levels : Nat⦄ ⦃cursor : Cursor⦄ ⦃more : List Char⦄,
    maximalDepth ≤ cursor.depth + nestingCost * levels →
    level.tighter.Ends more →
    cursor.Faces (expr.textAt style level ++ more) →
      level.Leads (expressions levels) (expr.unitsAt level) (expr.links level)
        (·.shape = expr.shape) more cursor

@[simp]
theorem textAt_conditional : expr.textAt style .conditional = expr.text style := by
  simp [textAt, enclosed, Level.rank]

@[simp]
theorem unitsAt_conditional : expr.unitsAt .conditional = expr.units := by
  simp [unitsAt, enclosedUnits, Level.rank]

@[simp]
theorem textAt_level : expr.textAt style expr.level = expr.text style := by
  simp [textAt, enclosed]

@[simp]
theorem unitsAt_level : expr.unitsAt expr.level = expr.units := by
  simp [unitsAt, enclosedUnits]

theorem textAt_of_looser
    (looser : expr.level.rank < level.rank) :
    expr.textAt style level = '(' :: expr.text style ++ [')'] := by
  rw [textAt, enclosed, if_pos looser]

theorem unitsAt_of_looser
    (looser : expr.level.rank < level.rank) :
    expr.unitsAt level = nestingCost + expr.units := by
  rw [unitsAt, enclosedUnits, if_pos looser]

/-- Only at its own level an expression is not written as it is one level tighter. -/
theorem looser_iff_of_ne
    (loose : level ≠ .operand)
    (other : expr.level ≠ level) :
    expr.level.rank < level.tighter.rank ↔ expr.level.rank < level.rank := by
  have next := Level.rank_tighter loose
  have different : expr.level.rank ≠ level.rank := fun same => other (Level.eq_of_rank_eq same)
  omega

theorem textAt_tighter
    (loose : level ≠ .operand)
    (other : expr.level ≠ level) :
    expr.textAt style level.tighter = expr.textAt style level := by
  simp only [textAt, enclosed, looser_iff_of_ne loose other]

theorem unitsAt_tighter
    (loose : level ≠ .operand)
    (other : expr.level ≠ level) :
    expr.unitsAt level.tighter = expr.unitsAt level := by
  simp only [unitsAt, enclosedUnits, looser_iff_of_ne loose other]

/-- An expression is no chain of a level that is not its own. -/
theorem links_of_ne (other : expr.level ≠ level) : expr.links level = 0 := by
  cases expr with
  | binary span operator left right => exact if_neg other
  | _ => rfl

/-- What is read one level tighter leads to the loop of a level. -/
theorem leadsAt_of_tighter
    (isChain : level.isChain)
    (other : expr.level ≠ level)
    (reads : expr.ReadsAt style level.tighter) :
    expr.LeadsAt style level := by
  have loose := Level.ne_operand_of_isChain isChain
  intro levels cursor more deep ends faces
  rw [← textAt_tighter loose other] at faces
  rw [← unitsAt_tighter loose other, links_of_ne other]
  exact Level.leads_of_tighter isChain (reads deep ends faces)

/-- What leads to the loop of a level is read at that level. -/
theorem readsAt_of_leadsAt
    (isChain : level.isChain)
    (leads : expr.LeadsAt style level) :
    expr.ReadsAt style level := by
  have next := Level.rank_tighter (Level.ne_operand_of_isChain isChain)
  intro levels cursor more deep ends faces
  exact (leads deep (ends.mono (by omega)) faces).fits isChain ends

/-- What is read one level tighter is read at each level but the own one. -/
theorem readsAt_of_tighter
    (loose : level ≠ .operand)
    (other : expr.level ≠ level)
    (reads : expr.ReadsAt style level.tighter) :
    expr.ReadsAt style level := by
  cases isChain : level.isChain with
  | true => exact readsAt_of_leadsAt isChain (leadsAt_of_tighter isChain other reads)
  | false =>
      have isConditional : level = .conditional := by
        cases level <;> first | rfl | exact absurd rfl loose | nomatch isChain
      subst isConditional
      intro levels cursor more deep ends faces
      rw [← textAt_tighter loose other] at faces
      rw [← unitsAt_tighter loose other]
      exact fits_conditional ends (reads deep (ends.mono (by decide)) faces)

/-- What is read at its own level is read at all looser ones. -/
theorem readsAt_looser
    (own : expr.ReadsAt style expr.level)
    (loose : level.rank ≤ expr.level.rank) :
    expr.ReadsAt style level := by
  refine Level.loosening own (fun level looser reads => ?_) level loose
  have proper := Level.ne_of_rank_lt (Nat.lt_of_lt_of_le looser expr.level.rank_le_operand)
  exact readsAt_of_tighter proper (Level.ne_of_rank_lt looser).symm reads

/-- What is read as an operand in parentheses is read so at all levels that need them. -/
theorem readsAt_tighter
    (operand : expr.ReadsAt style .operand)
    (tight : expr.level.rank < level.rank) :
    expr.ReadsAt style level := by
  refine Level.loosening (motive := fun level => expr.level.rank < level.rank →
    expr.ReadsAt style level) (fun _ => operand) (fun level looser reads tight => ?_) level
    level.rank_le_operand tight
  have loose := Level.ne_of_rank_lt looser
  refine readsAt_of_tighter loose (Level.ne_of_rank_lt tight) (reads ?_)
  rw [Level.rank_tighter loose]
  omega

end Expr

end GcodeTemplate
