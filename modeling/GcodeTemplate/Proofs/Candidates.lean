import GcodeTemplate.Proofs.IntegerArithmetic
import GcodeTemplate.Proofs.Redeclaration
import GcodeTemplate.Proofs.WholeSubject

/-!
# Texts among candidates

A text is compared with the candidates of a list from the left: as a string, or with a
regular expression.  What one candidate comes to is told by the operators of the language,
the equality of strings and the match of a regular expression.  Of the list the first
candidate counts that matches or fails, so this is the disjunction of the comparisons, of
which none is made behind one that settles it.
-/

namespace GcodeTemplate

open Evaluation Eval

/-! ## The first element that counts -/

/-- An element of a list is as asked for, and the ones before it are all passed over. -/
def HasBehind {α : Type} (asked passed : α → Prop) (list : List α) : Prop :=
  ∃ earlier a later, list = earlier ++ a :: later ∧ asked a ∧ ∀ other ∈ earlier, passed other

section HasBehind

variable {α : Type} {asked passed : α → Prop}

theorem not_hasBehind_nil : ¬ HasBehind asked passed [] := by
  rintro ⟨earlier, a, later, split, _⟩
  simp at split

/-- It is the first element, or that one is passed over and it stands among the others. -/
theorem hasBehind_cons
    {a : α}
    {rest : List α} :
    HasBehind asked passed (a :: rest) ↔ asked a ∨ passed a ∧ HasBehind asked passed rest := by
  constructor
  · rintro ⟨earlier, found, later, split, isAsked, allPassed⟩
    cases earlier with
    | nil =>
        cases split
        exact .inl isAsked
    | cons first earlier =>
        cases split
        rw [List.forall_mem_cons] at allPassed
        exact .inr ⟨allPassed.1, earlier, found, later, rfl, isAsked, allPassed.2⟩
  · rintro (isAsked | ⟨isPassed, earlier, found, later, rfl, isAsked, allPassed⟩)
    · exact ⟨[], a, rest, rfl, isAsked, nofun⟩
    · exact ⟨a :: earlier, found, later, rfl, isAsked,
        List.forall_mem_cons.2 ⟨isPassed, allPassed⟩⟩

end HasBehind

/-! ## The operators that tell what a candidate comes to -/

namespace Expr

/-- The expression `text == expr`. -/
def equalTo (text : String) (expr : Expr) : Expr :=
  .binary expr.span (.compare .equal) (.literal expr.span (.string text)) expr

/-- The expression `text =~ /source/`, with its regular expression at a span. -/
def matchedBy (text source : String) (span : Span) : Expr :=
  .fullMatch span false (.literal span (.string text)) source span

end Expr

namespace Candidate

/-- The expression that yields the text of a candidate, unless it stands between slashes. -/
def expr? : Candidate Expr → Option Expr
  | text expr => some expr
  | pattern expr => some expr
  | regex _ _ => none

/-- What a candidate is blamed for that is no regular expression. -/
def rejection : Candidate Expr → Cause
  | regex source _ => .patternMalformed source
  | _ => .patternRejected

/-- A candidate is a regular expression, which stands at a span. -/
inductive IsRegex (layers : Layers) (state : State) : Candidate Expr → String → Span → Prop
  | yielded {expr : Expr} {source : String}
      (value : (expr.eval layers state).1 = .ok (.string source)) :
      IsRegex layers state (.pattern expr) source expr.span
  | written (source : String) (span : Span) :
      IsRegex layers state (.regex source span) source span

/--
What a candidate comes to for a text: whether it matches, as the operators of the language
have it, or the fault that it fails with.
-/
inductive ComesTo
    (layers : Layers)
    (state : State)
    (text : String) :
    Candidate Expr → Except Fault Bool → Prop
  | equal {expr : Expr} {expected : String} {matched : Bool}
      (value : (expr.eval layers state).1 = .ok (.string expected))
      (asked : ((Expr.equalTo text expr).eval layers state).1 = .ok (.bool matched)) :
      ComesTo layers state text (.text expr) (.ok matched)
  | matched {candidate : Candidate Expr} {source : String} {span : Span} {matched : Bool}
      (isRegex : candidate.IsRegex layers state source span)
      (asked : ((Expr.matchedBy text source span).eval layers state).1 = .ok (.bool matched)) :
      ComesTo layers state text candidate (.ok matched)
  | failed {candidate : Candidate Expr} {expr : Expr} {fault : Fault}
      (yielded : candidate.expr? = some expr)
      (fails : (expr.eval layers state).1 = .error fault) :
      ComesTo layers state text candidate (.error fault)
  | notString {candidate : Candidate Expr} {expr : Expr} {value : Value}
      (yielded : candidate.expr? = some expr)
      (yields : (expr.eval layers state).1 = .ok value)
      (noString : value.isString = false) :
      ComesTo layers state text candidate (.error ⟨.patternNotString, expr.span⟩)
  | rejected {candidate : Candidate Expr} {source : String} {span : Span}
      (isRegex : candidate.IsRegex layers state source span)
      (malformed : Pattern.ofRegex? source = none) :
      ComesTo layers state text candidate (.error ⟨candidate.rejection, span⟩)

end Candidate

section Evaluated

variable {layers : Layers} {state : State}

/-- Without calls that have effects the state is left as it was. -/
theorem Expr.eval_of_effectless
    {expr : Expr}
    (effectless : ∀ effect, expr.has effect = false)
    {result : Except Fault Value}
    (evaluated : (expr.eval layers state).1 = result) :
    expr.eval layers state = (result, state) := by
  have stays := expr.eval_keeps (State.permits_eq layers) (fun effect has =>
    Bool.false_ne_true ((effectless effect).symm.trans has)) state
  exact Prod.ext evaluated stays.symm

/-- Strings are equal if they are the same. -/
theorem Value.compare_equal_string (text expected : String) :
    (Value.string text).compare .equal (.string expected) = .ok (expected == text) := by
  have order : Comparison.equal.holds (some (stringOrder text expected)) =
      (expected == text) := by
    unfold stringOrder Comparison.holds
    by_cases same : text = expected
    · subst same
      simp
    · have different : (expected == text) = false := by simpa using Ne.symm same
      by_cases less : text < expected <;> simp [less, same, different]
  exact congrArg Except.ok order

section Active

variable (active : state.suppressed = 0)

include active

theorem Expr.eval_equalTo
    {expr : Expr}
    {expected : String}
    (value : expr.eval layers state = (.ok (.string expected), state))
    (text : String) :
    (Expr.equalTo text expr).eval layers state =
      (.ok (.bool (expected == text)), state) := by
  have literal : (Expr.literal expr.span (.string text)).eval layers state =
      (.ok (.string text), state) :=
    Expr.eval_literal active _ _
  rw [Expr.equalTo, Expr.eval_binary_of_ok active literal value, BinaryOperator.apply,
    Value.compare_equal_string]
  rfl

theorem Expr.eval_matchedBy
    (text source : String)
    (span : Span) :
    (Expr.matchedBy text source span).eval layers state =
      ((fun pattern => .bool (pattern.accepts text)) <$>
        Eval.regex (.patternMalformed source) source span) layers state := by
  have literal : (Expr.literal span (.string text)).eval layers state =
      (.ok (.string text), state) :=
    Expr.eval_literal active _ _
  have subject : expecting (Sourced.string .matchedNotString) span
      (Expr.literal span (.string text)).eval layers state = (.ok text, state) :=
    bind_of_ok literal
  rw [Expr.matchedBy, Expr.eval.eq_def, unlessSkipping_of_active _ active, map_eq_pure_bind]
  simp only [Bool.bne_false]
  exact bind_of_ok subject

end Active

theorem Eval.regex_of_some
    {source : String}
    {pattern : Pattern}
    (compiles : Pattern.ofRegex? source = some pattern)
    (rejection : Cause)
    (span : Span) :
    Eval.regex rejection source span = pure pattern := by
  unfold Eval.regex
  rw [compiles]

theorem Eval.regex_of_none
    {source : String}
    (malformed : Pattern.ofRegex? source = none)
    (rejection : Cause)
    (span : Span) :
    Eval.regex rejection source span = fail rejection span := by
  unfold Eval.regex
  rw [malformed]

/-- A candidate comes to something if it does where its expression yields a string. -/
theorem Candidate.exists_comesTo_of_expr
    {candidate : Candidate Expr}
    {expr : Expr}
    {text : String}
    (yielded : candidate.expr? = some expr)
    (ofString : ∀ s, (expr.eval layers state).1 = .ok (.string s) →
      ∃ outcome, candidate.ComesTo layers state text outcome) :
    ∃ outcome, candidate.ComesTo layers state text outcome := by
  cases evaluated : (expr.eval layers state).1 with
  | error fault =>
      exact ⟨_, .failed yielded evaluated⟩
  | ok value =>
      cases isString : value.isString with
      | false =>
          exact ⟨_, .notString yielded evaluated isString⟩
      | true =>
          cases value <;> cases isString
          exact ofString _ evaluated

/-- A regular expression comes to something, whether it compiles or not. -/
theorem Candidate.exists_comesTo_of_isRegex
    {candidate : Candidate Expr}
    {source : String}
    {span : Span}
    (isRegex : candidate.IsRegex layers state source span)
    (active : state.suppressed = 0)
    (text : String) :
    ∃ outcome, candidate.ComesTo layers state text outcome := by
  cases compiled : Pattern.ofRegex? source with
  | none =>
      exact ⟨_, .rejected isRegex compiled⟩
  | some pattern =>
      refine ⟨.ok (pattern.accepts text), .matched isRegex ?_⟩
      rw [Expr.eval_matchedBy active, Eval.regex_of_some compiled]
      rfl

namespace Candidate

variable
  {candidate : Candidate Expr}
  (effectless : ∀ effect, candidate.has effect = false)
  {text : String}

include effectless

/-- A regular expression is compiled, and put to the text. -/
theorem accepts_of_isRegex
    {source : String}
    {span : Span}
    (isRegex : candidate.IsRegex layers state source span) :
    candidate.accepts text layers state =
      ((·.accepts text) <$> Eval.regex candidate.rejection source span) layers state := by
  cases isRegex with
  | yielded value =>
      have yields := Expr.eval_of_effectless effectless value
      rw [accepts, map_eq_pure_bind]
      exact bind_of_ok (bind_of_ok yields)
  | written =>
      rw [accepts, rejection, map_eq_pure_bind]

/-- A candidate whose expression fails to yield a string fails. -/
theorem accepts_of_error
    {expr : Expr}
    {fault : Fault}
    (yielded : candidate.expr? = some expr)
    (fails : expecting (Sourced.string .patternNotString) expr.span expr.eval layers state =
      (.error fault, state)) :
    candidate.accepts text layers state = (.error fault, state) := by
  cases candidate with
  | text expr =>
      cases yielded
      rw [accepts]
      exact bind_of_error fails
  | pattern expr =>
      cases yielded
      rw [accepts]
      exact bind_of_error fails
  | regex source span =>
      cases yielded

theorem expr?_effectless
    {expr : Expr}
    (yielded : candidate.expr? = some expr) :
    ∀ effect, expr.has effect = false := by
  cases candidate <;> cases yielded <;> exact effectless

variable (active : state.suppressed = 0)

include active

theorem accepts_of_comesTo
    {outcome : Except Fault Bool}
    (comes : candidate.ComesTo layers state text outcome) :
    candidate.accepts text layers state = (outcome, state) := by
  cases comes with
  | equal value asked =>
      have yields := Expr.eval_of_effectless effectless value
      rw [Expr.eval_equalTo active yields] at asked
      cases asked
      rw [accepts]
      exact bind_of_ok (bind_of_ok yields)
  | @matched _ source span _ isRegex asked =>
      rw [Expr.eval_matchedBy active] at asked
      rw [accepts_of_isRegex effectless isRegex]
      cases compiled : Pattern.ofRegex? source with
      | none =>
          rw [Eval.regex_of_none compiled] at asked
          cases asked
      | some pattern =>
          rw [Eval.regex_of_some compiled] at asked ⊢
          cases asked
          rfl
  | failed yielded fails =>
      have evaluated := Expr.eval_of_effectless (expr?_effectless effectless yielded) fails
      exact accepts_of_error effectless yielded (bind_of_error evaluated)
  | @notString _ expr value yielded yields noString =>
      have evaluated := Expr.eval_of_effectless (expr?_effectless effectless yielded) yields
      refine accepts_of_error effectless yielded ((bind_of_ok evaluated).trans ?_)
      cases value <;> first | rfl | cases noString
  | rejected isRegex malformed =>
      rw [accepts_of_isRegex effectless isRegex, Eval.regex_of_none malformed]
      rfl

theorem exists_comesTo : ∃ outcome, candidate.ComesTo layers state text outcome := by
  cases candidate with
  | text expr =>
      refine exists_comesTo_of_expr rfl fun expected value =>
        ⟨.ok (expected == text), .equal value ?_⟩
      rw [Expr.eval_equalTo active (Expr.eval_of_effectless effectless value)]
  | pattern expr =>
      exact exists_comesTo_of_expr rfl fun source value =>
        exists_comesTo_of_isRegex (.yielded value) active text
  | regex source span =>
      exact exists_comesTo_of_isRegex (.written source span) active text

/-- What a candidate comes to is what its evaluation results in, and the state stays. -/
theorem comesTo_iff
    {outcome : Except Fault Bool} :
    candidate.ComesTo layers state text outcome ↔
      candidate.accepts text layers state = (outcome, state) := by
  constructor
  · exact accepts_of_comesTo effectless active
  · intro evaluated
    obtain ⟨other, comes⟩ : ∃ other, candidate.ComesTo layers state text other :=
      exists_comesTo effectless active
    rw [accepts_of_comesTo effectless active comes] at evaluated
    cases evaluated
    exact comes

end Candidate

end Evaluated

/-! ## The whole list -/

namespace Candidate

/-- What a list of candidates comes to: the first one counts that matches or fails. -/
structure Settled
    (layers : Layers)
    (state : State)
    (text : String)
    (candidates : List (Candidate Expr))
    (outcome : Except Fault Bool) : Prop where
  /-- One matches, and none in front of it fails. -/
  matches_iff :
    outcome = .ok true ↔
      HasBehind (fun candidate => candidate.ComesTo layers state text (.ok true))
        (fun other => ∀ fault, ¬ other.ComesTo layers state text (.error fault)) candidates
  /-- One fails, and none in front of it matches or fails. -/
  fails_iff (fault : Fault) :
    outcome = .error fault ↔
      HasBehind (fun candidate => candidate.ComesTo layers state text (.error fault))
        (fun other => ¬ other.ComesTo layers state text (.ok true) ∧
          ∀ fault, ¬ other.ComesTo layers state text (.error fault)) candidates
  /-- All of them neither match nor fail. -/
  passes_iff :
    outcome = .ok false ↔
      ∀ candidate ∈ candidates, candidate.ComesTo layers state text (.ok false)

variable {layers : Layers} {state : State} {text : String}

theorem settled_nil : Settled layers state text [] (.ok false) where
  matches_iff := by simp [not_hasBehind_nil]
  fails_iff fault := by simp [not_hasBehind_nil]
  passes_iff := by simp

/-- A candidate that matches or fails settles it, whatever stands behind it. -/
theorem settled_cons_of_ne
    {candidate : Candidate Expr}
    {first : Except Fault Bool}
    (comes : ∀ outcome, candidate.ComesTo layers state text outcome ↔ first = outcome)
    (settles : first ≠ .ok false)
    (candidates : List (Candidate Expr)) :
    Settled layers state text (candidate :: candidates) first where
  matches_iff := by
    rw [hasBehind_cons]
    rcases first with fault | _ | _ <;> simp [comes] at settles ⊢
  fails_iff fault := by
    rw [hasBehind_cons]
    rcases first with fault | _ | _ <;> simp [comes] at settles ⊢
  passes_iff := by
    rcases first with fault | _ | _ <;> simp [comes] at settles ⊢

/-- One that does not leaves it to the others. -/
theorem settled_cons_of_eq
    {candidate : Candidate Expr}
    {candidates : List (Candidate Expr)}
    {rest : Except Fault Bool}
    (comes : ∀ outcome, candidate.ComesTo layers state text outcome ↔ .ok false = outcome)
    (settled : Settled layers state text candidates rest) :
    Settled layers state text (candidate :: candidates) rest where
  matches_iff := by
    rw [hasBehind_cons, settled.matches_iff]
    simp [comes]
  fails_iff fault := by
    rw [hasBehind_cons, settled.fails_iff]
    simp [comes]
  passes_iff := by
    rw [List.forall_mem_cons, settled.passes_iff]
    simp [comes]

theorem has_of_anyHas
    {effect : Effect}
    {candidates : List (Candidate Expr)}
    (none : anyHas effect candidates = false)
    {candidate : Candidate Expr}
    (isThere : candidate ∈ candidates) :
    candidate.has effect = false := by
  induction candidates with
  | nil => cases isThere
  | cons first rest ih =>
      simp only [anyHas, Bool.or_eq_false_iff] at none
      rcases List.mem_cons.1 isThere with rfl | behind
      · exact none.1
      · exact ih none.2 behind

/-- By induction on the candidates, none of which changes the state. -/
theorem anyAccepts_settled
    (active : state.suppressed = 0)
    (span : Span)
    (candidates : List (Candidate Expr))
    (effectless : ∀ effect, anyHas effect candidates = false) :
    ∃ outcome,
      anyAccepts ⟨.string text, span⟩ candidates layers state = (outcome, state) ∧
      Settled layers state text candidates outcome := by
  induction candidates with
  | nil =>
      rw [anyAccepts]
      exact ⟨.ok false, rfl, settled_nil⟩
  | cons candidate candidates ih =>
      simp only [anyHas, Bool.or_eq_false_iff, forall_and] at effectless
      rcases ih effectless.2 with ⟨rest, evaluatedRest, settled⟩
      obtain ⟨first, comesFirst⟩ : ∃ first, candidate.ComesTo layers state text first :=
        exists_comesTo effectless.1 active
      have evaluated := (comesTo_iff effectless.1 active).1 comesFirst
      have comes (outcome : Except Fault Bool) :
          candidate.ComesTo layers state text outcome ↔ first = outcome := by
        rw [comesTo_iff effectless.1 active, evaluated]
        simp
      have isText : (ofExcept (Sourced.string .subjectNotString ⟨.string text, span⟩) :
          Eval String) layers state = (.ok text, state) :=
        rfl
      rw [anyAccepts, bind_of_ok isText]
      cases first with
      | error fault =>
          exact ⟨_, bind_of_error evaluated, settled_cons_of_ne comes (by simp) candidates⟩
      | ok matched =>
          cases matched with
          | true =>
              exact ⟨_, bind_of_ok evaluated, settled_cons_of_ne comes (by simp) candidates⟩
          | false =>
              exact ⟨rest, (bind_of_ok evaluated).trans evaluatedRest,
                settled_cons_of_eq comes settled⟩

end Candidate

/--
In a block that is taken, a text is looked for among candidates that call no function with
an effect.  Every candidate comes to one thing, told by the operators of the language.  The
call yields true if one of them matches and none in front of it fails; it fails with the
fault of the first one that fails, if none in front of that one matches; it yields false if
all of them do neither.
-/
theorem candidates_settled_from_left
    {layers : Layers}
    {state after : State}
    (active : state.suppressed = 0)
    {subject : Expr}
    {text : String}
    (isText : subject.eval layers state = (.ok (.string text), after))
    {candidates : List (Candidate Expr)}
    (effectless : ∀ effect, Candidate.anyHas effect candidates = false)
    (span : Span) :
    (∀ candidate ∈ candidates, ∃! outcome, candidate.ComesTo layers after text outcome) ∧
    ∃ outcome,
      (Expr.call span (.oneOf subject candidates)).eval layers state =
        (Value.bool <$> outcome, after) ∧
      Candidate.Settled layers after text candidates outcome := by
  have stillActive : after.suppressed = 0 := by
    have frame : State.SameFrame state (subject.eval layers state).2 :=
      subject.eval_keepsFrame state
    rw [isText] at frame
    exact frame.suppressed.trans active
  constructor
  · intro candidate isThere
    have silent (effect : Effect) : candidate.has effect = false :=
      Candidate.has_of_anyHas (effectless effect) isThere
    obtain ⟨outcome, comes⟩ : ∃ outcome, candidate.ComesTo layers after text outcome :=
      Candidate.exists_comesTo silent stillActive
    refine ⟨outcome, comes, fun other comesOther => ?_⟩
    have evaluated := (Candidate.comesTo_iff silent stillActive).1 comes
    have evaluatedOther := (Candidate.comesTo_iff silent stillActive).1 comesOther
    exact congrArg Prod.fst (evaluatedOther.symm.trans evaluated)
  · rcases Candidate.anyAccepts_settled stillActive subject.span candidates effectless with
      ⟨outcome, evaluated, settled⟩
    refine ⟨outcome, ?_, settled⟩
    rw [Expr.eval.eq_def, unlessSkipping_of_active _ active]
    change (Call.oneOf subject candidates).eval span layers state = _
    rw [Call.eval, bind_of_ok isText, map_eq_pure_bind]
    cases outcome with
    | error fault => exact bind_of_error evaluated
    | ok matched => exact bind_of_ok evaluated

open Regex.Plan in
/--
A regular expression that matches settles it before a malformed one, and a malformed one
before one that would match.
-/
theorem match_before_malformed_pattern :
    let text (s : String) : Expr := .literal {} (.string s)
    let malformed : Candidate Expr := .regex "[" ⟨7, 10⟩
    let among (candidates : List (Candidate Expr)) : Expr :=
      .call {} (.oneOf (text "A") candidates)
    let layers : Layers := { process := ∅ }
    ({} : State).suppressed = 0 ∧
      (among [.text (text "B"), .pattern (text "A"), malformed]).eval layers {} =
        (.ok (.bool true), {}) ∧
      (among [.text (text "B"), malformed, .pattern (text "A")]).eval layers {} =
        (.error ⟨.patternMalformed "[", ⟨7, 10⟩⟩, {}) := by
  intro text malformed among layers
  have fits (before behind : CharSet) :
      (Regex.sequence (.look .textStart before)
        (.sequence (.group false (.set (.singleton 'A')))
          (.sequence (.look .textEnd behind) .empty))).plan.fits = true := by
    simp only [Regex.plan, Regex.alternativePlans, ofSet_singleton, ofAlternatives_singleton]
    change (Regex.Plan.sequence
      [.look .textStart none, .text ['A'], .look .textEnd none]).fits = true
    simp only [fits, machine, build, buildInOrder, buildFromLast]
    rfl
  have read : Regex.Written.read? (Pattern.anchored "A") =
      some (.sequence [.assertion .lineStart, .group false {} (.literal ⟨'A', false⟩),
        .assertion .lineEnd]) := by
    rw [Regex.Written.read?, Regex.toList_anchored]
    rfl
  obtain ⟨pattern, compiles, accepts⟩ :
      ∃ pattern, Pattern.ofRegex? "A" = some pattern ∧ pattern.accepts "A" = true :=
    ⟨_, Pattern.ofRegex?_of_meaning? read rfl (fits (Regex.Mode.word {}) _), by decide⟩
  have matching : (Candidate.pattern (text "A")).ComesTo layers {} "A" (.ok true) := by
    refine .matched (.yielded rfl) ?_
    rw [Expr.eval_matchedBy rfl, Eval.regex_of_some compiles]
    exact congrArg (fun matched => Except.ok (Value.bool matched)) accepts
  have malformedAlone : Pattern.ofRegex? "[" = none := by
    rw [Pattern.ofRegex?, Regex.ofString?, Regex.Written.read?, Regex.toList_anchored]
    rfl
  have failing : malformed.ComesTo layers {} "A" (.error ⟨.patternMalformed "[", ⟨7, 10⟩⟩) :=
    .rejected (.written _ _) malformedAlone
  have passes {outcome : Except Fault Bool}
      (other : outcome ≠ .ok false) :
      ¬ (Candidate.text (text "B")).ComesTo layers {} "A" outcome := by
    intro comes
    have evaluated := (Candidate.comesTo_iff (fun _ => rfl) rfl).1 comes
    exact other (congrArg Prod.fst evaluated).symm
  have isText : (text "A").eval layers {} = (.ok (.string "A"), {}) := rfl
  refine ⟨rfl, ?_, ?_⟩
  · have effectless (effect : Effect) : Candidate.anyHas effect
        [.text (text "B"), .pattern (text "A"), malformed] = false := rfl
    rcases candidates_settled_from_left rfl isText effectless {} with
      ⟨_, outcome, evaluated, settled⟩
    obtain rfl := settled.matches_iff.2 <| hasBehind_cons.2 <| .inr
      ⟨fun _ => passes (by simp), hasBehind_cons.2 (.inl matching)⟩
    exact evaluated
  · have effectless (effect : Effect) : Candidate.anyHas effect
        [.text (text "B"), malformed, .pattern (text "A")] = false := rfl
    rcases candidates_settled_from_left rfl isText effectless {} with
      ⟨_, outcome, evaluated, settled⟩
    obtain rfl := (settled.fails_iff _).2 <| hasBehind_cons.2 <| .inr
      ⟨⟨passes (by simp), fun _ => passes (by simp)⟩,
        hasBehind_cons.2 (.inl failing)⟩
    exact evaluated

end GcodeTemplate
