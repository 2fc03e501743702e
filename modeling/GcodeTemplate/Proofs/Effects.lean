import GcodeTemplate.Piece.Render
import GcodeTemplate.Proofs.Keeps

/-!
# The effects of expressions

Two of the functions that an expression can call do more than yield a value: one
goes over to another extruder, the other draws a random number.  Every relation
between states that these two keep, and that holds around a block if it holds inside,
is kept by all expressions; and if one of the two does not keep it, it is still kept
by the expressions in which that function is not called.
-/

namespace GcodeTemplate

/-- What a call can do besides yielding a value. -/
inductive Effect where
  /-- Another extruder is gone over to. -/
  | switch
  /-- A random number is drawn. -/
  | draw
deriving DecidableEq, Repr

section Has

variable (effect : Effect)

mutual

/-- Whether a call with an effect stands in an expression, be it evaluated or not. -/
def Expr.has : Expr → Bool
  | .literal _ _ => false
  | .read _ reference => reference.has
  | .unary _ _ operand => operand.has
  | .binary _ _ left right => left.has || right.has
  | .fullMatch _ _ subject _ _ => subject.has
  | .conditional _ condition yes no => condition.has || (yes.has || no.has)
  | .call _ call => call.has

def Reference.has (reference : Reference Expr) : Bool :=
  match reference with
  | ⟨_, _, none, _⟩ => false
  | ⟨_, _, some index, _⟩ => index.has

def Call.has : Call → Bool
  | .minimum left right => left.has || right.has
  | .maximum left right => left.has || right.has
  | .random low high => effect == .draw || (low.has || high.has)
  | .changeFilament filament => effect == .switch || filament.has
  | .digits _ value width none => value.has || width.has
  | .digits _ value width (some places) => value.has || (width.has || places.has)
  | .round _ argument => argument.has
  | .isNil reference => reference.has
  | .isEmpty reference => reference.has
  | .size reference => reference.has
  | .oneOf subject candidates => subject.has || Candidate.anyHas candidates
  | .interpolate abscissa table => abscissa.has || Table.anyHas table

def Candidate.anyHas : List (Candidate Expr) → Bool
  | [] => false
  | candidate :: rest => candidate.has || Candidate.anyHas rest

def Candidate.has (candidate : Candidate Expr) : Bool :=
  match candidate with
  | .text expr => expr.has
  | .pattern expr => expr.has
  | .regex _ _ => false

def Table.anyHas : List (Expr × Expr) → Bool
  | [] => false
  | (x, y) :: rest => x.has || (y.has || Table.anyHas rest)

end

/-- Whether a call with an effect stands in what something is assigned or declared with. -/
def Initializer.has : Initializer → Bool
  | list _ items => items.any (Expr.has effect)
  | reference referred => referred.has effect
  | expression expr => expr.has effect
  | fill _ count value => count.has effect || value.has effect

end Has

namespace Eval

open Evaluation

variable
  {α : Type}
  {layers : Layers}
  {relation : State → State → Prop}
  [IsPreorder State relation]

theorem keeps_inspect (look : Layers → State → Except Fault α) :
    (inspect look).Keeps relation layers := by
  intro state
  exact refl state

theorem keeps_expecting
    {evaluation : Eval Value}
    (check : Sourced → Except Fault α)
    (span : Span)
    (keeps : evaluation.Keeps relation layers) :
    (expecting check span evaluation).Keeps relation layers :=
  keeps.bind fun value => keeps_ofExcept (check ⟨value, span⟩)

theorem keeps_unlessSkipping
    {evaluation : Eval Value}
    (keeps : evaluation.Keeps relation layers) :
    (unlessSkipping evaluation).Keeps relation layers := by
  intro state
  unfold unlessSkipping
  split
  · exact refl state
  · exact keeps state

theorem keeps_regex
    (rejection : Cause)
    (source : String)
    (span : Span) :
    (regex rejection source span).Keeps relation layers := by
  unfold regex
  split
  · exact keeps_pure _
  · exact keeps_fail _ _

end Eval

/--
A relation between states that is kept by the calls with certain effects, and holds
around a block if it holds inside.
-/
structure State.Permits
    (layers : Layers)
    (relation : State → State → Prop)
    (permitted : Effect → Prop) : Prop where
  switch (span : Span) (filament : Value) :
    permitted .switch → (Eval.changeFilament span filament).Keeps relation layers
  draw (span : Span) (low high : Value) :
    permitted .draw → (Eval.draw span low high).Keeps relation layers
  block {before after : State} {active : Bool} :
    relation (before.enter active) after → relation before (after.leave before active)

open Evaluation Eval

variable
  {layers : Layers}
  {relation : State → State → Prop}
  {permitted : Effect → Prop}

theorem State.Permits.keeps_within
    {α : Type}
    (permits : State.Permits layers relation permitted)
    {body : Eval α}
    (active : Bool)
    (keeps : body.Keeps relation layers) :
    (within active body).Keeps relation layers := by
  intro state
  exact permits.block (keeps (state.enter active))

section Expressions

variable [IsPreorder State relation]

mutual

/-- What the calls in an expression keep is kept by the expression. -/
theorem Expr.eval_keeps
    (permits : State.Permits layers relation permitted)
    (expr : Expr)
    (only : ∀ effect, expr.has effect = true → permitted effect) :
    expr.eval.Keeps relation layers := by
  rw [Expr.eval.eq_def]
  apply keeps_unlessSkipping
  cases expr with
  | literal span value =>
      exact keeps_pure value
  | read span reference =>
      exact (reference.bind_keeps permits only).bind fun binding =>
        keeps_inspect binding.read
  | unary span operator operand =>
      exact (operand.eval_keeps permits only).bind fun value =>
        keeps_ofExcept _
  | binary span operator left right =>
      simp only [Expr.has, Bool.or_eq_true, or_imp, forall_and] at only
      exact (left.eval_keeps permits only.1).bind fun first =>
        (right.eval_keeps permits only.2).bind fun second =>
          keeps_ofExcept _
  | fullMatch span negated subject source sourceSpan =>
      exact (keeps_expecting _ _ (subject.eval_keeps permits only)).bind fun text =>
        (keeps_regex _ source sourceSpan).bind fun pattern =>
          keeps_pure _
  | conditional span condition yes no =>
      simp only [Expr.has, Bool.or_eq_true, or_imp, forall_and] at only
      have first := yes.eval_keeps permits only.2.1
      have second := no.eval_keeps permits only.2.2
      exact (keeps_expecting _ _ (condition.eval_keeps permits only.1)).bind fun holds =>
        (permits.keeps_within holds first).bind fun _ =>
          (permits.keeps_within (! holds) second).bind fun _ =>
            keeps_pure _
  | call span call =>
      exact call.eval_keeps permits span only

/-- So is it by the binding of a variable, whose index is an expression. -/
theorem Reference.bind_keeps
    (permits : State.Permits layers relation permitted)
    (reference : Reference Expr)
    (only : ∀ effect, reference.has effect = true → permitted effect) :
    reference.bind.Keeps relation layers := by
  match reference with
  | ⟨name, nameSpan, none, span⟩ =>
      rw [Reference.bind]
      exact (keeps_inspect _).bind fun (scope, _) =>
        keeps_pure _
  | ⟨name, nameSpan, some index, span⟩ =>
      rw [Reference.bind]
      exact (keeps_inspect _).bind fun (scope, isVector) =>
        (keeps_expecting _ _ (index.eval_keeps permits only)).bind fun place =>
          keeps_pure _

/-- So is it by a call, of which every argument is an expression or a variable. -/
theorem Call.eval_keeps
    (permits : State.Permits layers relation permitted)
    (call : Call)
    (span : Span)
    (only : ∀ effect, call.has effect = true → permitted effect) :
    (call.eval span).Keeps relation layers := by
  cases call with
  | minimum left right =>
      simp only [Call.has, Bool.or_eq_true, or_imp, forall_and] at only
      rw [Call.eval]
      exact (keeps_expecting _ _ (left.eval_keeps permits only.1)).bind fun first =>
        (keeps_expecting _ _ (right.eval_keeps permits only.2)).bind fun second =>
          keeps_pure _
  | maximum left right =>
      simp only [Call.has, Bool.or_eq_true, or_imp, forall_and] at only
      rw [Call.eval]
      exact (keeps_expecting _ _ (left.eval_keeps permits only.1)).bind fun first =>
        (keeps_expecting _ _ (right.eval_keeps permits only.2)).bind fun second =>
          keeps_pure _
  | random low high =>
      simp only [Call.has, Bool.or_eq_true, or_imp, forall_and] at only
      rw [Call.eval]
      exact (keeps_expecting _ _ (low.eval_keeps permits only.2.1)).bind fun first =>
        (keeps_expecting _ _ (high.eval_keeps permits only.2.2)).bind fun second =>
          permits.draw span first second (only.1 .draw rfl)
  | changeFilament filament =>
      simp only [Call.has, Bool.or_eq_true, or_imp, forall_and] at only
      rw [Call.eval]
      exact (keeps_expecting _ _ (filament.eval_keeps permits only.2)).bind fun value =>
        permits.switch filament.span value (only.1 .switch rfl)
  | digits zeros value width places =>
      match places with
      | none =>
          simp only [Call.has, Bool.or_eq_true, or_imp, forall_and] at only
          rw [Call.eval]
          exact (keeps_expecting _ _ (value.eval_keeps permits only.1)).bind fun value =>
            (keeps_expecting _ _ (width.eval_keeps permits only.2)).bind fun width =>
              keeps_pure _
      | some places =>
          simp only [Call.has, Bool.or_eq_true, or_imp, forall_and] at only
          rw [Call.eval]
          exact (keeps_expecting _ _ (value.eval_keeps permits only.1)).bind fun value =>
            (keeps_expecting _ _ (width.eval_keeps permits only.2.1)).bind fun width =>
              (keeps_expecting _ _ (places.eval_keeps permits only.2.2)).bind fun places =>
                keeps_pure _
  | round rounding argument =>
      rw [Call.eval]
      exact (argument.eval_keeps permits only).bind fun value =>
        keeps_ofExcept _
  | isNil reference =>
      rw [Call.eval]
      exact (reference.bind_keeps permits only).bind fun binding =>
        (keeps_inspect binding.isNil).map _
  | isEmpty reference =>
      rw [Call.eval]
      exact (reference.bind_keeps permits only).bind fun binding =>
        (keeps_inspect _).bind fun size =>
          keeps_pure _
  | size reference =>
      rw [Call.eval]
      exact (reference.bind_keeps permits only).bind fun binding =>
        (keeps_inspect _).bind fun size =>
          keeps_pure _
  | oneOf subject candidates =>
      simp only [Call.has, Bool.or_eq_true, or_imp, forall_and] at only
      rw [Call.eval]
      exact (subject.eval_keeps permits only.1).bind fun value =>
        (Candidate.anyAccepts_keeps permits ⟨value, subject.span⟩ candidates only.2).map _
  | interpolate abscissa table =>
      simp only [Call.has, Bool.or_eq_true, or_imp, forall_and] at only
      rw [Call.eval]
      exact (keeps_expecting _ _ (abscissa.eval_keeps permits only.1)).bind fun x =>
        (Table.eval_keeps permits table only.2).bind fun knots =>
          (keeps_ofExcept _).map _

theorem Candidate.anyAccepts_keeps
    (permits : State.Permits layers relation permitted)
    (subject : Sourced)
    (candidates : List (Candidate Expr))
    (only : ∀ effect, Candidate.anyHas effect candidates = true → permitted effect) :
    (Candidate.anyAccepts subject candidates).Keeps relation layers := by
  cases candidates with
  | nil =>
      rw [Candidate.anyAccepts]
      exact keeps_pure false
  | cons candidate rest =>
      simp only [Candidate.anyHas, Bool.or_eq_true, or_imp, forall_and] at only
      rw [Candidate.anyAccepts]
      refine (keeps_ofExcept _).bind fun text =>
        (candidate.accepts_keeps permits text only.1).bind fun accepted => ?_
      cases accepted with
      | true =>
          exact keeps_pure true
      | false =>
          exact Candidate.anyAccepts_keeps permits subject rest only.2

theorem Candidate.accepts_keeps
    (permits : State.Permits layers relation permitted)
    (candidate : Candidate Expr)
    (text : String)
    (only : ∀ effect, candidate.has effect = true → permitted effect) :
    (candidate.accepts text).Keeps relation layers := by
  cases candidate with
  | text expr =>
      rw [Candidate.accepts]
      exact (keeps_expecting _ _ (expr.eval_keeps permits only)).bind fun expected =>
        keeps_pure _
  | pattern expr =>
      rw [Candidate.accepts]
      exact (keeps_expecting _ _ (expr.eval_keeps permits only)).bind fun source =>
        (keeps_regex _ source expr.span).bind fun pattern =>
          keeps_pure _
  | regex source span =>
      rw [Candidate.accepts]
      exact (keeps_regex _ source span).bind fun pattern =>
        keeps_pure _

theorem Table.eval_keeps
    (permits : State.Permits layers relation permitted)
    (table : List (Expr × Expr))
    (only : ∀ effect, Table.anyHas effect table = true → permitted effect) :
    (Table.eval table).Keeps relation layers := by
  match table with
  | [] =>
      rw [Table.eval]
      exact keeps_pure []
  | (x, y) :: rest =>
      simp only [Table.anyHas, Bool.or_eq_true, or_imp, forall_and] at only
      rw [Table.eval]
      exact (keeps_expecting _ _ (x.eval_keeps permits only.1)).bind fun abscissa =>
        (keeps_expecting _ _ (y.eval_keeps permits only.2.1)).bind fun ordinate =>
          (Table.eval_keeps permits rest only.2.2).bind fun knots =>
            keeps_pure _

end

namespace Sourced

theorem ofExprs_keeps
    (permits : State.Permits layers relation permitted)
    (exprs : List Expr)
    (only : ∀ effect, exprs.any (Expr.has effect) = true → permitted effect) :
    (ofExprs exprs).Keeps relation layers := by
  induction exprs with
  | nil =>
      exact keeps_pure []
  | cons expr rest ih =>
      simp only [List.any_cons, Bool.or_eq_true, or_imp, forall_and] at only
      exact (expr.eval_keeps permits only.1).bind fun value =>
        (ih only.2).bind fun others =>
          keeps_pure _

theorem ofExpr_keeps
    (permits : State.Permits layers relation permitted)
    (expr : Expr)
    (only : ∀ effect, expr.has effect = true → permitted effect) :
    (ofExpr expr).Keeps relation layers :=
  (expr.eval_keeps permits only).bind fun _ =>
    keeps_pure _

theorem ofBinding_keeps (source : Binding) :
    (ofBinding source).Keeps relation layers :=
  (keeps_inspect source.read).bind fun _ =>
    keeps_pure _

end Sourced

/-- What the calls in it keep is kept by making the setting of a new variable. -/
theorem Initializer.newSetting_keeps
    (permits : State.Permits layers relation permitted)
    (nameSpan : Span)
    (initializer : Initializer)
    (only : ∀ effect, initializer.has effect = true → permitted effect) :
    (initializer.newSetting nameSpan).Keeps relation layers := by
  cases initializer with
  | list span items =>
      exact (Sourced.ofExprs_keeps permits items only).bind fun sources =>
        keeps_ofExcept _
  | fill span count value =>
      simp only [Initializer.has, Bool.or_eq_true, or_imp, forall_and] at only
      exact (Sourced.ofExpr_keeps permits count only.1).bind fun number =>
        (Sourced.ofExpr_keeps permits value only.2).bind fun source =>
          (keeps_ofExcept _).bind fun count =>
            keeps_ofExcept _
  | reference referred =>
      refine (referred.bind_keeps permits only).bind fun source => ?_
      refine (keeps_inspect source.isWholeVector).bind fun whole => ?_
      cases whole with
      | true =>
          exact (keeps_inspect source.setting).bind fun vector =>
            keeps_ofExcept _
      | false =>
          exact (Sourced.ofBinding_keeps source).bind fun value =>
            keeps_ofExcept _
  | expression expr =>
      exact (Sourced.ofExpr_keeps permits expr only).bind fun source =>
        keeps_ofExcept _

end Expressions

end GcodeTemplate
