import GcodeTemplate.Evaluation
import Mathlib.Order.Defs.Unbundled

/-!
# Relations that evaluations keep

An evaluation keeps a relation between states if the state that it leaves,
with a value or with a fault, stands in the relation to the one that it began
in.  A preorder that the parts of an evaluation keep is kept by the whole, so
that only the steps that change a state have to be looked at.
-/

namespace GcodeTemplate

namespace Evaluation

variable {σ α β : Type}

/-- Whatever the result, the state that is left stands in a relation to the first one. -/
def Keeps
    (relation : σ → σ → Prop)
    (layers : Layers)
    (evaluation : Evaluation σ α) : Prop :=
  ∀ state, relation state (evaluation layers state).2

variable {relation : σ → σ → Prop} {layers : Layers}

/-- What does not look at the state keeps every preorder, a fault or not. -/
theorem keeps_ofExcept
    [IsPreorder σ relation]
    (result : Except Fault α) :
    Keeps relation layers (ofExcept result : Evaluation σ α) := by
  intro state
  exact refl state

theorem keeps_pure
    [IsPreorder σ relation]
    (a : α) :
    Keeps relation layers (pure a : Evaluation σ α) := by
  intro state
  exact refl state

theorem keeps_fail
    [IsPreorder σ relation]
    (cause : Cause)
    (span : Span) :
    Keeps relation layers (fail cause span : Evaluation σ α) := by
  intro state
  exact refl state

/-- One evaluation after the other keeps what both of them keep. -/
theorem Keeps.bind
    [IsPreorder σ relation]
    {first : Evaluation σ α}
    {next : α → Evaluation σ β}
    (firstKeeps : Keeps relation layers first)
    (nextKeeps : ∀ a, Keeps relation layers (next a)) :
    Keeps relation layers (first >>= next) := by
  intro state
  have moved := firstKeeps state
  cases outcome : first layers state with
  | mk result after =>
      rw [outcome] at moved
      cases result with
      | error fault =>
          rw [bind_of_error outcome]
          exact moved
      | ok a =>
          rw [bind_of_ok outcome]
          exact IsTrans.trans _ _ _ moved (nextKeeps a after)

theorem Keeps.map
    [IsPreorder σ relation]
    {evaluation : Evaluation σ α}
    (keeps : Keeps relation layers evaluation)
    (f : α → β) :
    Keeps relation layers (f <$> evaluation) := by
  rw [map_eq_pure_bind]
  exact keeps.bind fun a => keeps_pure (f a)

end Evaluation

end GcodeTemplate
