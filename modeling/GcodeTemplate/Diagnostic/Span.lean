/-!
# Spans

A span is the half-open range of bytes of a template that an expression, a
name or a failure belongs to.
-/

namespace GcodeTemplate

/-- The bytes from `start` up to, but not including, `stop`. -/
structure Span where
  start : Nat := 0
  stop : Nat := 0
deriving DecidableEq, Repr, Inhabited

namespace Span

/-- The empty span at a position. -/
def point (position : Nat) : Span :=
  ⟨position, position⟩

/-- The least span that covers two spans. -/
def cover (first second : Span) : Span :=
  ⟨min first.start second.start, max first.stop second.stop⟩

end Span

end GcodeTemplate
