import GcodeTemplate.Piece
import GcodeTemplate.Proofs.Positions

/-!
# Trees that stand in a source

A tree stands in a source if all its spans are in the source, the spans of its parts
lie within its own one, and every name in it is what the source has at the span of
the name.
-/

namespace GcodeTemplate

open GcodeTemplate.Span (whole)

section Placed

variable (source : List Char)

mutual

/-- An expression stands within a span of a source, and its parts stand within its own one. -/
def Expr.Placed (outer : Span) (expr : Expr) : Prop :=
  expr.span.LiesIn source outer ∧
    match expr with
    | .literal _ _ => True
    | .read span reference => reference.Placed span
    | .unary span _ operand => operand.Placed span
    | .binary span _ left right => left.Placed span ∧ right.Placed span
    | .fullMatch span _ subject _ patternSpan =>
        subject.Placed span ∧ patternSpan.LiesIn source span
    | .conditional span condition yes no =>
        condition.Placed span ∧ yes.Placed span ∧ no.Placed span
    | .call span call => call.Placed span

/-- So does a variable, which has its name there. -/
def Reference.Placed (outer : Span) (reference : Reference Expr) : Prop :=
  reference.span.LiesIn source outer ∧
    reference.nameSpan.LiesIn source reference.span ∧
    reference.nameSpan.Names source reference.name ∧
    match reference with
    | ⟨_, _, none, _⟩ => True
    | ⟨_, _, some index, span⟩ => index.Placed span

/-- The arguments of a call stand within the span of the call. -/
def Call.Placed (outer : Span) : Call → Prop
  | .minimum left right => left.Placed outer ∧ right.Placed outer
  | .maximum left right => left.Placed outer ∧ right.Placed outer
  | .random low high => low.Placed outer ∧ high.Placed outer
  | .changeFilament filament => filament.Placed outer
  | .digits _ value width none => value.Placed outer ∧ width.Placed outer
  | .digits _ value width (some places) =>
      value.Placed outer ∧ width.Placed outer ∧ places.Placed outer
  | .round _ argument => argument.Placed outer
  | .isNil reference => reference.Placed outer
  | .isEmpty reference => reference.Placed outer
  | .size reference => reference.Placed outer
  | .oneOf subject candidates => subject.Placed outer ∧ Candidate.AllPlaced outer candidates
  | .interpolate abscissa table => abscissa.Placed outer ∧ Table.Placed outer table

def Candidate.AllPlaced (outer : Span) : List (Candidate Expr) → Prop
  | [] => True
  | candidate :: rest => candidate.Placed outer ∧ Candidate.AllPlaced outer rest

def Candidate.Placed (outer : Span) (candidate : Candidate Expr) : Prop :=
  match candidate with
  | .text expr => expr.Placed outer
  | .pattern expr => expr.Placed outer
  | .regex _ span => span.LiesIn source outer

def Table.Placed (outer : Span) : List (Expr × Expr) → Prop
  | [] => True
  | (x, y) :: rest => x.Placed outer ∧ y.Placed outer ∧ Table.Placed outer rest

end

/-- What something is assigned or declared with stands in a source. -/
def Initializer.Placed : Initializer → Prop
  | list span items => span.IsIn source ∧ ∀ item ∈ items, item.Placed source span
  | reference referred => referred.Placed source (whole source)
  | expression expr => expr.Placed source (whole source)
  | fill span count value => span.IsIn source ∧ count.Placed source span ∧ value.Placed source span

/-- A declaration has its name in a source, and what follows it. -/
structure Declaration.Placed (declaration : Declaration) : Prop where
  names : declaration.nameSpan.Names source declaration.name
  initializer : declaration.initializer.Placed source

/-- A bracket stands in a source with its name, and that of its index if it has one. -/
structure Bracket.Placed (bracket : Bracket) : Prop where
  isIn : bracket.span.IsIn source
  nameSpan : bracket.nameSpan.LiesIn source bracket.span
  names : bracket.nameSpan.Names source bracket.name
  index : ∀ index ∈ bracket.index,
    index.2.LiesIn source bracket.span ∧ index.2.Names source index.1

mutual

/-- A piece of a template stands in a source. -/
def Piece.Placed : Piece → Prop
  | .text _ => True
  | .bracket bracket => bracket.Placed source
  | .expression expr => expr.Placed source (whole source)
  | .assign target initializer =>
      target.Placed source (whole source) ∧ initializer.Placed source
  | .declare declaration => declaration.Placed source
  | .choose branches none => Branch.AllPlaced branches
  | .choose branches (some otherwise) => Branch.AllPlaced branches ∧ Piece.AllPlaced otherwise

/-- So do all pieces of a template. -/
def Piece.AllPlaced : List Piece → Prop
  | [] => True
  | piece :: rest => piece.Placed ∧ Piece.AllPlaced rest

def Branch.AllPlaced : List (Branch Piece) → Prop
  | [] => True
  | ⟨condition, body⟩ :: rest =>
      condition.Placed source (whole source) ∧ Piece.AllPlaced body ∧ Branch.AllPlaced rest

end

end Placed

variable {source : List Char} {outer wider : Span}

theorem Candidate.allPlaced_of_forall
    {candidates : List (Candidate Expr)}
    (each : ∀ candidate ∈ candidates, candidate.Placed source outer) :
    Candidate.AllPlaced source outer candidates := by
  induction candidates with
  | nil =>
      exact trivial
  | cons candidate rest ih =>
      rw [List.forall_mem_cons] at each
      exact ⟨each.1, ih each.2⟩

theorem Table.placed_of_forall
    {table : List (Expr × Expr)}
    (each : ∀ knot ∈ table, knot.1.Placed source outer ∧ knot.2.Placed source outer) :
    Table.Placed source outer table := by
  induction table with
  | nil =>
      exact trivial
  | cons knot rest ih =>
      rw [List.forall_mem_cons] at each
      exact ⟨each.1.1, each.1.2, ih each.2⟩

theorem Piece.allPlaced_iff
    {pieces : List Piece} :
    Piece.AllPlaced source pieces ↔ ∀ piece ∈ pieces, piece.Placed source := by
  induction pieces with
  | nil =>
      simp [Piece.AllPlaced]
  | cons piece rest ih =>
      rw [Piece.AllPlaced, ih, List.forall_mem_cons]

theorem Branch.allPlaced_of_forall
    {branches : List (Branch Piece)}
    (each : ∀ branch ∈ branches,
      branch.condition.Placed source (whole source) ∧ Piece.AllPlaced source branch.body) :
    Branch.AllPlaced source branches := by
  induction branches with
  | nil =>
      exact trivial
  | cons branch rest ih =>
      rw [List.forall_mem_cons] at each
      exact ⟨each.1.1, each.1.2, ih each.2⟩

/-! ## Wider surroundings -/

section Wider

variable (after : wider.start ≤ outer.start) (before : outer.stop ≤ wider.stop)

include after before

theorem Expr.Placed.mono
    {expr : Expr}
    (placed : expr.Placed source outer) :
    expr.Placed source wider := by
  unfold Expr.Placed at placed ⊢
  exact ⟨placed.1.mono after before, placed.2⟩

theorem Reference.Placed.mono
    {reference : Reference Expr}
    (placed : reference.Placed source outer) :
    reference.Placed source wider := by
  unfold Reference.Placed at placed ⊢
  exact ⟨placed.1.mono after before, placed.2⟩

theorem Candidate.Placed.mono
    {candidate : Candidate Expr}
    (placed : candidate.Placed source outer) :
    candidate.Placed source wider := by
  unfold Candidate.Placed at placed ⊢
  cases candidate with
  | text expr => exact Expr.Placed.mono after before placed
  | pattern expr => exact Expr.Placed.mono after before placed
  | regex text span => exact placed.mono after before

theorem Candidate.AllPlaced.mono
    {candidates : List (Candidate Expr)}
    (placed : Candidate.AllPlaced source outer candidates) :
    Candidate.AllPlaced source wider candidates := by
  induction candidates with
  | nil =>
      exact trivial
  | cons candidate rest ih =>
      exact ⟨Candidate.Placed.mono after before placed.1, ih placed.2⟩

theorem Table.Placed.mono
    {table : List (Expr × Expr)}
    (placed : Table.Placed source outer table) :
    Table.Placed source wider table := by
  induction table with
  | nil =>
      exact trivial
  | cons knot rest ih =>
      exact ⟨Expr.Placed.mono after before placed.1, Expr.Placed.mono after before placed.2.1,
        ih placed.2.2⟩

theorem Call.Placed.mono
    {call : Call}
    (placed : call.Placed source outer) :
    call.Placed source wider := by
  have expr {expr : Expr} (placed : expr.Placed source outer) : expr.Placed source wider :=
    placed.mono after before
  have reference {reference : Reference Expr} (placed : reference.Placed source outer) :
      reference.Placed source wider :=
    placed.mono after before
  match call with
  | .minimum _ _ | .maximum _ _ | .random _ _ | .digits _ _ _ none =>
      exact ⟨expr placed.1, expr placed.2⟩
  | .digits _ _ _ (some _) =>
      exact ⟨expr placed.1, expr placed.2.1, expr placed.2.2⟩
  | .changeFilament _ | .round _ _ =>
      exact expr placed
  | .isNil _ | .isEmpty _ | .size _ =>
      exact reference placed
  | .oneOf _ _ =>
      exact ⟨expr placed.1, Candidate.AllPlaced.mono after before placed.2⟩
  | .interpolate _ _ =>
      exact ⟨expr placed.1, Table.Placed.mono after before placed.2⟩

end Wider

section Until

variable {start earlier later : Nat} (further : earlier ≤ later)

include further

theorem Expr.Placed.until
    {expr : Expr}
    (placed : expr.Placed source ⟨start, earlier⟩) :
    expr.Placed source ⟨start, later⟩ := by
  apply placed.mono
  · exact Nat.le_refl start
  · exact further

theorem Reference.Placed.until
    {reference : Reference Expr}
    (placed : reference.Placed source ⟨start, earlier⟩) :
    reference.Placed source ⟨start, later⟩ := by
  apply placed.mono
  · exact Nat.le_refl start
  · exact further

theorem Candidate.Placed.until
    {candidate : Candidate Expr}
    (placed : candidate.Placed source ⟨start, earlier⟩) :
    candidate.Placed source ⟨start, later⟩ := by
  apply placed.mono
  · exact Nat.le_refl start
  · exact further

theorem Call.Placed.until
    {call : Call}
    (placed : call.Placed source ⟨start, earlier⟩) :
    call.Placed source ⟨start, later⟩ := by
  apply placed.mono
  · exact Nat.le_refl start
  · exact further

end Until

/-- An expression may be given a wider span, as parentheses do. -/
theorem Expr.Placed.withSpan
    {span : Span}
    {expr : Expr}
    (placed : expr.Placed source span)
    (lies : span.LiesIn source outer) :
    (expr.withSpan span).Placed source outer := by
  unfold Expr.Placed at placed
  rcases placed with ⟨root, parts⟩
  have after := root.after
  have before := root.before
  have wider {part : Expr} (placed : part.Placed source expr.span) : part.Placed source span :=
    placed.mono after before
  cases expr with
  | literal _ _ =>
      exact ⟨lies, trivial⟩
  | read _ reference =>
      exact ⟨lies, Reference.Placed.mono after before parts⟩
  | unary _ _ _ =>
      exact ⟨lies, wider parts⟩
  | binary _ _ _ _ =>
      exact ⟨lies, wider parts.1, wider parts.2⟩
  | fullMatch _ _ _ _ _ =>
      exact ⟨lies, wider parts.1, parts.2.mono after before⟩
  | conditional _ _ _ _ =>
      exact ⟨lies, wider parts.1, wider parts.2.1, wider parts.2.2⟩
  | call _ _ =>
      exact ⟨lies, Call.Placed.mono after before parts⟩

theorem Expr.Placed.lies
    {expr : Expr}
    (placed : expr.Placed source outer) :
    expr.span.LiesIn source outer := by
  unfold Expr.Placed at placed
  exact placed.1

/-- An expression that stands anywhere in a source stands within its own span. -/
theorem Expr.Placed.self
    {expr : Expr}
    (placed : expr.Placed source outer) :
    expr.Placed source expr.span := by
  unfold Expr.Placed at placed ⊢
  exact ⟨placed.1.self, placed.2⟩

theorem Expr.Placed.whole
    {expr : Expr}
    (placed : expr.Placed source outer) :
    expr.Placed source (Span.whole source) := by
  unfold Expr.Placed at placed ⊢
  exact ⟨placed.1.isIn.liesIn_whole, placed.2⟩

/-- An expression stands within every span that covers its own one. -/
theorem Expr.Placed.cover_left
    {expr : Expr}
    (placed : expr.Placed source outer)
    (second : Span) :
    expr.Placed source (expr.span.cover second) :=
  placed.self.mono (Nat.min_le_left _ _) (Nat.le_max_left _ _)

theorem Expr.Placed.cover_right
    {expr : Expr}
    (placed : expr.Placed source outer)
    (first : Span) :
    expr.Placed source (first.cover expr.span) :=
  placed.self.mono (Nat.min_le_right _ _) (Nat.le_max_right _ _)

theorem Reference.Placed.lies
    {reference : Reference Expr}
    (placed : reference.Placed source outer) :
    reference.span.LiesIn source outer := by
  unfold Reference.Placed at placed
  exact placed.1

theorem Reference.Placed.self
    {reference : Reference Expr}
    (placed : reference.Placed source outer) :
    reference.Placed source reference.span := by
  unfold Reference.Placed at placed ⊢
  exact ⟨placed.1.self, placed.2⟩

theorem Reference.Placed.whole
    {reference : Reference Expr}
    (placed : reference.Placed source outer) :
    reference.Placed source (Span.whole source) := by
  unfold Reference.Placed at placed ⊢
  exact ⟨placed.1.isIn.liesIn_whole, placed.2⟩

end GcodeTemplate
