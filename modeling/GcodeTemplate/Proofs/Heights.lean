import GcodeTemplate.Piece

/-!
# Heights of trees

The height of a tree is the number of nodes on its longest path.  The step from a
match to its subject counts with a weight of its own, so that the paths can also
be measured without these steps.
-/

namespace GcodeTemplate

section Heights

variable (weight : Nat)

mutual

/-- The number of nodes on a longest path, a step to the subject of a match with a weight. -/
def Expr.height : Expr → Nat
  | .literal _ _ => 1
  | .read _ reference => reference.height + 1
  | .unary _ _ operand => operand.height + 1
  | .binary _ _ left right => max left.height right.height + 1
  | .fullMatch _ _ subject _ _ => subject.height + weight
  | .conditional _ condition yes no =>
      max condition.height (max yes.height no.height) + 1
  | .call _ call => call.height + 1

def Reference.height (reference : Reference Expr) : Nat :=
  match reference with
  | ⟨_, _, none, _⟩ => 0
  | ⟨_, _, some index, _⟩ => index.height

def Call.height : Call → Nat
  | .minimum left right => max left.height right.height
  | .maximum left right => max left.height right.height
  | .random low high => max low.height high.height
  | .changeFilament filament => filament.height
  | .digits _ value width none => max value.height width.height
  | .digits _ value width (some places) =>
      max value.height (max width.height places.height)
  | .round _ argument => argument.height
  | .isNil reference => reference.height
  | .isEmpty reference => reference.height
  | .size reference => reference.height
  | .oneOf subject candidates => max subject.height (Candidate.maxHeight candidates)
  | .interpolate abscissa table => max abscissa.height (Table.maxHeight table)

def Candidate.maxHeight : List (Candidate Expr) → Nat
  | [] => 0
  | candidate :: rest => max candidate.height (Candidate.maxHeight rest)

def Candidate.height (candidate : Candidate Expr) : Nat :=
  match candidate with
  | .text expr => expr.height
  | .pattern expr => expr.height
  | .regex _ _ => 0

def Table.maxHeight : List (Expr × Expr) → Nat
  | [] => 0
  | (x, y) :: rest => max (max x.height y.height) (Table.maxHeight rest)

end

def Expr.maxHeight : List Expr → Nat
  | [] => 0
  | expr :: rest => max (expr.height weight) (Expr.maxHeight rest)

def Initializer.height : Initializer → Nat
  | .list _ items => Expr.maxHeight weight items
  | .reference referred => referred.height weight
  | .expression scalar => scalar.height weight
  | .fill _ count value => max (count.height weight) (value.height weight)

mutual

/-- The number of nodes on a longest path through a piece and its expressions. -/
def Piece.height : Piece → Nat
  | .text _ => 1
  | .bracket _ => 1
  | .expression expr => expr.height weight + 1
  | .assign target initializer =>
      max (target.height weight) (initializer.height weight) + 1
  | .declare declaration => declaration.initializer.height weight + 1
  | .choose branches none => Branch.maxHeight branches + 1
  | .choose branches (some otherwise) =>
      max (Branch.maxHeight branches) (Piece.maxHeight otherwise) + 1

def Piece.maxHeight : List Piece → Nat
  | [] => 0
  | piece :: rest => max piece.height (Piece.maxHeight rest)

def Branch.maxHeight : List (Branch Piece) → Nat
  | [] => 0
  | ⟨condition, body⟩ :: rest =>
      max (max (condition.height weight) (Piece.maxHeight body)) (Branch.maxHeight rest)

end

end Heights

section MaxHeight

variable {weight bound : Nat}

theorem Candidate.maxHeight_le
    {candidates : List (Candidate Expr)}
    (each : ∀ candidate ∈ candidates, candidate.height weight ≤ bound) :
    Candidate.maxHeight weight candidates ≤ bound := by
  induction candidates with
  | nil => simp [Candidate.maxHeight]
  | cons first rest ih =>
      simp only [List.forall_mem_cons] at each
      simp only [Candidate.maxHeight, Nat.max_le]
      exact ⟨each.1, ih each.2⟩

theorem Table.maxHeight_le
    {table : List (Expr × Expr)}
    (each : ∀ knot ∈ table, knot.1.height weight ≤ bound ∧ knot.2.height weight ≤ bound) :
    Table.maxHeight weight table ≤ bound := by
  induction table with
  | nil => simp [Table.maxHeight]
  | cons first rest ih =>
      simp only [List.forall_mem_cons] at each
      simp only [Table.maxHeight, Nat.max_le]
      exact ⟨each.1, ih each.2⟩

theorem Expr.maxHeight_le
    {exprs : List Expr}
    (each : ∀ expr ∈ exprs, expr.height weight ≤ bound) :
    Expr.maxHeight weight exprs ≤ bound := by
  induction exprs with
  | nil => simp [Expr.maxHeight]
  | cons first rest ih =>
      simp only [List.forall_mem_cons] at each
      simp only [Expr.maxHeight, Nat.max_le]
      exact ⟨each.1, ih each.2⟩

theorem Piece.maxHeight_le
    {pieces : List Piece}
    (each : ∀ piece ∈ pieces, piece.height weight ≤ bound) :
    Piece.maxHeight weight pieces ≤ bound := by
  induction pieces with
  | nil => simp [Piece.maxHeight]
  | cons first rest ih =>
      simp only [List.forall_mem_cons] at each
      simp only [Piece.maxHeight, Nat.max_le]
      exact ⟨each.1, ih each.2⟩

theorem Branch.maxHeight_le
    {branches : List (Branch Piece)}
    (each : ∀ branch ∈ branches, branch.condition.height weight ≤ bound ∧
      Piece.maxHeight weight branch.body ≤ bound) :
    Branch.maxHeight weight branches ≤ bound := by
  induction branches with
  | nil => simp [Branch.maxHeight]
  | cons first rest ih =>
      simp only [List.forall_mem_cons] at each
      simp only [Branch.maxHeight, Nat.max_le]
      exact ⟨each.1, ih each.2⟩

@[simp]
theorem Expr.height_withSpan (expr : Expr) (span : Span) :
    (expr.withSpan span).height weight = expr.height weight := by
  cases expr <;> rfl

end MaxHeight

end GcodeTemplate
