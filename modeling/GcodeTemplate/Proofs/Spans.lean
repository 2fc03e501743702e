import GcodeTemplate.Piece

/-!
# Trees with other spans

The same tree with each span replaced, which is the tree of the same source at
another place, or a tree of which only the shape matters.
-/

namespace GcodeTemplate

namespace Span

/-- A span that is moved by a number of bytes. -/
def shift (offset : Nat) (span : Span) : Span :=
  ⟨span.start + offset, span.stop + offset⟩

variable (offset : Nat)

@[simp]
theorem shift_zero (span : Span) : span.shift 0 = span :=
  rfl

@[simp]
theorem shift_start (span : Span) : (span.shift offset).start = span.start + offset :=
  rfl

@[simp]
theorem shift_stop (span : Span) : (span.shift offset).stop = span.stop + offset :=
  rfl

@[simp]
theorem shift_point (position : Nat) : (point position).shift offset = point (position + offset) :=
  rfl

theorem shift_cover (first second : Span) :
    (first.cover second).shift offset = (first.shift offset).cover (second.shift offset) := by
  simp only [shift, cover, Span.mk.injEq]
  omega

end Span

section

variable (f : Span → Span)

mutual

/-- An expression with its spans replaced. -/
def Expr.mapSpans : Expr → Expr
  | .literal span value => .literal (f span) value
  | .read span reference => .read (f span) reference.mapSpans
  | .unary span operator operand => .unary (f span) operator operand.mapSpans
  | .binary span operator left right =>
      .binary (f span) operator left.mapSpans right.mapSpans
  | .fullMatch span negated subject pattern patternSpan =>
      .fullMatch (f span) negated subject.mapSpans pattern (f patternSpan)
  | .conditional span condition yes no =>
      .conditional (f span) condition.mapSpans yes.mapSpans no.mapSpans
  | .call span call => .call (f span) call.mapSpans

def Reference.mapSpans (reference : Reference Expr) : Reference Expr :=
  match reference with
  | ⟨name, nameSpan, none, span⟩ => ⟨name, f nameSpan, none, f span⟩
  | ⟨name, nameSpan, some index, span⟩ => ⟨name, f nameSpan, some index.mapSpans, f span⟩

def Call.mapSpans : Call → Call
  | .minimum left right => .minimum left.mapSpans right.mapSpans
  | .maximum left right => .maximum left.mapSpans right.mapSpans
  | .random low high => .random low.mapSpans high.mapSpans
  | .changeFilament filament => .changeFilament filament.mapSpans
  | .digits zeros value width none => .digits zeros value.mapSpans width.mapSpans none
  | .digits zeros value width (some places) =>
      .digits zeros value.mapSpans width.mapSpans (some places.mapSpans)
  | .round rounding argument => .round rounding argument.mapSpans
  | .isNil reference => .isNil reference.mapSpans
  | .isEmpty reference => .isEmpty reference.mapSpans
  | .size reference => .size reference.mapSpans
  | .oneOf subject candidates => .oneOf subject.mapSpans (Candidate.mapAllSpans candidates)
  | .interpolate abscissa table => .interpolate abscissa.mapSpans (Table.mapSpans table)

def Candidate.mapAllSpans : List (Candidate Expr) → List (Candidate Expr)
  | [] => []
  | candidate :: rest => candidate.mapSpans :: Candidate.mapAllSpans rest

def Candidate.mapSpans (candidate : Candidate Expr) : Candidate Expr :=
  match candidate with
  | .text expr => .text expr.mapSpans
  | .pattern expr => .pattern expr.mapSpans
  | .regex source span => .regex source (f span)

def Table.mapSpans : List (Expr × Expr) → List (Expr × Expr)
  | [] => []
  | (x, y) :: rest => (x.mapSpans, y.mapSpans) :: Table.mapSpans rest

end

theorem Candidate.mapAllSpans_eq_map (candidates : List (Candidate Expr)) :
    Candidate.mapAllSpans f candidates = candidates.map (Candidate.mapSpans f) := by
  induction candidates with
  | nil => rfl
  | cons candidate rest ih => rw [Candidate.mapAllSpans, ih, List.map_cons]

theorem Table.mapSpans_eq_map (table : List (Expr × Expr)) :
    Table.mapSpans f table = table.map (Prod.map (Expr.mapSpans f) (Expr.mapSpans f)) := by
  induction table with
  | nil => rfl
  | cons knot rest ih => rw [Table.mapSpans, ih, List.map_cons, Prod.map]

theorem Reference.mapSpans_eq (reference : Reference Expr) :
    reference.mapSpans f =
      ⟨reference.name, f reference.nameSpan, reference.index.map (Expr.mapSpans f),
        f reference.span⟩ := by
  rcases reference with ⟨name, nameSpan, _ | index, span⟩ <;> rfl

@[simp]
theorem Expr.span_mapSpans (expr : Expr) : (expr.mapSpans f).span = f expr.span := by
  cases expr <;> rfl

theorem Expr.mapSpans_withSpan (expr : Expr) (span : Span) :
    (expr.withSpan span).mapSpans f = (expr.mapSpans f).withSpan (f span) := by
  cases expr <;> rfl

/-- An initializer with its spans replaced. -/
def Initializer.mapSpans : Initializer → Initializer
  | .list span items => .list (f span) (items.map (Expr.mapSpans f))
  | .reference referred => .reference (referred.mapSpans f)
  | .expression expr => .expression (expr.mapSpans f)
  | .fill span count value => .fill (f span) (count.mapSpans f) (value.mapSpans f)

/-- A bracket with its spans replaced. -/
def Bracket.mapSpans (bracket : Bracket) : Bracket :=
  ⟨bracket.name, f bracket.nameSpan, bracket.index.map (Prod.map id f), f bracket.span⟩

/-- A declaration with its spans replaced. -/
def Declaration.mapSpans (declaration : Declaration) : Declaration :=
  ⟨declaration.isGlobal, declaration.name, f declaration.nameSpan,
    declaration.initializer.mapSpans f⟩

mutual

/-- A piece with its spans replaced. -/
def Piece.mapSpans : Piece → Piece
  | .text text => .text text
  | .bracket bracket => .bracket (bracket.mapSpans f)
  | .expression expr => .expression (expr.mapSpans f)
  | .assign target initializer => .assign (target.mapSpans f) (initializer.mapSpans f)
  | .declare declaration => .declare (declaration.mapSpans f)
  | .choose branches none => .choose (Branch.mapAllSpans branches) none
  | .choose branches (some otherwise) =>
      .choose (Branch.mapAllSpans branches) (some (Piece.mapAllSpans otherwise))

def Piece.mapAllSpans : List Piece → List Piece
  | [] => []
  | piece :: rest => piece.mapSpans :: Piece.mapAllSpans rest

def Branch.mapAllSpans : List (Branch Piece) → List (Branch Piece)
  | [] => []
  | ⟨condition, body⟩ :: rest =>
      ⟨condition.mapSpans f, Piece.mapAllSpans body⟩ :: Branch.mapAllSpans rest

end

/-- A branch with its spans replaced. -/
def Branch.mapSpans (branch : Branch Piece) : Branch Piece :=
  ⟨branch.condition.mapSpans f, Piece.mapAllSpans f branch.body⟩

theorem Piece.mapAllSpans_eq_map (pieces : List Piece) :
    Piece.mapAllSpans f pieces = pieces.map (Piece.mapSpans f) := by
  induction pieces with
  | nil => rfl
  | cons piece rest ih => rw [Piece.mapAllSpans, ih, List.map_cons]

theorem Branch.mapAllSpans_eq_map (branches : List (Branch Piece)) :
    Branch.mapAllSpans f branches = branches.map (Branch.mapSpans f) := by
  induction branches with
  | nil => rfl
  | cons branch rest ih =>
      rw [Branch.mapAllSpans, ih, List.map_cons, Branch.mapSpans]

end

end GcodeTemplate
