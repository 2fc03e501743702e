import GcodeTemplate.Bracket.Expand
import Mathlib.Data.Set.Basic

/-!
# The names in a template

A template mentions the names of the variables that it reads, assigns to and declares,
and those in its brackets.  The name in a bracket may be one with a number behind an
underscore, so what stands in front of its last underscore counts as mentioned too.
A percentage brings in the parent of its key, and so on.
-/

namespace GcodeTemplate

mutual

/-- The names of the variables in an expression, in the order in which they stand there. -/
def Expr.names : Expr → List String
  | .literal _ _ => []
  | .read _ reference => reference.names
  | .unary _ _ operand => operand.names
  | .binary _ _ left right => left.names ++ right.names
  | .fullMatch _ _ subject _ _ => subject.names
  | .conditional _ condition yes no => condition.names ++ (yes.names ++ no.names)
  | .call _ call => call.names

def Reference.names (reference : Reference Expr) : List String :=
  match reference with
  | ⟨name, _, none, _⟩ => [name]
  | ⟨name, _, some index, _⟩ => name :: index.names

def Call.names : Call → List String
  | .minimum left right => left.names ++ right.names
  | .maximum left right => left.names ++ right.names
  | .random low high => low.names ++ high.names
  | .changeFilament filament => filament.names
  | .digits _ value width none => value.names ++ width.names
  | .digits _ value width (some places) => value.names ++ (width.names ++ places.names)
  | .round _ argument => argument.names
  | .isNil reference => reference.names
  | .isEmpty reference => reference.names
  | .size reference => reference.names
  | .oneOf subject candidates => subject.names ++ Candidate.allNames candidates
  | .interpolate abscissa table => abscissa.names ++ Table.names table

def Candidate.allNames : List (Candidate Expr) → List String
  | [] => []
  | candidate :: rest => candidate.names ++ Candidate.allNames rest

def Candidate.names (candidate : Candidate Expr) : List String :=
  match candidate with
  | .text expr => expr.names
  | .pattern expr => expr.names
  | .regex _ _ => []

def Table.names : List (Expr × Expr) → List String
  | [] => []
  | (x, y) :: rest => x.names ++ (y.names ++ Table.names rest)

end

/-- The names of the variables that something is assigned or declared with. -/
def Initializer.names : Initializer → List String
  | list _ items => items.flatMap Expr.names
  | reference referred => referred.names
  | expression expr => expr.names
  | fill _ count value => count.names ++ value.names

/-- The name of what is declared, and the names that it is declared with. -/
def Declaration.names (declaration : Declaration) : List String :=
  declaration.name :: declaration.initializer.names

/-- What may be the name of a vector with a number behind it. -/
def Bracket.stem? (bracket : Bracket) : Option String :=
  (Bracket.splitName? bracket.name).map fun (front, _) => .ofList front

/-- The name in a bracket, the one in front of its last underscore, and that of its index. -/
def Bracket.names (bracket : Bracket) : List String :=
  bracket.name :: (bracket.stem?.toList ++ (bracket.index.map (·.1)).toList)

mutual

/-- The names in a piece of a template. -/
def Piece.names : Piece → List String
  | .text _ => []
  | .bracket bracket => bracket.names
  | .expression expr => expr.names
  | .assign target initializer => target.names ++ initializer.names
  | .declare declaration => declaration.names
  | .choose branches none => Branch.allNames branches
  | .choose branches (some otherwise) => Branch.allNames branches ++ Piece.allNames otherwise

/-- The names in the pieces of a template. -/
def Piece.allNames : List Piece → List String
  | [] => []
  | piece :: rest => piece.names ++ Piece.allNames rest

def Branch.allNames : List (Branch Piece) → List String
  | [] => []
  | ⟨condition, body⟩ :: rest =>
      condition.names ++ (Piece.allNames body ++ Branch.allNames rest)

end

/-- Names, their parents, the parents of these, and so on. -/
inductive Definitions.Ancestry (parents : List (String × String)) (names : List String) :
    String → Prop where
  | here {name : String} :
      name ∈ names → Ancestry parents names name
  | parent {key above : String} :
      Ancestry parents names key → parents.lookup key = some above → Ancestry parents names above

/-- All names that a template can depend on by what it mentions. -/
def Piece.mentions (parents : List (String × String)) (pieces : List Piece) : Set String :=
  {name | Definitions.Ancestry parents (Piece.allNames pieces) name}

end GcodeTemplate
