import GcodeTemplate.Expr.Grammar
import GcodeTemplate.Piece.Grammar
import GcodeTemplate.Piece.Render

/-!
# Templates

A template is read once and can be rendered any number of times.  A condition
is a template that consists of one expression and decides between true and
false.  Faults are reported with the source that they stand in.
-/

namespace GcodeTemplate

/-- What a template consists of. -/
inductive Template.Body where
  | pieces (pieces : List Piece)
  | condition (expr : Expr)

/-- A template that has been read. -/
structure Template where
  source : String
  body : Template.Body

namespace Template

/-- Show a fault in the source that it stands in. -/
def diagnose
    {α : Type}
    (source : String)
    (result : Except Fault α)
    (explain : Explainer := .silent) :
    Except Diagnostic α :=
  result.mapError (·.diagnostic source explain)

/-- Read a template. -/
def parse (source : String) : Except Diagnostic Template :=
  diagnose source do
    let pieces ← Piece.parse source
    pure ⟨source, .pieces pieces⟩

/-- Read a condition. -/
def parseCondition (source : String) : Except Diagnostic Template :=
  diagnose source do
    let expr ← Expr.parse source
    pure ⟨source, .condition expr⟩

/-- Whether a template is a condition. -/
def isCondition (template : Template) : Bool :=
  match template.body with
  | .pieces _ => false
  | .condition _ => true

/-- The text of a template; that of a condition tells whether it holds. -/
def render
    (template : Template)
    (layers : Layers)
    (state : State) :
    Except Diagnostic String × State :=
  match template.body with
  | .pieces pieces =>
      let (result, page) := Piece.renderAll pieces layers ⟨state, ""⟩
      (diagnose template.source (result.map fun _ => page.output) layers.explain, page.state)
  | .condition expr =>
      let (result, after) := expr.evalCondition layers state
      (diagnose template.source (result.map fun b => (Value.bool b).text) layers.explain, after)

/-- Whether a condition that was read from a source holds. -/
def decideExpr
    (source : String)
    (expr : Expr)
    (layers : Layers)
    (state : State) :
    Except Diagnostic Bool × State :=
  let (result, after) := expr.evalCondition layers state
  (diagnose source result layers.explain, after)

/-- Whether a template holds; one that is no condition is read again as one. -/
def decide
    (template : Template)
    (layers : Layers)
    (state : State) :
    Except Diagnostic Bool × State :=
  match template.body with
  | .condition expr => decideExpr template.source expr layers state
  | .pieces _ =>
      match diagnose template.source (Expr.parse template.source) with
      | .error diagnostic => (.error diagnostic, state)
      | .ok expr => decideExpr template.source expr layers state

end Template

end GcodeTemplate
