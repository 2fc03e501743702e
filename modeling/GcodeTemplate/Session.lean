import GcodeTemplate.Session.Surroundings
import GcodeTemplate.Template

/-!
# Sessions

A session holds the process layer and what is the same for all templates that
are rendered in it.
-/

namespace GcodeTemplate

/-- The layers and the definitions that templates are rendered with. -/
structure Session where
  process : Dictionary := ∅
  external : Option Dictionary := none
  definitions : Definitions := .empty

namespace Session

/-- The version that templates can ask for. -/
def version : String :=
  "0.1.0"

/-- A session whose process layer tells the version, the time and the user. -/
def new
    (external : Option Dictionary)
    (environment : Environment)
    (time : CivilTime) :
    Session where
  process :=
    (((∅ : Dictionary).insert "version" (.string version)).importEnvironment environment
      |>.setTime time).setUser environment
  external := external

/-- Change the process layer. -/
def mapProcess (session : Session) (change : Dictionary → Dictionary) : Session :=
  { session with process := change session.process }

/-- The keys under which a dictionary has a setting that the process layer lacks. -/
def diff (session : Session) (dictionary : Dictionary) : List String :=
  session.process.diff dictionary

/-- Take over the settings of a dictionary that differ, and tell whether any did. -/
def apply (session : Session) (dictionary : Dictionary) : Bool × Session :=
  let keys := session.diff dictionary
  (! keys.isEmpty,
    session.mapProcess (·.insertAll (dictionary.entries.filter (keys.contains ·.1))))

/-- Take over the settings of a dictionary under some keys. -/
def applyOnly (session : Session) (dictionary : Dictionary) (keys : List String) : Session :=
  session.mapProcess (·.insertAll (dictionary.entries.filter (keys.contains ·.1)))

/-- The layers of an evaluation with the overrides of a caller. -/
def layers
    (session : Session)
    (overrides : Option Dictionary)
    (explain : Explainer := .silent) :
    Layers where
  overrides := overrides
  process := session.process
  external := session.external
  definitions := session.definitions
  explain := explain

/-- Render a template that has been read. -/
def render
    (session : Session)
    (template : Template)
    (overrides : Option Dictionary)
    (state : State)
    (explain : Explainer := .silent) :
    Except Diagnostic String × State :=
  template.render (session.layers overrides explain) state

/-- Read a template and render it. -/
def renderSource
    (session : Session)
    (source : String)
    (overrides : Option Dictionary)
    (state : State)
    (explain : Explainer := .silent) :
    Except Diagnostic String × State :=
  match Template.parse source with
  | .error diagnostic => (.error diagnostic, state)
  | .ok template => session.render template overrides state explain

/-- Read a condition and decide it by the process layer and the overrides alone. -/
def decide
    (session : Session)
    (source : String)
    (overrides : Option Dictionary)
    (explain : Explainer := .silent) :
    Except Diagnostic Bool := do
  let template ← Template.parseCondition source
  (template.decide
    { overrides := overrides, process := session.process, explain := explain } {}).1

end Session

end GcodeTemplate
