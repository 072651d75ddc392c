import VideoSurvey.Survey.Fault
import VideoSurvey.Template.Render

/-!
# Template sets

A template set is a list of named templates. A part of the overlay is rendered by the first
template whose name ends with the part's name, so a set may keep its templates in folders. A set
is complete when it has a template for every part (`TemplateSet.complete`). Templates whose names
end in `.html.tera` escape what they emit.

Whoever needs a part rendered takes a `Renderer`, of which a template set is one. Templates that
are written in a notation of their own are another.
-/

set_option autoImplicit false

namespace VideoSurvey

/-- A template under a name. -/
structure NamedTemplate where
  name : String
  body : List Template.Node
deriving Repr

/-- The templates at hand, in the order in which they are looked through. -/
abbrev TemplateSet := List NamedTemplate

/-- A part of the overlay that a template renders. -/
inductive Part where
  | document
  | starStep
  | textStep
  | thankYou
  | stylesheet
deriving DecidableEq, Repr

namespace Part

/-- The name of a part's template. -/
def name : Part → String
  | .document => "document.html.tera"
  | .starStep => "step_star.html.tera"
  | .textStep => "step_text.html.tera"
  | .thankYou => "thank_you.html.tera"
  | .stylesheet => "stylesheet.css.tera"

/-- All parts, in the order in which their templates are asked for. -/
def all : List Part := [.document, .starStep, .textStep, .thankYou, .stylesheet]

end Part

/-- Why a template set cannot be used. A set in a notation of its own words its faults itself. -/
inductive TemplateFault where
  | missing (name : String)
  | unreadable (name : String)
  | malformed (name : String)
  | render (name : String) (fault : Template.RenderFault)
  | worded (message : String)
deriving DecidableEq, Repr

/-- Wording of a fault while a template is rendered. -/
def Template.RenderFault.message (name : String) : Template.RenderFault → String
  | .unknown path =>
      "Variable `" ++ String.ofList (Template.pathText path) ++
        "` not found in context while rendering '" ++ name ++ "'"
  | .notAList path =>
      "Tried to iterate on a container (`" ++ String.ofList (Template.pathText path) ++
        "`) that has a unsupported type"
  | .noLength => "Filter call 'length' failed"

/-- Wording of a fault. -/
def TemplateFault.message : TemplateFault → String
  | .missing name => "Template '" ++ name ++ "' not found in loaded template set."
  | .unreadable name => "Couldn't open template '" ++ name ++ "'"
  | .malformed name => "Failed to parse '" ++ name ++ "'"
  | .render name fault => "Failed to render '" ++ name ++ "': " ++ fault.message name
  | .worded message => message

/-- Renders each part of the overlay from the values that it can use. -/
abbrev Renderer := Part → Template.Scope → Except TemplateFault (List Char)

/-- Whether a name ends with another. -/
def endsWith (name ending : String) : Bool := ending.toList.isSuffixOf name.toList

/-- The names of templates that escape what they emit. -/
def escapesOutput (name : String) : Bool := endsWith name ".html.tera"

namespace TemplateSet

/-- The first template whose name ends with the given name. -/
def find (set : TemplateSet) (ending : String) : Except TemplateFault NamedTemplate :=
  match set.find? fun t => endsWith t.name ending with
  | some t => .ok t
  | none => .error (.missing ending)

/-- The set itself when it has a template for every part, and else the first part without one. -/
def complete (set : TemplateSet) : Except TemplateFault TemplateSet :=
  match Part.all.find? fun part => !set.any fun t => endsWith t.name part.name with
  | some part => .error (.missing part.name)
  | none => .ok set

/-- The text of a template found by the end of its name. -/
def renderNamed (set : TemplateSet) (ending : String) (context : Template.Scope) :
    Except TemplateFault (List Char) := do
  let t ← set.find ending
  match Template.render (escapesOutput t.name) context t.body with
  | .ok text => .ok text
  | .error fault => .error (.render t.name fault)

/-- The text of a part. -/
def render (set : TemplateSet) (part : Part) (context : Template.Scope) :
    Except TemplateFault (List Char) :=
  set.renderNamed part.name context

instance : Coe TemplateSet Renderer := ⟨render⟩

end TemplateSet

end VideoSurvey
