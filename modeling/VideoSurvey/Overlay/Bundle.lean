import VideoSurvey.Digest
import VideoSurvey.Overlay.Activation
import VideoSurvey.Overlay.Card
import VideoSurvey.Overlay.Script
import VideoSurvey.Overlay.Stylesheet
import VideoSurvey.Survey.Codec

/-!
# Bundles

A bundle is a compiled overlay: one document that needs nothing beside it, and the manifest, the
activation and the digest that belong to it. Compiling resolves the definition and then renders
the cards, the closing card, the stylesheet and the document, in this order; the first fault
counts.
-/

set_option autoImplicit false

namespace VideoSurvey.Overlay

open Survey (Definition Resolved)

/-- Why a definition gives no bundle. -/
inductive CompileFault where
  | survey (fault : Survey.Fault)
  | template (fault : TemplateFault)
deriving Repr

/-- Wording of a fault. -/
def CompileFault.message : CompileFault → String
  | .survey fault => fault.message
  | .template fault => "template error: " ++ fault.message

/-- A compiled overlay. -/
structure Bundle where
  html : String
  manifest : Manifest
  activation : Activation
  sha256 : String
deriving Repr

/-- The manifest of a survey with given steps. -/
def manifestOf (survey : Resolved) (settings : Settings) (steps : List Step) : Manifest where
  callback := settings.callbackName
  initial := .initial steps.length
  steps := steps
  closing :=
    { stepId := thankYouStepId
      durationMs := survey.thankYou.durationMs
      transitionDelayMs := settings.transitionDelayMs
      continueTime := survey.video.continueTime }

/-- The values that the document's template can use. -/
def documentScope (survey : Resolved) (settings : Settings) (manifest : Manifest)
    (activation : Activation) (cards : List Card) (thankYou stylesheet : List Char) :
    Template.Scope :=
  [("title", .str survey.title), ("icon_stylesheet_url", .str settings.iconStylesheetUrl),
    ("player_script_url", .str settings.playerScriptUrl),
    ("stylesheet", .str (String.ofList stylesheet)),
    ("video", .obj [("host", .str survey.video.host), ("video_id", .str survey.video.videoId)]),
    ("video_params_json", .str (Json.obj survey.video.params).compactText),
    ("widget_config_json", .str activation.toJson.compactText),
    ("manifest_json", .str manifest.toJson.compactText),
    ("step_markup", .arr (cards.map fun card => .str (String.ofList card.markup))),
    ("thank_you_markup", .str (String.ofList thankYou)),
    ("runtime_script", .str (String.ofList script))]

/-- The bundle of a resolved survey. -/
def assemble (render : Renderer) (survey : Resolved) (settings : Settings) :
    Except TemplateFault Bundle := do
  let cards ← cards render survey.questions survey.maxStars
  let manifest := manifestOf survey settings (cards.map Card.step)
  let thankYou ← thankYouCard render survey.thankYou (manifest.initial = .thankYou)
  let stylesheet ← stylesheet render survey.theme settings.zIndex
  let activation := Activation.of survey settings
  let html ← render .document
    (documentScope survey settings manifest activation cards thankYou stylesheet)
  let html := String.ofList html
  .ok { html, manifest, activation, sha256 := Digest.sha256Text html }

/-- The bundle of a definition. -/
def compile (render : Renderer) (d : Definition) (settings : Settings) :
    Except CompileFault Bundle := do
  let survey ← d.resolve.mapError .survey
  (assemble render survey settings).mapError .template

end VideoSurvey.Overlay
