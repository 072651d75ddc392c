import VideoSurvey.Overlay.Manifest
import VideoSurvey.Survey.Resolve
import VideoSurvey.Template.Set
import VideoSurvey.Text.Font

/-!
# Cards

A card is the markup of one question together with what the wizard does for it, made from the same
question so that the two agree on ids, tracking and the next step. The closing card and the
stylesheet are rendered here too.
-/

set_option autoImplicit false

namespace VideoSurvey.Overlay

open Survey (ResolvedQuestion Answer ThankYou Theme)

/-- The group of every event. -/
def feedbackGroup : String := "Feedback"

/-- The type of every event. -/
def eventType : String := "BW"

/-- The text on a submit control. -/
def submitLabel (position total : Nat) : String :=
  if position = total then "SUBMIT FEEDBACK" else "NEXT"

/-- What the wizard does for a question. -/
def Step.ofQuestion (q : ResolvedQuestion) (total maxStars : Nat) : Step :=
  let number := String.ofList (Json.natDigits q.position)
  let analytics (channel : String) : Analytics :=
    ⟨q.trackId, q.trackName, feedbackGroup, eventType, channel⟩
  let next := Transition.after (q.position - 1) total
  match q.answer with
  | .starRating =>
      { stepId := Overlay.stepId q.position
        submitId := "survey-submit-" ++ number
        guard := .starSelected
        capture := .starCount
        maxStars
        analytics := analytics "feedback"
        next }
  | .text _ =>
      { stepId := Overlay.stepId q.position
        submitId := "text-submit-" ++ number
        guard := .always
        capture := .textInput
        maxStars := 0
        analytics := analytics "customform"
        next }

/-- The template part for an answer. -/
def partOf : Answer → Part
  | .starRating => .starStep
  | .text _ => .textStep

/-- The placeholder of an answer; there is none for stars. -/
def placeholderOf : Answer → String
  | .starRating => ""
  | .text placeholder => placeholder

/-- The stars to choose from. -/
def starNumbers (maxStars : Nat) : List Json :=
  (List.range maxStars).map fun i => Json.ofNat (i + 1)

/-- The values that a question's template can use. -/
def stepScope (q : ResolvedQuestion) (step : Step) (total : Nat) : Template.Scope :=
  [("step", .obj [("step_id", .str step.stepId), ("submit_id", .str step.submitId),
    ("position", Json.ofNat q.position), ("total", Json.ofNat total),
    ("active", .bool (q.position = 1)), ("text", .str q.text), ("track_id", .str q.trackId),
    ("track_name", .str q.trackName), ("next_step", .str step.next.targetId),
    ("label", .str (submitLabel q.position total)), ("stars", .arr (starNumbers step.maxStars)),
    ("placeholder", .str (placeholderOf q.answer))])]

/-- Markup and behaviour of one question. -/
structure Card where
  markup : List Char
  step : Step
deriving Repr

/-- The card of a question among several. -/
def Card.of (render : Renderer) (total maxStars : Nat) (q : ResolvedQuestion) :
    Except TemplateFault Card := do
  let step := Step.ofQuestion q total maxStars
  let markup ← render (partOf q.answer) (stepScope q step total)
  .ok ⟨markup, step⟩

/-- The cards of all questions. -/
def cards (render : Renderer) (questions : List ResolvedQuestion) (maxStars : Nat) :
    Except TemplateFault (List Card) :=
  questions.mapM (Card.of render questions.length maxStars)

/-- The values that the closing card's template can use. -/
def thankYouScope (t : ThankYou) (isInitial : Bool) : Template.Scope :=
  [("thank_you", .obj [("step_id", .str thankYouStepId), ("active", .bool isInitial),
    ("message", .str t.message), ("subtext", .str t.subtext)])]

/-- The closing card. -/
def thankYouCard (render : Renderer) (t : ThankYou) (isInitial : Bool) :
    Except TemplateFault (List Char) :=
  render .thankYou (thankYouScope t isInitial)

/-- The values that the stylesheet's template can use. -/
def stylesheetScope (theme : Theme) (zIndex : String) : Template.Scope :=
  [("theme", theme.toJson), ("font_stack", .str (Text.Font.stacked theme.fontFamily)),
    ("z_index", .str zIndex)]

/-- The stylesheet of a theme. -/
def stylesheet (render : Renderer) (theme : Theme) (zIndex : String) :
    Except TemplateFault (List Char) :=
  render .stylesheet (stylesheetScope theme zIndex)

end VideoSurvey.Overlay
