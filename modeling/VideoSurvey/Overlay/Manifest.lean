import VideoSurvey.Json.Decoder

/-!
# Manifests

A manifest tells the wizard in the document what to do: its steps in order, where each step leads,
what it captures and when its submit control is armed, and how the overlay closes. `Manifest.toJson`
writes one and `Manifest.decoder` reads one; a manifest that fits the machine's numbers is written
and read without loss.
-/

set_option autoImplicit false

namespace VideoSurvey.Overlay

open Json (Decoder RecordField)

/-- When a step's submit control is armed. -/
inductive Guard where
  /-- Once a star has been chosen. -/
  | starSelected
  /-- At once. -/
  | always
deriving DecidableEq, Repr

/-- What a step captures. -/
inductive Capture where
  | starCount
  | textInput
deriving DecidableEq, Repr

/-- Where the wizard goes. -/
inductive Transition where
  /-- To the step at an index, counted from zero; the step's id comes with it. -/
  | step (index : Nat) (target : String)
  /-- To the closing message. -/
  | thankYou
deriving DecidableEq, Repr

/-- The fixed parts of the event that a step sends to the host's tracker. -/
structure Analytics where
  id : String
  name : String
  group : String
  eventType : String
  /-- The kind that the tracker files the event under. -/
  channel : String
deriving DecidableEq, Repr

/-- What the wizard does for one step. -/
structure Step where
  stepId : String
  submitId : String
  guard : Guard
  capture : Capture
  maxStars : Nat
  analytics : Analytics
  next : Transition
deriving DecidableEq, Repr

/-- How the overlay closes: the closing message is shown for a while, and after a further delay the
video goes on at a given time. -/
structure Closing where
  stepId : String
  durationMs : Nat
  transitionDelayMs : Nat
  continueTime : Int
deriving DecidableEq, Repr

/-- What the wizard has to know. -/
structure Manifest where
  callback : String
  initial : Transition
  steps : List Step
  closing : Closing
deriving DecidableEq, Repr

/-! ## Ids -/

/-- The id of the step of a question. -/
def stepId (position : Nat) : String := "question-" ++ String.ofList (Json.natDigits position)

/-- The id of the closing message. -/
def thankYouStepId : String := "thank-you-step"

namespace Transition

/-- Out of the step at an index, counted from zero, of several steps. -/
def after (index total : Nat) : Transition :=
  if index + 1 < total then .step (index + 1) (Overlay.stepId (index + 2)) else .thankYou

/-- Into the first of several steps. -/
def initial (total : Nat) : Transition :=
  if total = 0 then .thankYou else .step 0 (Overlay.stepId 1)

/-- The id of what the transition leads to. -/
def targetId : Transition → String
  | .step _ target => target
  | .thankYou => thankYouStepId

end Transition

/-! ## Writing -/

/-- The name of a guard. -/
def Guard.name : Guard → String
  | .starSelected => "starSelected"
  | .always => "open"

/-- The name of what is captured. -/
def Capture.name : Capture → String
  | .starCount => "starCount"
  | .textInput => "textInput"

/-- A transition as JSON. -/
def Transition.toJson : Transition → Json
  | .step index target =>
      .obj [("kind", .str "step"), ("index", Json.ofNat index), ("target", .str target)]
  | .thankYou => .obj [("kind", .str "thankYou")]

/-- The fixed parts of an event as JSON. -/
def Analytics.toJson (a : Analytics) : Json :=
  .obj [("id", .str a.id), ("name", .str a.name), ("group", .str a.group),
    ("type", .str a.eventType), ("channel", .str a.channel)]

/-- A step as JSON. -/
def Step.toJson (s : Step) : Json :=
  .obj [("stepId", .str s.stepId), ("submitId", .str s.submitId), ("guard", .str s.guard.name),
    ("capture", .str s.capture.name), ("maxStars", Json.ofNat s.maxStars),
    ("analytics", s.analytics.toJson), ("next", s.next.toJson)]

/-- The closing as JSON. -/
def Closing.toJson (c : Closing) : Json :=
  .obj [("stepId", .str c.stepId), ("durationMs", Json.ofNat c.durationMs),
    ("transitionDelayMs", Json.ofNat c.transitionDelayMs),
    ("continueTime", Json.ofInt c.continueTime)]

/-- A manifest as JSON. -/
def Manifest.toJson (m : Manifest) : Json :=
  .obj [("callback", .str m.callback), ("initial", m.initial.toJson),
    ("steps", .arr (m.steps.map Step.toJson)), ("thankYou", m.closing.toJson)]

/-! ## Reading -/

/-- A guard out of JSON. -/
def Guard.decoder : Decoder Guard :=
  Json.choice [("starSelected", .starSelected), ("open", .always)]

/-- What is captured, out of JSON. -/
def Capture.decoder : Decoder Capture :=
  Json.choice [("starCount", .starCount), ("textInput", .textInput)]

/-- Fields of a transition to a step. -/
def Transition.stepFields : List (RecordField (Nat × String)) :=
  [.needed "index" Json.count64 fun a t => (a, t.2),
   .needed "target" Json.text fun a t => (t.1, a)]

/-- A transition out of JSON. -/
def Transition.decoder : Decoder Transition :=
  Json.tagged "Transition" "kind"
    [("step", Json.recordVariant "Transition::Step" stepFields (0, "") fun t => .step t.1 t.2),
     ("thankYou", Json.emptyVariant .thankYou)]

/-- The fixed parts of an event before any is known. -/
def Analytics.blank : Analytics := ⟨"", "", "", "", ""⟩

/-- Fields of the fixed parts of an event. -/
def Analytics.fields : List (RecordField Analytics) :=
  [.needed "id" Json.text fun a s => { s with id := a },
   .needed "name" Json.text fun a s => { s with name := a },
   .needed "group" Json.text fun a s => { s with group := a },
   .needed "type" Json.text fun a s => { s with eventType := a },
   .needed "channel" Json.text fun a s => { s with channel := a }]

/-- The fixed parts of an event out of JSON. -/
def Analytics.decoder : Decoder Analytics := Json.record "AnalyticsTemplate" fields .blank

/-- A step before any of its fields is known. -/
def Step.blank : Step := ⟨"", "", .always, .textInput, 0, .blank, .thankYou⟩

/-- Fields of a step. -/
def Step.fields : List (RecordField Step) :=
  [.needed "stepId" Json.text fun a s => { s with stepId := a },
   .needed "submitId" Json.text fun a s => { s with submitId := a },
   .needed "guard" Guard.decoder fun a s => { s with guard := a },
   .needed "capture" Capture.decoder fun a s => { s with capture := a },
   .needed "maxStars" Json.unsigned32 fun a s => { s with maxStars := a },
   .needed "analytics" Analytics.decoder fun a s => { s with analytics := a },
   .needed "next" Transition.decoder fun a s => { s with next := a }]

/-- A step out of JSON. -/
def Step.decoder : Decoder Step := Json.record "StepBehavior" fields .blank

/-- A closing before any of its fields is known. -/
def Closing.blank : Closing := ⟨"", 0, 0, 0⟩

/-- Fields of the closing. -/
def Closing.fields : List (RecordField Closing) :=
  [.needed "stepId" Json.text fun a c => { c with stepId := a },
   .needed "durationMs" Json.unsigned64 fun a c => { c with durationMs := a },
   .needed "transitionDelayMs" Json.unsigned64 fun a c => { c with transitionDelayMs := a },
   .needed "continueTime" Json.signed64 fun a c => { c with continueTime := a }]

/-- The closing out of JSON. -/
def Closing.decoder : Decoder Closing := Json.record "ThankYouBehavior" fields .blank

/-- A manifest before any of its fields is known. -/
def Manifest.blank : Manifest := ⟨"", .thankYou, [], .blank⟩

/-- Fields of a manifest. -/
def Manifest.fields : List (RecordField Manifest) :=
  [.needed "callback" Json.text fun a m => { m with callback := a },
   .needed "initial" Transition.decoder fun a m => { m with initial := a },
   .needed "steps" (Json.list Step.decoder) fun a m => { m with steps := a },
   .needed "thankYou" Closing.decoder fun a m => { m with closing := a }]

/-- A manifest out of JSON. -/
def Manifest.decoder : Decoder Manifest := Json.record "RuntimeManifest" fields .blank

end VideoSurvey.Overlay
