import VideoSurvey.Json.Basic

/-!
# Survey definitions

A definition is what an editor stores: questions in order, and options for the star scale, the
video that the survey is laid over, the styling and the closing message. Every option may be left
out. Members that the definition does not know are kept in `extra`.
-/

set_option autoImplicit false

namespace VideoSurvey.Survey

/-- How a question is answered. A kind that is not known keeps its name. -/
inductive Kind where
  | starRating
  | text
  | unrecognized (name : String)
deriving DecidableEq, Repr

namespace Kind

/-- The kind with a name. -/
def ofName (name : String) : Kind :=
  if name = "star-rating" then .starRating
  else if name = "text" then .text
  else .unrecognized name

/-- The name of a kind. -/
def name : Kind → String
  | .starRating => "star-rating"
  | .text => "text"
  | .unrecognized name => name

/-- A kind that is known. -/
def isRecognized : Kind → Bool
  | .unrecognized _ => false
  | _ => true

/-- Every name is the name of its kind. -/
@[simp] theorem name_ofName (s : String) : (ofName s).name = s := by
  unfold ofName
  split
  · rename_i h; exact h.symm
  · split
    · rename_i h; exact h.symm
    · rfl

end Kind

/-- A question as it is stored. -/
structure Question where
  kind : Kind
  text : String
  trackId : Option String
  trackName : Option String
  placeholder : Option String
deriving DecidableEq, Repr

namespace Question

/-- A star question without options. -/
def starRating (text : String) : Question := ⟨.starRating, text, none, none, none⟩

/-- A text question. -/
def freeText (text : String) (placeholder : Option String) : Question :=
  ⟨.text, text, none, none, placeholder⟩

/-- A question with its own tracking id and name. -/
def withTracking (q : Question) (id name : String) : Question :=
  { q with trackId := some id, trackName := some name }

end Question

/-- The star scale. -/
structure StarScale where
  maxStars : Option Int
deriving DecidableEq, Repr

/-- The video and when the survey interrupts it. -/
structure Video where
  host : String
  videoId : String
  startTime : Option Decimal.Number
  endTime : Option Decimal.Number
  continueTime : Option Int
  params : Json.Members
deriving Repr

/-- Colours and font of the overlay. -/
structure Styling where
  primaryColor : Option String
  textColor : Option String
  borderColor : Option String
  cardBackground : Option String
  fontFamily : Option String
deriving DecidableEq, Repr

/-- A survey as it is stored. -/
structure Definition where
  id : String
  title : Option String
  questions : List Question
  starScale : StarScale
  video : Video
  styling : Styling
  thankYouMessage : Option String
  thankYouSubtext : Option String
  thankYouDuration : Option Nat
  createdAt : Option String
  updatedAt : Option String
  extra : Json.Members
deriving Repr

/-- A question before any of its fields is known. -/
def Question.blank : Question := .freeText "" none

/-- A star scale without options. -/
def StarScale.blank : StarScale := ⟨none⟩

/-- A video without options. -/
def Video.blank : Video := ⟨"", "", none, none, none, []⟩

/-- A styling without options. -/
def Styling.blank : Styling := ⟨none, none, none, none, none⟩

/-- A survey without questions or options. -/
def Definition.blank : Definition :=
  ⟨"", none, [], .blank, .blank, .blank, none, none, none, none, none, []⟩

end VideoSurvey.Survey
