import VideoSurvey.Survey.Basic
import VideoSurvey.Survey.Fault
import VideoSurvey.Text.Blank

/-!
# Resolved surveys

A resolved survey has a value for everything. `resolve` takes each option from the definition when
it is given there, and a text only when it is not blank; it keeps such a text as it stands. A
question of an unrecognized kind and a star scale above the limit have no resolution, the first
question at fault coming before the scale.
-/

set_option autoImplicit false

namespace VideoSurvey.Survey

/-- What a resolved question asks for. -/
inductive Answer where
  | starRating
  | text (placeholder : String)
deriving DecidableEq, Repr

/-- A question with its place, counted from one. -/
structure ResolvedQuestion where
  position : Nat
  text : String
  trackId : String
  trackName : String
  answer : Answer
deriving DecidableEq, Repr

/-- The video and when the survey interrupts it. -/
structure ResolvedVideo where
  host : String
  videoId : String
  startTime : Decimal.Number
  endTime : Decimal.Number
  continueTime : Int
  params : Json.Members
deriving Repr

/-- Colours and font. -/
structure Theme where
  primaryColor : String
  textColor : String
  borderColor : String
  cardBackground : String
  fontFamily : String
deriving DecidableEq, Repr

/-- The closing message. -/
structure ThankYou where
  message : String
  subtext : String
  durationMs : Nat
deriving DecidableEq, Repr

/-- A survey with a value for everything. -/
structure Resolved where
  title : String
  questions : List ResolvedQuestion
  maxStars : Nat
  video : ResolvedVideo
  theme : Theme
  thankYou : ThankYou
deriving Repr

/-! ## Defaults -/

/-- Values for the options that are left out. -/
structure Defaults where
  title : String
  maxStars : Int
  placeholder : String
  startTime : Nat
  endTime : Nat
  continueTime : Int
  theme : Theme
  thankYou : ThankYou

/-- The default values. -/
def defaults : Defaults where
  title := "Interactive Feedback Survey"
  maxStars := 5
  placeholder := "Type your comments here"
  startTime := 6
  endTime := 7
  continueTime := 8000
  theme := ⟨"#002D72", "#3F3B3C", "#FFFFFF", "rgba(255, 255, 255, 0.7)", "Poppins"⟩
  thankYou :=
    ⟨"Thank you for your response!", "Your feedback helps us improve our content and services.",
      3000⟩

/-- The largest star scale. -/
def maxStarsLimit : Int := 10

/-- The tracking id of a question that has none. -/
def defaultTrackId (position : Nat) : String :=
  "question_" ++ String.ofList (Json.natDigits position) ++ "_feedback"

/-- The tracking name of a question that has none. -/
def defaultTrackName (kind : Kind) (position : Nat) : String :=
  let name := "Question " ++ String.ofList (Json.natDigits position)
  match kind with
  | .starRating => name ++ " Rating"
  | _ => name

/-! ## Resolution -/

/-- A text that is given and not blank, or else the fallback. -/
def given (value : Option String) (fallback : String) : String :=
  match value with
  | some s => if Text.isBlank s then fallback else s
  | none => fallback

/-- What a question of a kind asks for. -/
def Answer.ofKind (placeholder : Option String) : Kind → Except QuestionFault Answer
  | .starRating => .ok .starRating
  | .text => .ok (.text (given placeholder defaults.placeholder))
  | .unrecognized name => .error (.unrecognized name)

/-- The question at a place. -/
def Question.resolve (position : Nat) (q : Question) : Except Fault ResolvedQuestion :=
  match Answer.ofKind q.placeholder q.kind with
  | .error fault => .error (.question position fault)
  | .ok answer =>
      .ok {
        position
        text := q.text
        trackId := given q.trackId (defaultTrackId position)
        trackName := given q.trackName (defaultTrackName q.kind position)
        answer }

/-- The questions from a place on. -/
def resolveQuestions : Nat → List Question → Except Fault (List ResolvedQuestion)
  | _, [] => .ok []
  | position, q :: r => do
      let q ← q.resolve position
      let r ← resolveQuestions (position + 1) r
      .ok (q :: r)

/-- The star scale, with nothing below zero and nothing above the limit. -/
def StarScale.resolve (s : StarScale) : Except Fault Nat :=
  let n := s.maxStars.getD defaults.maxStars
  if maxStarsLimit < n then .error (.document (.tooManyStars maxStarsLimit n))
  else .ok n.toNat

/-- The theme of a styling. -/
def Styling.resolve (s : Styling) : Theme where
  primaryColor := given s.primaryColor defaults.theme.primaryColor
  textColor := given s.textColor defaults.theme.textColor
  borderColor := given s.borderColor defaults.theme.borderColor
  cardBackground := given s.cardBackground defaults.theme.cardBackground
  fontFamily := given s.fontFamily defaults.theme.fontFamily

/-- The video with its times. -/
def Video.resolve (v : Video) : ResolvedVideo where
  host := v.host
  videoId := v.videoId
  startTime := v.startTime.getD (.integer defaults.startTime)
  endTime := v.endTime.getD (.integer defaults.endTime)
  continueTime := v.continueTime.getD defaults.continueTime
  params := v.params

/-- The closing message of a definition. -/
def Definition.thankYou (d : Definition) : ThankYou where
  message := given d.thankYouMessage defaults.thankYou.message
  subtext := given d.thankYouSubtext defaults.thankYou.subtext
  durationMs := d.thankYouDuration.getD defaults.thankYou.durationMs

/-- The survey that a definition describes. -/
def Definition.resolve (d : Definition) : Except Fault Resolved := do
  let questions ← resolveQuestions 1 d.questions
  let maxStars ← d.starScale.resolve
  .ok {
    title := given d.title defaults.title
    questions
    maxStars
    video := d.video.resolve
    theme := d.styling.resolve
    thankYou := d.thankYou }

/-! ## Resolved surveys as JSON -/

/-- A resolved question as JSON. -/
def ResolvedQuestion.toJson (q : ResolvedQuestion) : Json :=
  .obj ([("position", Json.ofNat q.position), ("text", .str q.text), ("trackId", .str q.trackId),
      ("trackName", .str q.trackName)] ++
    match q.answer with
    | .starRating => [("type", .str Kind.starRating.name)]
    | .text placeholder => [("type", .str Kind.text.name), ("placeholder", .str placeholder)])

/-- A resolved video as JSON. -/
def ResolvedVideo.toJson (v : ResolvedVideo) : Json :=
  .obj [("host", .str v.host), ("videoId", .str v.videoId), ("startTime", .num v.startTime),
    ("endTime", .num v.endTime), ("continueTime", Json.ofInt v.continueTime),
    ("params", .obj v.params)]

/-- A theme as JSON, under the names that the stylesheet uses. -/
def Theme.toJson (t : Theme) : Json :=
  .obj [("primary_color", .str t.primaryColor), ("text_color", .str t.textColor),
    ("border_color", .str t.borderColor), ("card_background", .str t.cardBackground),
    ("font_family", .str t.fontFamily)]

/-- A closing message as JSON. -/
def ThankYou.toJson (t : ThankYou) : Json :=
  .obj [("message", .str t.message), ("subtext", .str t.subtext),
    ("durationMs", Json.ofNat t.durationMs)]

/-- A resolved survey as JSON. -/
def Resolved.toJson (s : Resolved) : Json :=
  .obj [("title", .str s.title), ("questions", .arr (s.questions.map ResolvedQuestion.toJson)),
    ("maxStars", Json.ofNat s.maxStars), ("video", s.video.toJson), ("theme", s.theme.toJson),
    ("thankYou", s.thankYou.toJson)]

end VideoSurvey.Survey
