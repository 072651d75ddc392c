import VideoSurvey.Json.Decoder
import VideoSurvey.Survey.Basic
import VideoSurvey.Survey.Fault

/-!
# Surveys as JSON

`Definition.toJson` writes a definition with its known members in a fixed order and the others
behind them in the order of their keys; an option that is left out is not written.
`Definition.ofJson` reads one. It looks first at the shape of the questions, so that a question at
fault is named by its place, and then at the types of all members in the order of their keys.
-/

set_option autoImplicit false

namespace VideoSurvey.Survey

open Json (Decoder RecordField Mismatch)

/-! ## Writing -/

/-- A member that is written only when it is there. -/
def optionalMember {α : Type} (key : String) (value : Option α) (toJson : α → Json) :
    Json.Members :=
  match value with
  | some a => [(key, toJson a)]
  | none => []

/-- A question as JSON. -/
def Question.toJson (q : Question) : Json :=
  .obj ([("type", .str q.kind.name), ("text", .str q.text)] ++
    optionalMember "trackId" q.trackId .str ++
    optionalMember "trackName" q.trackName .str ++
    optionalMember "placeholder" q.placeholder .str)

/-- A star scale as JSON. -/
def StarScale.toJson (s : StarScale) : Json :=
  .obj (optionalMember "maxStars" s.maxStars Json.ofInt)

/-- A video as JSON. -/
def Video.toJson (v : Video) : Json :=
  .obj ([("host", .str v.host), ("videoId", .str v.videoId)] ++
    optionalMember "startTime" v.startTime .num ++
    optionalMember "endTime" v.endTime .num ++
    optionalMember "continueTime" v.continueTime Json.ofInt ++
    [("params", .obj v.params)])

/-- A styling as JSON. -/
def Styling.toJson (s : Styling) : Json :=
  .obj (optionalMember "primaryColor" s.primaryColor .str ++
    optionalMember "textColor" s.textColor .str ++
    optionalMember "borderColor" s.borderColor .str ++
    optionalMember "cardBackground" s.cardBackground .str ++
    optionalMember "fontFamily" s.fontFamily .str)

/-- The members of a definition that it knows. -/
def Definition.knownMembers (d : Definition) : Json.Members :=
  [("id", .str d.id)] ++
    optionalMember "title" d.title .str ++
    [("questions", .arr (d.questions.map Question.toJson)),
      ("starRating", d.starScale.toJson),
      ("videoConfig", d.video.toJson),
      ("styling", d.styling.toJson)] ++
    optionalMember "thankYouMessage" d.thankYouMessage .str ++
    optionalMember "thankYouSubtext" d.thankYouSubtext .str ++
    optionalMember "thankYouDuration" d.thankYouDuration Json.ofNat ++
    optionalMember "createdAt" d.createdAt .str ++
    optionalMember "updatedAt" d.updatedAt .str

/-- A definition as JSON. -/
def Definition.toJson (d : Definition) : Json := .obj (d.knownMembers ++ d.extra)

/-- A definition as text. -/
def Definition.text (d : Definition) : String := d.toJson.compactText

/-- A definition as JSON with the members of every object in the order of their keys. -/
def Definition.toSortedJson (d : Definition) : Json := d.toJson.sortKeys

/-! ## Reading -/

/-- Fields of a question. -/
def Question.fields : List (RecordField Question) :=
  [.needed "type" Json.text fun a q => { q with kind := .ofName a },
   .defaulted "text" Json.text fun a q => { q with text := a },
   .defaulted "trackId" (Json.optional Json.text) fun a q => { q with trackId := a },
   .defaulted "trackName" (Json.optional Json.text) fun a q => { q with trackName := a },
   .defaulted "placeholder" (Json.optional Json.text) fun a q => { q with placeholder := a }]

/-- A question out of JSON. -/
def Question.decoder : Decoder Question := Json.record "Question" Question.fields .blank

/-- Fields of a star scale. -/
def StarScale.fields : List (RecordField StarScale) :=
  [.defaulted "maxStars" (Json.optional Json.signed64) fun a s => { s with maxStars := a }]

/-- A star scale out of JSON. -/
def StarScale.decoder : Decoder StarScale :=
  Json.record "StarRatingConfig" StarScale.fields .blank

/-- Fields of a video. -/
def Video.fields : List (RecordField Video) :=
  [.defaulted "host" Json.text fun a v => { v with host := a },
   .defaulted "videoId" Json.text fun a v => { v with videoId := a },
   .defaulted "startTime" (Json.optional Json.anyNumber) fun a v => { v with startTime := a },
   .defaulted "endTime" (Json.optional Json.anyNumber) fun a v => { v with endTime := a },
   .defaulted "continueTime" (Json.optional Json.signed64) fun a v => { v with continueTime := a },
   .defaulted "params" Json.table fun a v => { v with params := a }]

/-- A video out of JSON. -/
def Video.decoder : Decoder Video := Json.record "VideoConfig" Video.fields .blank

/-- Fields of a styling. -/
def Styling.fields : List (RecordField Styling) :=
  [.defaulted "primaryColor" (Json.optional Json.text) fun a s => { s with primaryColor := a },
   .defaulted "textColor" (Json.optional Json.text) fun a s => { s with textColor := a },
   .defaulted "borderColor" (Json.optional Json.text) fun a s => { s with borderColor := a },
   .defaulted "cardBackground" (Json.optional Json.text) fun a s => { s with cardBackground := a },
   .defaulted "fontFamily" (Json.optional Json.text) fun a s => { s with fontFamily := a }]

/-- A styling out of JSON. -/
def Styling.decoder : Decoder Styling := Json.record "Styling" Styling.fields .blank

/-- Fields of a definition. -/
def Definition.fields : List (RecordField Definition) :=
  [.defaulted "id" Json.text fun a d => { d with id := a },
   .defaulted "title" (Json.optional Json.text) fun a d => { d with title := a },
   .defaulted "questions" (Json.list Question.decoder) fun a d => { d with questions := a },
   .defaulted "starRating" StarScale.decoder fun a d => { d with starScale := a },
   .defaulted "videoConfig" Video.decoder fun a d => { d with video := a },
   .defaulted "styling" Styling.decoder fun a d => { d with styling := a },
   .defaulted "thankYouMessage" (Json.optional Json.text) fun a d =>
     { d with thankYouMessage := a },
   .defaulted "thankYouSubtext" (Json.optional Json.text) fun a d =>
     { d with thankYouSubtext := a },
   .defaulted "thankYouDuration" (Json.optional Json.unsigned64) fun a d =>
     { d with thankYouDuration := a },
   .defaulted "createdAt" (Json.optional Json.text) fun a d => { d with createdAt := a },
   .defaulted "updatedAt" (Json.optional Json.text) fun a d => { d with updatedAt := a }]

/-- A key that a definition knows. -/
def Definition.isKnown (key : String) : Bool := (Json.field? Definition.fields key).isSome

/-- A definition out of the members of an object, by the types of the members alone. -/
def Definition.ofMembers (members : Json.Members) : Except Mismatch Definition := do
  let (_, d) ← Json.ofMembers Definition.fields [] .blank members
  .ok { d with extra := members.filter fun m => !isKnown m.1 }

/-- A member that a definition does not know is kept. -/
def Definition.keep (key : String) (v : Json) (d : Definition) : Definition :=
  { d with extra := d.extra.insert key v }

/-- A definition out of JSON, by the types of its members alone. -/
def Definition.decoder : Decoder Definition where
  ofJson
    | .obj members => Definition.ofMembers members
    | v => .error (.kind v (.record "SurveyDefinition"))
  read := Json.readOpen "SurveyDefinition" Definition.fields Definition.keep .blank

/-- What the shape of one question shows. -/
def questionFault? (question : Json) : Option QuestionFault :=
  match question with
  | .obj members =>
      match Json.Members.lookup "type" members with
      | some (.str _) => none
      | _ => some .untyped
  | _ => some .notAnObject

/-- The first question whose shape is wrong, from the question at `position` on. -/
def firstFault? : Nat → List Json → Option Fault
  | _, [] => none
  | position, question :: r =>
      match questionFault? question with
      | some fault => some (.question position fault)
      | none => firstFault? (position + 1) r

/-- What the shape of a document shows, before any types are looked at. -/
def shapeFault? (members : Json.Members) : Option Fault :=
  match Json.Members.lookup "questions" members with
  | none => none
  | some (.arr questions) => firstFault? 1 questions
  | some _ => some (.document .questionsNotAList)

/-- A definition out of a JSON value. -/
def Definition.ofJson : Json → Except Fault Definition
  | .obj members =>
      match shapeFault? members with
      | some fault => .error fault
      | none =>
          match Definition.ofMembers members with
          | .ok d => .ok d
          | .error mismatch => .error (.document (.mismatch mismatch))
  | _ => .error (.document .notAnObject)

/-- A definition out of a text. -/
def Definition.ofText (raw : String) : Except Fault Definition :=
  match Json.read raw with
  | .ok v => Definition.ofJson v
  | .error e => .error (.document (.notJson e))

end VideoSurvey.Survey
