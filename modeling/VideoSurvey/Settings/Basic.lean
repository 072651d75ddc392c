import VideoSurvey.Json.Decoder

/-!
# Generator settings

What an operator may set for all overlays: the delay before the video goes on, the name that the
player calls the overlay by, the scripts and stylesheets that the document loads, the font styles,
the layer, and a directory with templates. Each setting that is left out has its default.
-/

set_option autoImplicit false

namespace VideoSurvey

open Json (Decoder RecordField)

/-- Settings for all overlays. -/
structure Settings where
  /-- Time between the closing message and the return to the video. -/
  transitionDelayMs : Nat
  callbackName : String
  playerScriptUrl : String
  iconStylesheetUrl : String
  fontStyles : List String
  zIndex : String
  templateDir : Option String
deriving DecidableEq, Repr

namespace Settings

/-- The default settings. -/
def standard : Settings where
  transitionDelayMs := 300
  callbackName := "survey-feedback-callback"
  playerScriptUrl := "https://assets.kpoint.com/orca/media/embed/videofront-vega.js"
  iconStylesheetUrl :=
    "https://cdnjs.cloudflare.com/ajax/libs/font-awesome/6.0.0/css/all.min.css"
  fontStyles := ["300", "400", "500", "700"]
  zIndex := "1000"
  templateDir := none

/-- A text or `null`. -/
def optionalText : Option String → Json
  | some s => .str s
  | none => .null

/-- Settings as JSON. -/
def toJson (s : Settings) : Json :=
  .obj [("transitionDelayMs", Json.ofNat s.transitionDelayMs),
    ("callbackName", .str s.callbackName),
    ("playerScriptUrl", .str s.playerScriptUrl),
    ("iconStylesheetUrl", .str s.iconStylesheetUrl),
    ("fontStyles", .arr (s.fontStyles.map .str)),
    ("zIndex", .str s.zIndex),
    ("templateDir", optionalText s.templateDir)]

/-- Fields of the settings. -/
def fields : List (RecordField Settings) :=
  [.defaulted "transitionDelayMs" Json.unsigned64 fun a s => { s with transitionDelayMs := a },
   .defaulted "callbackName" Json.text fun a s => { s with callbackName := a },
   .defaulted "playerScriptUrl" Json.text fun a s => { s with playerScriptUrl := a },
   .defaulted "iconStylesheetUrl" Json.text fun a s => { s with iconStylesheetUrl := a },
   .defaulted "fontStyles" (Json.list Json.text) fun a s => { s with fontStyles := a },
   .defaulted "zIndex" Json.text fun a s => { s with zIndex := a },
   .defaulted "templateDir" (Json.optional Json.text) fun a s => { s with templateDir := a }]

/-- Settings out of JSON. -/
def decoder : Decoder Settings := Json.record "GeneratorSettings" fields standard

/-- Settings out of a text. -/
def ofText (text : String) : Except Json.ReadError Settings := decoder.ofText text

/-- Settings as text. -/
def text (s : Settings) : String := s.toJson.prettyText

end Settings

end VideoSurvey
