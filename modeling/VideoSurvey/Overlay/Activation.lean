import VideoSurvey.Settings.Basic
import VideoSurvey.Survey.Resolve
import VideoSurvey.Text.Font

/-!
# Activation

What the host's player has to know: when to lay the overlay over the video, which callback to
call, and which font to load beforehand.
-/

set_option autoImplicit false

namespace VideoSurvey.Overlay

open Json (Decoder RecordField)

/-- When and how the overlay is laid over the video. -/
structure MarkupEntry where
  startTime : Decimal.Number
  endTime : Decimal.Number
  template : String
  zIndex : String
  callback : String
  action : String
deriving DecidableEq, Repr

/-- A font to load. -/
structure FontEntry where
  name : String
  url : String
  styles : List String
deriving DecidableEq, Repr

/-- The configuration of the player. -/
structure Activation where
  markup : List MarkupEntry
  fonts : List FontEntry
deriving DecidableEq, Repr

/-- Selects the element that holds the overlay. -/
def overlaySelector : String := "#survey-feedback-container"

/-- The configuration for a survey. -/
def Activation.of (survey : Survey.Resolved) (settings : Settings) : Activation where
  markup :=
    [{ startTime := survey.video.startTime
       endTime := survey.video.endTime
       template := overlaySelector
       zIndex := settings.zIndex
       callback := settings.callbackName
       action := "pause" }]
  fonts :=
    [{ name := Text.Font.primary survey.theme.fontFamily
       url := ""
       styles := settings.fontStyles }]

/-! ## As JSON -/

/-- A list under the only key of an object. -/
def listObject (items : List Json) : Json := .obj [("list", .arr items)]

/-- An entry as JSON. -/
def MarkupEntry.toJson (e : MarkupEntry) : Json :=
  .obj [("start_time", .num e.startTime), ("end_time", .num e.endTime),
    ("template", .str e.template), ("z-index", .str e.zIndex), ("callback", .str e.callback),
    ("action", .str e.action)]

/-- A font as JSON. -/
def FontEntry.toJson (e : FontEntry) : Json :=
  .obj [("name", .str e.name), ("url", .str e.url),
    ("google", .obj [("styles", .arr (e.styles.map .str))])]

/-- The configuration as JSON. -/
def Activation.toJson (a : Activation) : Json :=
  .obj [("markup", listObject (a.markup.map MarkupEntry.toJson)),
    ("fontloader", listObject (a.fonts.map FontEntry.toJson))]

/-- An entry before any of its fields is known. -/
def MarkupEntry.blank : MarkupEntry := ⟨.integer 0, .integer 0, "", "", "", ""⟩

/-- Fields of an entry. -/
def MarkupEntry.fields : List (RecordField MarkupEntry) :=
  [.needed "start_time" Json.anyNumber fun a e => { e with startTime := a },
   .needed "end_time" Json.anyNumber fun a e => { e with endTime := a },
   .needed "template" Json.text fun a e => { e with template := a },
   .needed "z-index" Json.text fun a e => { e with zIndex := a },
   .needed "callback" Json.text fun a e => { e with callback := a },
   .needed "action" Json.text fun a e => { e with action := a }]

/-- An entry out of JSON. -/
def MarkupEntry.decoder : Decoder MarkupEntry := Json.record "MarkupEntry" fields .blank

/-- The styles of a font out of JSON. -/
def stylesDecoder : Decoder (List String) :=
  Json.record "GoogleFont" [.needed "styles" (Json.list Json.text) fun a _ => a] []

/-- A font before any of its fields is known. -/
def FontEntry.blank : FontEntry := ⟨"", "", []⟩

/-- Fields of a font. -/
def FontEntry.fields : List (RecordField FontEntry) :=
  [.needed "name" Json.text fun a e => { e with name := a },
   .needed "url" Json.text fun a e => { e with url := a },
   .needed "google" stylesDecoder fun a e => { e with styles := a }]

/-- A font out of JSON. -/
def FontEntry.decoder : Decoder FontEntry := Json.record "FontEntry" fields .blank

/-- A list under the only key of an object, out of JSON. -/
def listDecoder {α : Type} (d : Decoder α) : Decoder (List α) :=
  Json.record "EntryList" [.needed "list" (Json.list d) fun a _ => a] []

/-- Fields of the configuration. -/
def Activation.fields : List (RecordField Activation) :=
  [.needed "markup" (listDecoder MarkupEntry.decoder) fun a s => { s with markup := a },
   .needed "fontloader" (listDecoder FontEntry.decoder) fun a s => { s with fonts := a }]

/-- The configuration out of JSON. -/
def Activation.decoder : Decoder Activation := Json.record "WidgetConfig" fields ⟨[], []⟩

end VideoSurvey.Overlay
