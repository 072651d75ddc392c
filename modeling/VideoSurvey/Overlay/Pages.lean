import VideoSurvey.Template.Set

/-!
# The pages of the overlay

The templates that every overlay is rendered with unless others are given: a card for a question
with stars, a card for a question with text, a card that says thank you, and the document around
them.
-/

set_option autoImplicit false

namespace VideoSurvey.Overlay.Pages

open Template (Node Path lines)

/-- A place that emits a value. -/
def place (path : Path) : Node := .emit (.path path) []

/-- A place that emits a text as it stands. -/
def verbatim (path : Path) : Node := .emit (.path path) [.safe]

/-- A place that emits the length of a list. -/
def count (path : Path) : Node := .emit (.path path) [.length]

/-- The card of a question that is answered with stars. -/
def starStep : List Node :=
  [.text (lines ["<div id=\""]),
   place ["step", "step_id"],
   .text (lines ["\" class=\"survey-feedback-step"]),
   .choose ["step", "active"] [.text (lines [" active"])] [],
   .text (lines [
     "\" data-step-kind=\"star-rating\">",
     "  <div class=\"survey-card\">",
     "    <span class=\"question-number\">Question: "]),
   place ["step", "position"],
   .text (lines ["/"]),
   place ["step", "total"],
   .text (lines [
     "</span>",
     "    <div class=\"survey-card-header\">",
     "      <span class=\"subtitle survey-sm\">"]),
   place ["step", "text"],
   .text (lines [
     "</span>",
     "    </div>",
     "    <div class=\"survey-star-rating-container\">",
     "      <div class=\"feedback-icons\" data-max-stars=\""]),
   count ["step", "stars"],
   .text (lines ["\">"]),
   .each "star" ["step", "stars"] [
     .text (lines ["", "        <div class=\"feedback-star-icon starBtn"]),
     place ["star"],
     .text (lines ["\" data-star=\""]),
     place ["star"],
     .text (lines [
       "\">",
       "          <i class=\"far fa-star star-icons feedback-clickable\"></i>",
       "        </div>"])],
   .text (lines ["", "      </div>", "    </div>", "    <div", "      id=\""]),
   place ["step", "submit_id"],
   .text (lines [
     "\"",
     "      class=\"submit-btn survey-lg kpw-action-button kpw-track\"",
     "      data-track-id=\""]),
   place ["step", "track_id"],
   .text (lines ["\"", "      data-track-name=\""]),
   place ["step", "track_name"],
   .text (lines [
     "\"",
     "      data-track-group=\"feedback\"",
     "      data-track-widgetname=\"feedback\"",
     "      data-next-step=\""]),
   place ["step", "next_step"],
   .text (lines ["\"", "    >", "      "]),
   place ["step", "label"],
   .text (lines ["", "    </div>", "  </div>", "</div>", ""])]

/-- The card of a question that is answered with text. -/
def textStep : List Node :=
  [.text (lines ["<div id=\""]),
   place ["step", "step_id"],
   .text (lines ["\" class=\"survey-feedback-step"]),
   .choose ["step", "active"] [.text (lines [" active"])] [],
   .text (lines [
     "\" data-step-kind=\"text\">",
     "  <div class=\"template-3-container\">",
     "    <div class=\"custom-text-area\">",
     "      <span class=\"question-number\">Question: "]),
   place ["step", "position"],
   .text (lines ["/"]),
   place ["step", "total"],
   .text (lines ["</span>", "      <div class=\"header-survey\">", "        "]),
   place ["step", "text"],
   .text (lines [
     "",
     "      </div>",
     "      <div class=\"content\">",
     "        <textarea placeholder=\""]),
   place ["step", "placeholder"],
   .text (lines [
     "\"></textarea>",
     "      </div>",
     "      <div class=\"footer\">",
     "        <div",
     "          id=\""]),
   place ["step", "submit_id"],
   .text (lines [
     "\"",
     "          class=\"submit-primary-btn kpw-action-button\"",
     "          data-track-id=\""]),
   place ["step", "track_id"],
   .text (lines ["\"", "          data-track-name=\""]),
   place ["step", "track_name"],
   .text (lines [
     "\"",
     "          data-track-group=\"feedback\"",
     "          data-track-widgetname=\"feedback\"",
     "          data-next-step=\""]),
   place ["step", "next_step"],
   .text (lines ["\"", "        >", "          "]),
   place ["step", "label"],
   .text (lines ["", "        </div>", "      </div>", "    </div>", "  </div>", "</div>", ""])]

/-- The card that says thank you. -/
def thankYou : List Node :=
  [.text (lines ["<div id=\""]),
   place ["thank_you", "step_id"],
   .text (lines ["\" class=\"survey-feedback-step thank-you-step"]),
   .choose ["thank_you", "active"] [.text (lines [" active"])] [],
   .text (lines [
     "\" data-step-kind=\"thank-you\">",
     "  <div class=\"survey-card thank-you-card\">",
     "    <div class=\"survey-card-header\">",
     "      <span class=\"subtitle survey-md thank-you-message\">"]),
   place ["thank_you", "message"],
   .text (lines [
     "</span>",
     "    </div>",
     "    <div class=\"thank-you-body\">",
     "      <span class=\"survey-sm thank-you-subtext\">"]),
   place ["thank_you", "subtext"],
   .text (lines ["</span>", "    </div>", "  </div>", "</div>", ""])]

/-- The document. -/
def document : List Node :=
  [.text (lines [
     "<!DOCTYPE html>",
     "<html lang=\"en\">",
     "<head>",
     "  <meta charset=\"UTF-8\">",
     "  <meta name=\"viewport\" content=\"width=device-width, initial-scale=1.0\">",
     "  <title>"]),
   place ["title"],
   .text (lines ["</title>", "  <link rel=\"stylesheet\" href=\""]),
   place ["icon_stylesheet_url"],
   .text (lines ["\">", "  <style>", ""]),
   verbatim ["stylesheet"],
   .text (lines [
     "",
     "  </style>",
     "</head>",
     "<body>",
     "  <div",
     "    id=\"survey-activation-root\"",
     "    data-video-host=\""]),
   place ["video", "host"],
   .text (lines ["\"", "    data-kvideo-id=\""]),
   place ["video", "video_id"],
   .text (lines ["\"", "    style=\"height: 100%; width: 100%\"", "    data-video-params=\""]),
   place ["video_params_json"],
   .text (lines ["\"", "    data-widgets-config=\""]),
   place ["widget_config_json"],
   .text (lines [
     "\"",
     "  ></div>",
     "",
     "  <div id=\"survey-feedback-container\" style=\"display: none\" data-survey-runtime=\""]),
   place ["manifest_json"],
   .text (lines ["\">", "    <div class=\"survey-feedback-container\">"]),
   .each "markup" ["step_markup"] [
     .text (lines ["", ""]),
     verbatim ["markup"]],
   .text (lines ["", ""]),
   verbatim ["thank_you_markup"],
   .text (lines ["", "    </div>", "  </div>", "", "  <script>", ""]),
   verbatim ["runtime_script"],
   .text (lines [
     "",
     "  </script>",
     "",
     "  <script",
     "    type=\"text/javascript\"",
     "    src=\""]),
   place ["player_script_url"],
   .text (lines ["\"", "  ></script>", "</body>", "</html>", ""])]

end VideoSurvey.Overlay.Pages
