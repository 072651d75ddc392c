import VideoSurvey.Overlay.Pages

/-!
# The stylesheet of the overlay

The stylesheet as a template. Its places are the tokens of a theme, the font stack and the height
of the overlay in the stack of layers; all of them are emitted as they stand.
-/

set_option autoImplicit false

namespace VideoSurvey.Overlay.Pages

open Template (Node lines)

/-- The stylesheet. -/
def stylesheet : List Node :=
  [.text (lines [
     ":root \x7b",
     "  --pw: 1px;",
     "\x7d",
     "",
     ".survey-sm \x7b font-size: calc(2.2 * var(--pw)); font-family: "]),
   place ["font_stack"],
   .text (lines ["; \x7d", ".survey-md \x7b font-size: calc(3.2 * var(--pw)); font-family: "]),
   place ["font_stack"],
   .text (lines ["; \x7d", ".survey-lg \x7b font-size: calc(4.2 * var(--pw)); font-family: "]),
   place ["font_stack"],
   .text (lines [
     "; \x7d",
     "",
     ".survey-card \x7b",
     "  pointer-events: visible;",
     "  position: absolute;",
     "  bottom: calc(15 * var(--pw));",
     "  left: 50%;",
     "  transform: translate(-50%);",
     "  background-color: "]),
   place ["theme", "card_background"],
   .text (lines [
     ";",
     "  backdrop-filter: blur(calc(1.8 * var(--pw)));",
     "  border-radius: calc(1.5 * var(--pw));",
     "  border: 2px solid "]),
   place ["theme", "border_color"],
   .text (lines [
     ";",
     "  height: calc(32 * var(--pw));",
     "  width: calc(65 * var(--pw));",
     "  display: flex;",
     "  flex-direction: column;",
     "  padding: calc(2 * var(--pw));",
     "  row-gap: calc(1 * var(--pw));",
     "  font-family: "]),
   place ["font_stack"],
   .text (lines [
     ";",
     "\x7d",
     "",
     ".submit-btn \x7b",
     "  display: flex;",
     "  align-items: center;",
     "  justify-content: center;",
     "  align-self: center;",
     "  width: calc(30 * var(--pw));",
     "  height: calc(5 * var(--pw));",
     "  font-size: calc(2 * var(--pw));",
     "  background-color: "]),
   place ["theme", "primary_color"],
   .text (lines [";", "  opacity: 0.4;", "  color: "]),
   place ["theme", "border_color"],
   .text (lines [
     ";",
     "  border: none;",
     "  border-radius: calc(4 * var(--pw));",
     "  font-weight: 700;",
     "  cursor: not-allowed;",
     "  text-align: center;",
     "\x7d",
     "",
     ".feedback-submit-clickable \x7b",
     "  background-color: "]),
   place ["theme", "primary_color"],
   .text (lines [
     ";",
     "  opacity: 1;",
     "  cursor: pointer;",
     "\x7d",
     "",
     ".submit-btn.disabled,",
     ".submit-primary-btn.disabled \x7b",
     "  pointer-events: none;",
     "\x7d",
     "",
     ".feedback-star-icon \x7b",
     "  cursor: pointer;",
     "  font-size: calc(3.5 * var(--pw)) !important;",
     "  padding: calc(1.6 * var(--pw)) !important;",
     "\x7d",
     "",
     ".star-icons \x7b",
     "  color: "]),
   place ["theme", "primary_color"],
   .text (lines [
     ";",
     "\x7d",
     "",
     ".feedback-icons \x7b",
     "  display: flex;",
     "  justify-content: center;",
     "\x7d",
     "",
     ".survey-feedback-container \x7b",
     "  width: 100%;",
     "  height: 100%;",
     "  display: flex;",
     "  justify-content: center;",
     "  align-items: center;",
     "  z-index: "]),
   place ["z_index"],
   .text (lines [
     ";",
     "  pointer-events: visible;",
     "\x7d",
     "",
     ".survey-feedback-step \x7b",
     "  display: none;",
     "\x7d",
     "",
     ".survey-feedback-step.active \x7b",
     "  display: block;",
     "\x7d",
     "",
     ".custom-text-area \x7b",
     "  display: flex;",
     "  flex-direction: column;",
     "  height: calc(32 * var(--pw));",
     "  width: calc(70 * var(--pw));",
     "  background-color: "]),
   place ["theme", "card_background"],
   .text (lines [
     ";",
     "  border-radius: calc(1.5 * var(--pw));",
     "  padding: calc(2 * var(--pw));",
     "  border: 2px solid "]),
   place ["theme", "border_color"],
   .text (lines [";", "  row-gap: calc(1 * var(--pw));", "  font-family: "]),
   place ["font_stack"],
   .text (lines [
     ";",
     "\x7d",
     "",
     ".custom-text-area textarea \x7b",
     "  padding: calc(1.5 * var(--pw));",
     "  width: 90%;",
     "  height: calc(12 * var(--pw));",
     "  font-size: calc(3.5 * var(--pw));",
     "  border-radius: calc(1.2 * var(--pw));",
     "  border: 1px solid "]),
   place ["theme", "text_color"],
   .text (lines [";", "  resize: none;", "\x7d", "", ".header-survey \x7b", "  color: "]),
   place ["theme", "text_color"],
   .text (lines [
     ";",
     "\x7d",
     "",
     ".submit-primary-btn \x7b",
     "  display: flex;",
     "  align-items: center;",
     "  justify-content: center;",
     "  width: calc(30 * var(--pw));",
     "  height: calc(5 * var(--pw));",
     "  font-size: calc(2 * var(--pw));",
     "  background-color: "]),
   place ["theme", "primary_color"],
   .text (lines [";", "  color: "]),
   place ["theme", "border_color"],
   .text (lines [
     ";",
     "  border: none;",
     "  border-radius: calc(4 * var(--pw));",
     "  font-weight: 700;",
     "  cursor: pointer;",
     "\x7d",
     "",
     ".question-number \x7b",
     "  display: flex;",
     "  justify-content: flex-end;",
     "  font-size: calc(1.8 * var(--pw));",
     "  color: "]),
   place ["theme", "text_color"],
   .text (lines [
     ";",
     "\x7d",
     "",
     ".survey-card-header \x7b",
     "  text-align: center;",
     "  color: "]),
   place ["theme", "text_color"],
   .text (lines [
     ";",
     "\x7d",
     "",
     ".subtitle \x7b",
     "  font-weight: 500;",
     "\x7d",
     "",
     ".thank-you-card \x7b",
     "  text-align: center;",
     "  justify-content: center;",
     "\x7d",
     "",
     ".thank-you-message \x7b",
     "  color: "]),
   place ["theme", "primary_color"],
   .text (lines [
     ";",
     "  font-weight: 600;",
     "\x7d",
     "",
     ".thank-you-body \x7b",
     "  margin: calc(2 * var(--pw)) 0;",
     "\x7d",
     "",
     ".thank-you-subtext \x7b",
     "  color: "]),
   place ["theme", "text_color"],
   .text (lines [";", "\x7d", ""])]

/-- The templates at hand when no others are given. -/
def templates : TemplateSet :=
  [⟨"overlay/document.html.tera", document⟩, ⟨"overlay/step_star.html.tera", starStep⟩,
   ⟨"overlay/step_text.html.tera", textStep⟩, ⟨"overlay/thank_you.html.tera", thankYou⟩,
   ⟨"overlay/stylesheet.css.tera", stylesheet⟩]

end VideoSurvey.Overlay.Pages
