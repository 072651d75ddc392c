import VideoSurvey.Proofs.Json.Tokens
import VideoSurvey.Proofs.Overlay.BuiltIn
import VideoSurvey.Proofs.Template.Stretches

/-!
# The places of the built-in pages

For each page: which values it emits, and which character stands behind each of them. A value of a
card or of the document's attributes is escaped, and a stylesheet's are not.
-/

set_option autoImplicit false

namespace VideoSurvey.Overlay.Pages

open Survey (Resolved ResolvedQuestion ThankYou Theme)
open Template
open Text.Entity (escape not_mem_escape)

/-! ## Cards -/

theorem starStep_places (q : ResolvedQuestion) (step : Step) (total : Nat) :
    places (stretches true (stepScope q step total) starStep) =
      [(escape step.stepId.toList, ['"']),
        (Json.natDigits q.position, ['/']),
        (Json.natDigits total, ['<']),
        (escape q.text.toList, ['<']),
        (Json.natDigits (starNumbers step.maxStars).length, ['"'])] ++
      ((starNumbers step.maxStars).flatMap fun star =>
        [(emitted true [] star, ['"']), (emitted true [] star, ['"'])]) ++
      [(escape step.submitId.toList, ['"']),
        (escape q.trackId.toList, ['"']),
        (escape q.trackName.toList, ['"']),
        (escape step.next.targetId.toList, ['"']),
        (escape (submitLabel q.position total).toList, ['\n'])] := by
  simp (disch := exact rfl) only [starStep, place, count, stretches_text, stretches_emit, places,
    opening_lines, places_choose]
  -- each star ends with a text, so the stars are told one by one
  rw [stretches, nodeStretches, places_flatMap _ _ (s := lines ["\">",
    "          <i class=\"far fa-star star-icons feedback-clickable\"></i>", "        </div>"])]
  · simp (disch := exact rfl) only [stretches_text, stretches_emit, stretches_nil, places,
      opening_lines, opening_lines_empty]
    rfl
  · rintro ⟨⟩
  · intro star _
    exact ⟨_, stretches_append true _ [_, _, _, _] [_]⟩

theorem textStep_places (q : ResolvedQuestion) (step : Step) (total : Nat) :
    places (stretches true (stepScope q step total) textStep) =
      [(escape step.stepId.toList, ['"']),
        (Json.natDigits q.position, ['/']),
        (Json.natDigits total, ['<']),
        (escape q.text.toList, ['\n']),
        (escape (placeholderOf q.answer).toList, ['"']),
        (escape step.submitId.toList, ['"']),
        (escape q.trackId.toList, ['"']),
        (escape q.trackName.toList, ['"']),
        (escape step.next.targetId.toList, ['"']),
        (escape (submitLabel q.position total).toList, ['\n'])] := by
  simp (disch := exact rfl) only [textStep, place, stretches_text, stretches_emit, stretches_nil,
    places, opening_lines, opening_lines_empty, places_choose]
  rfl

theorem thankYou_places (t : ThankYou) (isInitial : Bool) :
    places (stretches true (thankYouScope t isInitial) thankYou) =
      [(escape thankYouStepId.toList, ['"']),
        (escape t.message.toList, ['<']),
        (escape t.subtext.toList, ['<'])] := by
  simp (disch := exact rfl) only [thankYou, place, stretches_text, stretches_emit, stretches_nil,
    places, opening_lines, places_choose]
  rfl

/-! ## The stylesheet -/

theorem genericFallback_eq : Text.Font.genericFallback =
    [',', ' ', 's', 'a', 'n', 's', '-', 's', 'e', 'r', 'i', 'f'] :=
  Text.toList_of_eq_ofList rfl

/-- The tokens in the order in which the stylesheet takes them. -/
def tokenPlaces (theme : Theme) (zIndex : String) : List String :=
  let font := Text.Font.stacked theme.fontFamily
  [font, font, font, theme.cardBackground, theme.borderColor, font, theme.primaryColor,
    theme.borderColor, theme.primaryColor, theme.primaryColor, zIndex, theme.cardBackground,
    theme.borderColor, font, theme.textColor, theme.textColor, theme.primaryColor,
    theme.borderColor, theme.textColor, theme.textColor, theme.primaryColor, theme.textColor]

theorem stylesheet_places (theme : Theme) (zIndex : String) :
    places (stretches false (stylesheetScope theme zIndex) stylesheet) =
      (tokenPlaces theme zIndex).map fun token => (token.toList, [';']) := by
  simp (disch := exact rfl) only [stylesheet, place, stretches_text, stretches_emit, stretches_nil,
    places, opening_lines]
  rfl

/-! ## The document -/

/-- The values of the document in front of the cards. -/
def headPlaces (survey : Resolved) (settings : Settings) (manifest : Manifest)
    (activation : Activation) (stylesheet : List Char) : List (List Char × List Char) :=
  [(escape survey.title.toList, ['<']),
    (escape settings.iconStylesheetUrl.toList, ['"']),
    (stylesheet, ['\n']),
    (escape survey.video.host.toList, ['"']),
    (escape survey.video.videoId.toList, ['"']),
    (escape (Json.obj survey.video.params).compactText.toList, ['"']),
    (escape activation.toJson.compactText.toList, ['"']),
    (escape manifest.toJson.compactText.toList, ['"'])]

/-- The cards are emitted one by one, each between line breaks. -/
theorem markup_places (scope : Scope) (r : List Node) :
    places (stretches true scope
        (.each "markup" ["step_markup"] [.text (lines ["", ""]), verbatim ["markup"]] ::
          .text (lines ["", ""]) :: r)) =
      (((items? ((lookup? scope ["step_markup"]).getD .null)).getD []).map fun v =>
        (emitted true [.safe] v, ['\n'])) ++ places (stretches true scope r) :=
  places_flatMap_value _ (emitted true [.safe]) '\n' [] _

/-- A text that is emitted as it stands. -/
theorem emitted_safe (escapes : Bool) (s : List Char) :
    emitted escapes [.safe] (.str (String.ofList s)) = s := by
  cases escapes with
  | true => exact String.toList_ofList
  | false => exact String.toList_ofList

theorem document_places (survey : Resolved) (settings : Settings) (manifest : Manifest)
    (activation : Activation) (cards : List Card) (thankYou stylesheet : List Char) :
    places (stretches true
        (documentScope survey settings manifest activation cards thankYou stylesheet) document) =
      headPlaces survey settings manifest activation stylesheet ++
      (cards.map fun card => (card.markup, ['\n'])) ++
      [(thankYou, ['\n']), (script, ['\n']),
        (escape settings.playerScriptUrl.toList, ['"'])] := by
  generalize hscope :
    documentScope survey settings manifest activation cards thankYou stylesheet = scope
  have hcards : ((items? ((lookup? scope ["step_markup"]).getD .null)).getD []).map (fun v =>
      (emitted true [.safe] v, ['\n'])) = cards.map fun card => (card.markup, ['\n']) := by
    have hitems : (items? ((lookup? scope ["step_markup"]).getD .null)).getD [] =
        cards.map fun card => .str (String.ofList card.markup) := hscope ▸ rfl
    rw [hitems, List.map_map]
    simp only [Function.comp_def, emitted_safe]
  have hmarkup := markup_places scope
  unfold verbatim at hmarkup
  have hstylesheet : valueOf scope (.path ["stylesheet"]) = .str (String.ofList stylesheet) :=
    hscope ▸ rfl
  have hthankYou : valueOf scope (.path ["thank_you_markup"]) = .str (String.ofList thankYou) :=
    hscope ▸ rfl
  have hscript : valueOf scope (.path ["runtime_script"]) = .str (String.ofList script) :=
    hscope ▸ rfl
  simp (disch := exact rfl) only [document, place, verbatim, stretches_text, stretches_emit,
    stretches_nil, places, opening_lines, opening_lines_empty, hmarkup, hcards, throughFilters,
    hstylesheet, hthankYou, hscript, emitted_safe]
  subst hscope
  rfl

/-! ## Harmless values -/

/-- An escaped text or a number. -/
def Harmless (s : List Char) : Prop := (∃ t, s = escape t) ∨ ∀ c ∈ s, c.isDigit = true

theorem harmless_escape (t : List Char) : Harmless (escape t) := .inl ⟨t, rfl⟩

theorem harmless_natDigits (n : Nat) : Harmless (Json.natDigits n) :=
  .inr fun _ hc => Json.isDigit_natDigits hc

theorem harmless_star {star : Json} {maxStars : Nat} (h : star ∈ starNumbers maxStars) :
    Harmless (emitted true [] star) := by
  obtain ⟨i, -, rfl⟩ := List.mem_map.1 h
  exact harmless_natDigits (i + 1)

theorem Harmless.no_markup {s : List Char} (h : Harmless s) : '<' ∉ s ∧ '"' ∉ s := by
  rcases h with ⟨t, rfl⟩ | hdigits
  · exact ⟨(not_mem_escape t).2.1, (not_mem_escape t).1⟩
  · constructor
    · intro hc
      exact absurd (hdigits _ hc) (by decide)
    · intro hc
      exact absurd (hdigits _ hc) (by decide)

theorem starStep_harmless (q : ResolvedQuestion) (step : Step) (total : Nat) :
    ∀ v ∈ places (stretches true (stepScope q step total) starStep), Harmless v.1 := by
  rw [starStep_places]
  simp only [List.forall_mem_append, List.forall_mem_cons, List.mem_flatMap]
  refine ⟨⟨by simp [harmless_escape, harmless_natDigits], ?_⟩,
    by simp [harmless_escape]⟩
  rintro v ⟨star, hstar, hv⟩
  -- the number of a star is emitted twice
  simp only [List.mem_cons, List.not_mem_nil, or_false, or_self] at hv
  rw [hv]
  exact harmless_star hstar

theorem textStep_harmless (q : ResolvedQuestion) (step : Step) (total : Nat) :
    ∀ v ∈ places (stretches true (stepScope q step total) textStep), Harmless v.1 := by
  rw [textStep_places]
  simp [harmless_escape, harmless_natDigits]

theorem card_harmless (q : ResolvedQuestion) (step : Step) (total : Nat) :
    ∀ v ∈ places (stretches true (stepScope q step total) (page (partOf q.answer))),
      Harmless v.1 := by
  cases q.answer with
  | starRating => exact starStep_harmless q step total
  | text placeholder => exact textStep_harmless q step total

theorem thankYou_harmless (t : ThankYou) (isInitial : Bool) :
    ∀ v ∈ places (stretches true (thankYouScope t isInitial) thankYou), Harmless v.1 := by
  rw [thankYou_places]
  simp [harmless_escape]

end VideoSurvey.Overlay.Pages
