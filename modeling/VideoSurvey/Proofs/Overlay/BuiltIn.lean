import VideoSurvey.Proofs.Overlay.Compilation
import VideoSurvey.Proofs.Template.Filling

/-!
# The built-in pages never fail

Each of the built-in templates fits the values that it is rendered with, whatever the survey and
the settings say. So a definition is compiled with them exactly when it resolves
(`compile_templates`).
-/

set_option autoImplicit false

namespace VideoSurvey.Overlay.Pages

open Results
open Survey (Definition Resolved ResolvedQuestion ThankYou Theme)
open Template (Scope Path Fits NodeFits lookup? fill render_eq_fill)

/-! ## Each page fits -/

section Places

variable {scope : Scope} {path : Path}

@[simp] theorem place_fits : NodeFits scope (place path) ↔ (lookup? scope path).isSome := by
  unfold place
  rw [Template.nodeFits_emit, Option.isSome_iff_exists]
  constructor
  · rintro ⟨v, hv, -⟩
    exact ⟨v, hv⟩
  · rintro ⟨v, hv⟩
    exact ⟨v, hv, trivial⟩

@[simp] theorem verbatim_fits : NodeFits scope (verbatim path) ↔ (lookup? scope path).isSome := by
  unfold verbatim
  rw [Template.nodeFits_emit, Option.isSome_iff_exists]
  constructor
  · rintro ⟨v, hv, -⟩
    exact ⟨v, hv⟩
  · rintro ⟨v, hv⟩
    exact ⟨v, hv, trivial⟩

theorem count_fits {items : List Json} (h : lookup? scope path = some (.arr items)) :
    NodeFits scope (count path) :=
  Template.nodeFits_emit.2 ⟨.arr items, h, items.length, rfl, trivial⟩

end Places

theorem starStep_fits (q : ResolvedQuestion) (step : Step) (total : Nat) :
    Fits (stepScope q step total) starStep := by
  simp only [starStep, Template.fits_cons, Template.fits_nil, Template.nodeFits_text,
    Template.nodeFits_choose, place_fits, true_and, and_true]
  -- every place names a member that the scope holds, and the stars are the only repetition
  refine ⟨rfl, rfl, rfl, rfl, count_fits rfl, ⟨_, _, rfl, rfl, ?_⟩, rfl, rfl, rfl, rfl, rfl⟩
  intro star _
  simp only [Template.fits_cons, Template.fits_nil, Template.nodeFits_text, place_fits, true_and,
    and_true]
  exact ⟨rfl, rfl⟩

theorem textStep_fits (q : ResolvedQuestion) (step : Step) (total : Nat) :
    Fits (stepScope q step total) textStep := by
  simp only [textStep, Template.fits_cons, Template.fits_nil, Template.nodeFits_text,
    Template.nodeFits_choose, place_fits, true_and, and_true]
  exact ⟨rfl, rfl, rfl, rfl, rfl, rfl, rfl, rfl, rfl, rfl⟩

theorem thankYou_fits (t : ThankYou) (isInitial : Bool) :
    Fits (thankYouScope t isInitial) thankYou := by
  simp only [thankYou, Template.fits_cons, Template.fits_nil, Template.nodeFits_text,
    Template.nodeFits_choose, place_fits, true_and, and_true]
  exact ⟨rfl, rfl, rfl⟩

theorem stylesheet_fits (theme : Theme) (zIndex : String) :
    Fits (stylesheetScope theme zIndex) stylesheet := by
  simp only [stylesheet, Template.fits_cons, Template.fits_nil, Template.nodeFits_text, place_fits,
    true_and, and_true]
  repeat' apply And.intro
  all_goals rfl

theorem document_fits (survey : Resolved) (settings : Settings) (manifest : Manifest)
    (activation : Activation) (cards : List Card) (thankYou stylesheet : List Char) :
    Fits (documentScope survey settings manifest activation cards thankYou stylesheet)
      document := by
  simp only [document, Template.fits_cons, Template.fits_nil, Template.nodeFits_text, place_fits,
    verbatim_fits, true_and, and_true]
  refine ⟨rfl, rfl, rfl, rfl, rfl, rfl, rfl, rfl, ⟨_, _, rfl, rfl, ?_⟩, rfl, rfl, rfl⟩
  intro markup _
  simp only [Template.fits_cons, Template.fits_nil, Template.nodeFits_text, verbatim_fits,
    true_and, and_true]
  rfl

/-! ## Each part is rendered -/

/-- The page of a part. -/
def page : Part → List Template.Node
  | .document => document
  | .starStep => starStep
  | .textStep => textStep
  | .thankYou => thankYou
  | .stylesheet => stylesheet

/-- Every part but the stylesheet escapes what it emits. -/
def escapes : Part → Bool
  | .stylesheet => false
  | _ => true

theorem find_part (part : Part) :
    templates.find part.name = .ok ⟨"overlay/" ++ part.name, page part⟩ := by
  cases part with
  | document => rfl
  | starStep => rfl
  | textStep => rfl
  | thankYou => rfl
  | stylesheet => rfl

theorem escapesOutput_part (part : Part) :
    escapesOutput ("overlay/" ++ part.name) = escapes part := by
  cases part with
  | document => rfl
  | starStep => rfl
  | textStep => rfl
  | thankYou => rfl
  | stylesheet => rfl

/-- A part whose page fits is rendered with its filling. -/
theorem render_part (part : Part) {scope : Scope} (h : Fits scope (page part)) :
    templates.render part scope = .ok (fill (escapes part) scope (page part)) := by
  unfold TemplateSet.render TemplateSet.renderNamed
  rw [find_part]
  simp only [bind, Except.bind]
  rw [render_eq_fill _ _ _ h, escapesOutput_part]

/-- The card of a question. -/
def card (total maxStars : Nat) (q : ResolvedQuestion) : Card :=
  ⟨fill true (stepScope q (Step.ofQuestion q total maxStars) total) (page (partOf q.answer)),
    Step.ofQuestion q total maxStars⟩

theorem card_of (total maxStars : Nat) (q : ResolvedQuestion) :
    Card.of templates total maxStars q = .ok (card total maxStars q) := by
  have hfits : Fits (stepScope q (Step.ofQuestion q total maxStars) total)
      (page (partOf q.answer)) := by
    cases q.answer with
    | starRating => exact starStep_fits q _ total
    | text placeholder => exact textStep_fits q _ total
  have hescapes : escapes (partOf q.answer) = true := by
    cases q.answer with
    | starRating => rfl
    | text placeholder => rfl
  unfold Card.of card
  simp only [render_part _ hfits, hescapes, bind, Except.bind]

theorem cards_eq (questions : List ResolvedQuestion) (maxStars : Nat) :
    cards templates questions maxStars =
      .ok (questions.map (card questions.length maxStars)) := by
  unfold cards
  rw [mapM_eq_ok, List.forall₂_map_right_iff, List.forall₂_same]
  intro q _
  exact card_of _ _ q

/-- The document of a survey. -/
def documentText (survey : Resolved) (settings : Settings) : List Char :=
  let manifest := manifestOf survey settings (stepsOf survey)
  fill true
    (documentScope survey settings manifest (Activation.of survey settings)
      (survey.questions.map (card survey.questions.length survey.maxStars))
      (fill true (thankYouScope survey.thankYou (manifest.initial = .thankYou)) thankYou)
      (fill false (stylesheetScope survey.theme settings.zIndex) stylesheet))
    document

/-- The bundle that a survey is assembled to. -/
theorem assemble_eq (survey : Resolved) (settings : Settings) :
    assemble templates survey settings =
      .ok
        { html := String.ofList (documentText survey settings)
          manifest := manifestOf survey settings (stepsOf survey)
          activation := Activation.of survey settings
          sha256 := Digest.sha256Text (String.ofList (documentText survey settings)) } := by
  -- each part is rendered for whatever the parts before it gave
  have hclosing := fun isInitial => render_part .thankYou (thankYou_fits survey.thankYou isInitial)
  have hstyle := render_part .stylesheet (stylesheet_fits survey.theme settings.zIndex)
  have hdocument := fun manifest activation cards thankYou stylesheet => render_part .document
    (document_fits survey settings manifest activation cards thankYou stylesheet)
  have hsteps : (survey.questions.map (card survey.questions.length survey.maxStars)).map
      Card.step = stepsOf survey := List.map_map
  refine bind_eq_ok.2 ⟨_, cards_eq _ _, ?_⟩
  rw [hsteps]
  exact bind_eq_ok.2 ⟨_, hclosing _, bind_eq_ok.2 ⟨_, hstyle,
    bind_eq_ok.2 ⟨_, hdocument _ _ _ _ _, rfl⟩⟩⟩

/-- **Every survey is assembled with the built-in templates.** -/
theorem assemble_templates (survey : Resolved) (settings : Settings) :
    ∃ bundle, assemble templates survey settings = .ok bundle :=
  ⟨_, assemble_eq survey settings⟩

/-- What a definition is compiled to with the built-in templates. -/
theorem compile_templates_eq_ok {d : Definition} {settings : Settings} {bundle : Bundle} :
    compile templates d settings = .ok bundle ↔
      ∃ survey, d.resolve = .ok survey ∧
        bundle =
          { html := String.ofList (documentText survey settings)
            manifest := manifestOf survey settings (stepsOf survey)
            activation := Activation.of survey settings
            sha256 := Digest.sha256Text (String.ofList (documentText survey settings)) } := by
  rw [compile_eq_ok]
  simp only [assemble_eq, Except.ok.injEq, eq_comm]

/-- **A definition is compiled with the built-in templates exactly when it resolves.** -/
theorem compile_templates (d : Definition) (settings : Settings) :
    (∃ bundle, compile templates d settings = .ok bundle) ↔
      ∃ survey, d.resolve = .ok survey := by
  constructor
  · rintro ⟨bundle, h⟩
    obtain ⟨survey, hr, -⟩ := compile_eq_ok.1 h
    exact ⟨survey, hr⟩
  · rintro ⟨survey, hr⟩
    obtain ⟨bundle, ha⟩ := assemble_templates survey settings
    exact ⟨bundle, compile_eq_ok.2 ⟨survey, hr, ha⟩⟩

/-- The document that a definition is compiled to. -/
theorem compiled_html {d : Definition} {settings : Settings} {bundle : Bundle}
    (h : compile templates d settings = .ok bundle) :
    ∃ survey, d.resolve = .ok survey ∧ survey.theme = d.styling.resolve ∧
      bundle.html.toList = documentText survey settings := by
  obtain ⟨survey, hr, rfl⟩ := compile_templates_eq_ok.1 h
  obtain ⟨questions, maxStars, -, -, rfl⟩ := Definition.resolve_eq_ok.1 hr
  exact ⟨_, hr, rfl, String.toList_ofList⟩

end VideoSurvey.Overlay.Pages
