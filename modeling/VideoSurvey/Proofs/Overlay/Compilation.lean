import VideoSurvey.Overlay.Bundle
import VideoSurvey.Proofs.Results

/-!
# What a bundle was made from

A bundle comes from a survey that the definition resolves to. Its manifest has one step for each
question, made from that question alone and the two counts (`compile_manifest`), and its steps form
a chain: the wizard begins at the first, each leads to the next, and the last leads to the closing
message (`Manifest.IsChain`).

None of this depends on the templates: they shape the markup only.
-/

set_option autoImplicit false

namespace VideoSurvey

/-! ## Resolved questions -/

namespace Survey

open Results

/-- A resolved question keeps its place. -/
theorem Question.resolve_position {position : Nat} {q : Question} {rq : ResolvedQuestion}
    (h : q.resolve position = .ok rq) : rq.position = position := by
  unfold Question.resolve at h
  split at h
  · cases h
  · cases h
    rfl

/-- Questions are resolved one by one, each with its place. -/
theorem resolveQuestions_position {position : Nat} {questions : List Question}
    {resolved : List ResolvedQuestion} (h : resolveQuestions position questions = .ok resolved)
    {i : Nat} {rq : ResolvedQuestion} (hi : resolved[i]? = some rq) :
    rq.position = position + i := by
  induction questions generalizing position resolved i with
  | nil =>
      cases h
      cases hi
  | cons q questions ih =>
      obtain ⟨first, hq, h⟩ := bind_eq_ok.1 h
      obtain ⟨rest, hr, h⟩ := bind_eq_ok.1 h
      cases h
      cases i with
      | zero =>
          obtain rfl := Option.some.inj hi
          exact Question.resolve_position hq
      | succ i =>
          have := ih hr (i := i) hi
          omega

/-- The parts of a resolved survey. -/
theorem Definition.resolve_eq_ok {d : Definition} {survey : Resolved} :
    d.resolve = .ok survey ↔
      ∃ questions maxStars, resolveQuestions 1 d.questions = .ok questions ∧
        d.starScale.resolve = .ok maxStars ∧
        survey =
          { title := given d.title defaults.title
            questions
            maxStars
            video := d.video.resolve
            theme := d.styling.resolve
            thankYou := d.thankYou } := by
  constructor
  · intro h
    obtain ⟨questions, hq, h⟩ := bind_eq_ok.1 h
    obtain ⟨maxStars, hs, h⟩ := bind_eq_ok.1 h
    cases h
    exact ⟨questions, maxStars, hq, hs, rfl⟩
  · rintro ⟨questions, maxStars, hq, hs, rfl⟩
    exact bind_eq_ok.2 ⟨questions, hq, bind_eq_ok.2 ⟨maxStars, hs, rfl⟩⟩

/-- The questions of a resolved survey are counted from one. -/
theorem Definition.resolve_position {d : Definition} {survey : Resolved}
    (h : d.resolve = .ok survey) {i : Nat} {q : ResolvedQuestion}
    (hi : survey.questions[i]? = some q) : q.position = i + 1 := by
  obtain ⟨questions, maxStars, hq, -, rfl⟩ := resolve_eq_ok.1 h
  have := resolveQuestions_position hq hi
  omega

end Survey

namespace Overlay

open Results
open Survey (Definition Resolved ResolvedQuestion)

/-! ## Steps -/

/-- The steps of a survey, one for each question. -/
def stepsOf (survey : Resolved) : List Step :=
  survey.questions.map fun q => Step.ofQuestion q survey.questions.length survey.maxStars

@[simp] theorem stepsOf_length (survey : Resolved) :
    (stepsOf survey).length = survey.questions.length := List.length_map _

theorem stepsOf_getElem? (survey : Resolved) (i : Nat) :
    (stepsOf survey)[i]? = survey.questions[i]?.map fun q =>
      Step.ofQuestion q survey.questions.length survey.maxStars := List.getElem?_map

/-- Whatever the templates make of a card's markup, its step is the step of its question. -/
theorem Card.of_step {render : Renderer} {total maxStars : Nat} {q : ResolvedQuestion}
    {card : Card} (h : Card.of render total maxStars q = .ok card) :
    card.step = Step.ofQuestion q total maxStars := by
  obtain ⟨markup, -, h⟩ := bind_eq_ok.1 h
  cases h
  rfl

/-- The steps of several cards. -/
theorem Card.of_steps {render : Renderer} {total maxStars : Nat}
    {questions : List ResolvedQuestion} {found : List Card}
    (h : List.Forall₂ (fun q card => Card.of render total maxStars q = .ok card)
      questions found) :
    found.map Card.step = questions.map fun q => Step.ofQuestion q total maxStars := by
  induction h with
  | nil => rfl
  | cons hcard _ ih => rw [List.map_cons, List.map_cons, ih, Card.of_step hcard]

/-- The steps of all cards. -/
theorem cards_steps {render : Renderer} {survey : Resolved} {found : List Card}
    (h : cards render survey.questions survey.maxStars = .ok found) :
    found.map Card.step = stepsOf survey :=
  Card.of_steps (mapM_eq_ok.1 h)

/-- The manifest of an assembled bundle. -/
theorem assemble_manifest {render : Renderer} {survey : Resolved} {settings : Settings}
    {bundle : Bundle} (h : assemble render survey settings = .ok bundle) :
    bundle.manifest = manifestOf survey settings (stepsOf survey) := by
  obtain ⟨found, hc, h⟩ := bind_eq_ok.1 h
  obtain ⟨thankYou, -, h⟩ := bind_eq_ok.1 h
  obtain ⟨stylesheet, -, h⟩ := bind_eq_ok.1 h
  obtain ⟨html, -, h⟩ := bind_eq_ok.1 h
  cases h
  rw [← cards_steps hc]

/-- Compiling gives a bundle when the definition resolves and the survey can be assembled. -/
theorem compile_eq_ok {render : Renderer} {d : Definition} {settings : Settings}
    {bundle : Bundle} :
    compile render d settings = .ok bundle ↔
      ∃ survey, d.resolve = .ok survey ∧ assemble render survey settings = .ok bundle := by
  unfold compile
  rw [bind_eq_ok]
  simp only [mapError_eq_ok]

/-- **A bundle comes from a resolved survey, and its manifest from that survey alone.** -/
theorem compile_manifest {render : Renderer} {d : Definition} {settings : Settings}
    {bundle : Bundle} (h : compile render d settings = .ok bundle) :
    ∃ survey, d.resolve = .ok survey ∧
      bundle.manifest = manifestOf survey settings (stepsOf survey) := by
  obtain ⟨survey, hr, ha⟩ := compile_eq_ok.1 h
  exact ⟨survey, hr, assemble_manifest ha⟩

/-! ## The chain -/

/-- The steps lead one to the next, from the first to the closing message. A step that counts stars
waits for one. -/
structure Manifest.IsChain (m : Manifest) : Prop where
  initial : m.initial = .initial m.steps.length
  next : ∀ (i : Nat) (s : Step), m.steps[i]? = some s → s.next = .after i m.steps.length
  guard : ∀ s ∈ m.steps, s.capture = .starCount → s.guard = .starSelected

theorem Step.ofQuestion_next (q : ResolvedQuestion) (total maxStars : Nat) :
    (Step.ofQuestion q total maxStars).next = .after (q.position - 1) total := by
  unfold Step.ofQuestion
  cases q.answer with
  | starRating => rfl
  | text placeholder => rfl

theorem Step.ofQuestion_guard (q : ResolvedQuestion) (total maxStars : Nat)
    (h : (Step.ofQuestion q total maxStars).capture = .starCount) :
    (Step.ofQuestion q total maxStars).guard = .starSelected := by
  unfold Step.ofQuestion at h ⊢
  cases ha : q.answer with
  | starRating => rfl
  | text placeholder =>
      rw [ha] at h
      cases h

/-- The step of a star question counts stars on the survey's scale. -/
theorem Step.ofQuestion_starRating {q : ResolvedQuestion} (h : q.answer = .starRating)
    (total maxStars : Nat) :
    (Step.ofQuestion q total maxStars).capture = .starCount ∧
      (Step.ofQuestion q total maxStars).maxStars = maxStars := by
  unfold Step.ofQuestion
  rw [h]
  exact ⟨rfl, rfl⟩

/-- **The steps of a definition's survey form a chain.** -/
theorem manifestOf_isChain {d : Definition} {survey : Resolved} (h : d.resolve = .ok survey)
    (settings : Settings) : (manifestOf survey settings (stepsOf survey)).IsChain := by
  refine ⟨rfl, ?_, ?_⟩
  · intro i s hi
    have hs : (stepsOf survey)[i]? = some s := hi
    rw [stepsOf_getElem?] at hs
    obtain ⟨q, hq, rfl⟩ := Option.map_eq_some_iff.1 hs
    -- a step leads on from the place of its question, which is its own place in the list
    rw [Step.ofQuestion_next, Definition.resolve_position h hq]
    show Transition.after i survey.questions.length = .after i (stepsOf survey).length
    rw [stepsOf_length]
  · intro s hs hc
    obtain ⟨q, -, rfl⟩ := List.mem_map.1 (show s ∈ stepsOf survey from hs)
    exact Step.ofQuestion_guard q _ _ hc

end Overlay

end VideoSurvey
