import Mathlib.Data.List.Nodup
import VideoSurvey.Proofs.Overlay.BuiltIn

/-!
# The chain of steps

A transition carries two names for the step it leads to, the step's index and its id. A manifest is
a chain over some questions (`Manifest.Follows`) when following either name visits the steps once
each, in the order of the questions, and ends at the closing message; when the two names of every
transition belong to one step; when no two elements share an id; and when each step is made for the
kind of its question. Every compiled manifest is one (`compiled_manifest_follows`).
-/

set_option autoImplicit false

namespace VideoSurvey

/-! ## Questions and their resolutions -/

namespace Survey

open Results

/-- The questions are resolved one by one, each at its place. -/
theorem resolveQuestions_getElem? {position : Nat} {questions : List Question}
    {resolved : List ResolvedQuestion} (h : resolveQuestions position questions = .ok resolved)
    {i : Nat} {q : Question} (hi : questions[i]? = some q) :
    ∃ rq, resolved[i]? = some rq ∧ q.resolve (position + i) = .ok rq := by
  induction questions generalizing position resolved i with
  | nil => cases hi
  | cons first questions ih =>
      obtain ⟨rq, hq, h⟩ := bind_eq_ok.1 h
      obtain ⟨rest, hr, h⟩ := bind_eq_ok.1 h
      cases h
      cases i with
      | zero =>
          obtain rfl := Option.some.inj hi
          exact ⟨rq, rfl, hq⟩
      | succ i =>
          obtain ⟨found, hf, hres⟩ := ih hr (i := i) hi
          rw [Nat.add_right_comm] at hres
          exact ⟨found, hf, hres⟩

theorem resolveQuestions_length {position : Nat} {questions : List Question}
    {resolved : List ResolvedQuestion} (h : resolveQuestions position questions = .ok resolved) :
    resolved.length = questions.length := by
  induction questions generalizing position resolved with
  | nil =>
      cases h
      rfl
  | cons first questions ih =>
      obtain ⟨rq, -, h⟩ := bind_eq_ok.1 h
      obtain ⟨rest, hr, h⟩ := bind_eq_ok.1 h
      cases h
      rw [List.length_cons, List.length_cons, ih hr]

/-- A resolved question asks for what its kind says, and keeps its text. -/
theorem Question.resolve_eq_ok {position : Nat} {q : Question} {rq : ResolvedQuestion} :
    q.resolve position = .ok rq ↔
      ∃ answer, Answer.ofKind q.placeholder q.kind = .ok answer ∧
        rq =
          { position
            text := q.text
            trackId := given q.trackId (defaultTrackId position)
            trackName := given q.trackName (defaultTrackName q.kind position)
            answer } := by
  unfold Question.resolve
  cases Answer.ofKind q.placeholder q.kind with
  | error fault =>
      constructor
      · rintro ⟨⟩
      · rintro ⟨answer, ⟨⟩, -⟩
  | ok answer =>
      constructor
      · rintro ⟨⟩
        exact ⟨answer, rfl, rfl⟩
      · rintro ⟨_, ⟨⟩, rfl⟩
        rfl

/-- Only stars and texts are asked for. -/
theorem Answer.ofKind_eq_ok {placeholder : Option String} {kind : Kind} {answer : Answer} :
    Answer.ofKind placeholder kind = .ok answer ↔
      kind = .starRating ∧ answer = .starRating ∨
        kind = .text ∧ answer = .text (given placeholder defaults.placeholder) := by
  cases kind <;> simp [Answer.ofKind, eq_comm]

/-- A star scale that resolves stays within the limit. -/
theorem StarScale.resolve_le {s : StarScale} {maxStars : Nat} (h : s.resolve = .ok maxStars) :
    maxStars ≤ maxStarsLimit.toNat := by
  unfold StarScale.resolve at h
  dsimp only at h
  split at h
  · cases h
  · rename_i hle
    cases h
    exact Int.toNat_le_toNat (Int.not_lt.1 hle)

end Survey

namespace Overlay

open Survey (Definition Question Resolved ResolvedQuestion)

/-! ## Ids -/

/-- An id made of a prefix and a number tells the number. -/
theorem numbered_inj {front : String} {a b : Nat}
    (h : front ++ String.ofList (Json.natDigits a) = front ++ String.ofList (Json.natDigits b)) :
    a = b := by
  have hd : Json.natDigits a = Json.natDigits b := by simpa using congrArg String.toList h
  calc
    a = Nat.ofDigitChars 10 (Json.natDigits a) 0 := Nat.ofDigitChars_ten_toDigits.symm
    _ = Nat.ofDigitChars 10 (Json.natDigits b) 0 := by rw [hd]
    _ = b := Nat.ofDigitChars_ten_toDigits

/-- What the ids of submit controls begin with. -/
def submitFronts : List String := ["survey-submit-", "text-submit-"]

/-- What the ids of steps and of submit controls begin with. -/
def idFronts : List String := "question-" :: submitFronts

theorem take_front : ∀ front ∈ idFronts, ∀ rest : String,
    (front ++ rest).toList.take 2 = front.toList.take 2 := by
  have hlong : ∀ front ∈ idFronts, 2 ≤ front.toList.length := by decide
  intro front h rest
  rw [String.toList_append, List.take_append_of_le_length (hlong front h)]

/-- The first two characters tell the fronts apart. -/
theorem front_inj {front front' rest rest' : String} (h : front ∈ idFronts)
    (h' : front' ∈ idFronts) (heq : front ++ rest = front' ++ rest') : front = front' := by
  have hinj : ∀ a ∈ idFronts, ∀ b ∈ idFronts, a.toList.take 2 = b.toList.take 2 → a = b := by
    decide
  apply hinj front h front' h'
  rw [← take_front front h rest, ← take_front front' h' rest', heq]

/-- The closing message has an id of its own. -/
theorem front_ne_thankYouStepId {front : String} (h : front ∈ idFronts) (rest : String) :
    front ++ rest ≠ thankYouStepId := by
  have hne : ∀ a ∈ idFronts, a.toList.take 2 ≠ thankYouStepId.toList.take 2 := by decide
  intro heq
  apply hne front h
  rw [← take_front front h rest, heq]

/-- The ids of several elements, each made of a front and the number of its place. -/
def Numbered (fronts : List String) (ids : List String) : Prop :=
  ∀ (i : Nat) (id : String), ids[i]? = some id →
    ∃ front ∈ fronts, id = front ++ String.ofList (Json.natDigits (i + 1))

theorem Numbered.exists_front {fronts ids : List String} (h : Numbered fronts ids) {id : String}
    (hid : id ∈ ids) : ∃ front ∈ fronts, ∃ rest, id = front ++ rest := by
  obtain ⟨i, hi⟩ := List.mem_iff_getElem?.1 hid
  obtain ⟨front, hfront, rfl⟩ := h i id hi
  exact ⟨front, hfront, _, rfl⟩

theorem Numbered.nodup {fronts ids : List String} (h : Numbered fronts ids)
    (hfronts : fronts ⊆ idFronts) : ids.Nodup := by
  rw [List.nodup_iff_getElem?_ne_getElem?]
  intro i j hij hj heq
  have hsome : ids[j]? = some ids[j] := List.getElem?_eq_getElem hj
  obtain ⟨front, hf, hi⟩ := h i _ (heq.trans hsome)
  obtain ⟨front', hf', hj⟩ := h j _ hsome
  obtain rfl := front_inj (hfronts hf) (hfronts hf') (hi.symm.trans hj)
  have := numbered_inj (hi.symm.trans hj)
  omega

/-! ## Following transitions -/

/-- Following a transition, and then the next one of each step that it leads to, up to the closing
message: the indices of the steps on the way. `find` looks a step up by the two names that a
transition has for it. -/
inductive Manifest.Leads (m : Manifest) (find : Nat → String → Option Nat) :
    Transition → List Nat → Prop
  | thankYou : m.Leads find .thankYou []
  | step {index i : Nat} {target : String} {s : Step} {visited : List Nat} :
      find index target = some i → m.steps[i]? = some s → m.Leads find s.next visited →
      m.Leads find (.step index target) (i :: visited)

/-- Looks a step up by its index. -/
def Manifest.byIndex (_ : Manifest) (index : Nat) (_ : String) : Option Nat := some index

/-- Looks a step up by its id; the first step with it is found. -/
def Manifest.byTarget (m : Manifest) (_ : Nat) (target : String) : Option Nat :=
  m.steps.findIdx? (·.stepId = target)

/-- The transition to the step at an index, or to the closing message behind the last step. -/
def Transition.into (index total : Nat) : Transition :=
  if index < total then .step index (Overlay.stepId (index + 1)) else .thankYou

theorem Transition.initial_eq_into (total : Nat) : Transition.initial total = .into 0 total := by
  unfold Transition.initial Transition.into
  by_cases h : total = 0
  · rw [if_pos h, if_neg (by omega)]
  · rw [if_neg h, if_pos (by omega)]

theorem Transition.after_eq_into (index total : Nat) :
    Transition.after index total = .into (index + 1) total := rfl

theorem Transition.into_eq_step {i total index : Nat} {target : String}
    (h : Transition.into i total = .step index target) :
    i < total ∧ index = i ∧ target = Overlay.stepId (i + 1) := by
  unfold Transition.into at h
  split at h
  · cases h
    exact ⟨‹_›, rfl, rfl⟩
  · cases h

section Walk

variable {m : Manifest} (hm : m.IsChain)
  {find : Nat → String → Option Nat}
  (hfind : ∀ i < m.steps.length, find i (stepId (i + 1)) = some i)
include hm hfind

/-- From a step on, a chain leads through the steps behind it. By induction on how many these
are. -/
theorem Manifest.IsChain.leads_into {count i : Nat} (hi : i + count = m.steps.length)
    (visited : List Nat) :
    m.Leads find (.into i m.steps.length) visited ↔ visited = List.range' i count := by
  induction count generalizing i visited with
  | zero =>
      rw [show Transition.into i m.steps.length = .thankYou from if_neg (by omega)]
      constructor
      · rintro ⟨⟩
        rfl
      · rintro rfl
        exact .thankYou
  | succ count ih =>
      have hlt : i < m.steps.length := by omega
      have hnext (s : Step) (hs : m.steps[i]? = some s) (visited : List Nat) :
          m.Leads find s.next visited ↔ visited = List.range' (i + 1) count := by
        rw [hm.next i s hs, Transition.after_eq_into]
        exact ih (by omega) visited
      rw [show Transition.into i m.steps.length = .step i (stepId (i + 1)) from if_pos hlt,
        List.range'_succ]
      constructor
      · intro h
        cases h with
        | step hf hs h =>
            obtain rfl : i = _ := Option.some.inj ((hfind i hlt).symm.trans hf)
            rw [(hnext _ hs _).1 h]
      · rintro rfl
        have hs : m.steps[i]? = some m.steps[i] := List.getElem?_eq_getElem hlt
        exact .step (hfind i hlt) hs ((hnext _ hs _).2 rfl)

/-- **A chain leads from its first step through all, in order.** -/
theorem Manifest.IsChain.leads_initial (visited : List Nat) :
    m.Leads find m.initial visited ↔ visited = List.range m.steps.length := by
  rw [hm.initial, Transition.initial_eq_into, List.range_eq_range']
  exact hm.leads_into hfind (Nat.zero_add _) visited

end Walk

/-! ## Compiled manifests -/

/-- What a question of the definition makes of its step: the parts that depend on the kind, and the
parts that tell which question it is. -/
structure Step.MadeFor (s : Step) (position : Nat) (q : Question) (maxStars : Nat) : Prop where
  stepId : s.stepId = Overlay.stepId position
  trackId : s.analytics.id = Survey.given q.trackId (Survey.defaultTrackId position)
  trackName : s.analytics.name = Survey.given q.trackName (Survey.defaultTrackName q.kind position)
  kind :
    q.kind = .starRating ∧ s.guard = .starSelected ∧ s.capture = .starCount ∧
        s.analytics.channel = "feedback" ∧ s.maxStars = maxStars ∨
      q.kind = .text ∧ s.guard = .always ∧ s.capture = .textInput ∧
        s.analytics.channel = "customform" ∧ s.maxStars = 0

/-- A manifest whose steps are one chain over some questions. -/
structure Manifest.Follows (m : Manifest) (questions : List Question) (maxStars : Nat) : Prop where
  length : m.steps.length = questions.length
  made : ∀ (i : Nat) (q : Question) (s : Step), questions[i]? = some q → m.steps[i]? = some s →
    s.MadeFor (i + 1) q maxStars
  leadsByIndex : ∀ visited : List Nat,
    m.Leads m.byIndex m.initial visited ↔ visited = List.range questions.length
  leadsByTarget : ∀ visited : List Nat,
    m.Leads m.byTarget m.initial visited ↔ visited = List.range questions.length
  names : ∀ (index : Nat) (target : String),
    .step index target ∈ m.initial :: m.steps.map Step.next →
      index < questions.length ∧ (m.steps[index]?.map Step.stepId) = some target
  ids : (m.steps.map Step.stepId ++ m.steps.map Step.submitId ++ [m.closing.stepId]).Nodup

/-- A step that counts stars was made for a star question. -/
theorem Manifest.Follows.star_of_capture {m : Manifest} {questions : List Question}
    {maxStars : Nat} (hm : m.Follows questions maxStars) {i : Nat} {s : Step}
    (hs : m.steps[i]? = some s) (hc : s.capture = .starCount) :
    ∃ q, questions[i]? = some q ∧ q.kind = .starRating ∧ s.maxStars = maxStars := by
  have hlt : i < questions.length := hm.length ▸ (List.getElem?_eq_some_iff.1 hs).1
  have hq : questions[i]? = some questions[i] := List.getElem?_eq_getElem hlt
  refine ⟨_, hq, ?_⟩
  rcases (hm.made i _ s hq hs).kind with ⟨hk, -, -, -, hscale⟩ | ⟨-, -, htext, -, -⟩
  · exact ⟨hk, hscale⟩
  · cases hc.symm.trans htext

/-- The step of a star question counts stars. -/
theorem Manifest.Follows.capture_of_star {m : Manifest} {questions : List Question}
    {maxStars : Nat} (hm : m.Follows questions maxStars) {i : Nat} {q : Question}
    (hq : questions[i]? = some q) (hk : q.kind = .starRating) :
    ∃ s, m.steps[i]? = some s ∧ s.capture = .starCount ∧ s.maxStars = maxStars := by
  have hlt : i < m.steps.length := hm.length ▸ (List.getElem?_eq_some_iff.1 hq).1
  have hs : m.steps[i]? = some m.steps[i] := List.getElem?_eq_getElem hlt
  refine ⟨_, hs, ?_⟩
  rcases (hm.made i q _ hq hs).kind with ⟨-, -, hc, -, hscale⟩ | ⟨htext, -⟩
  · exact ⟨hc, hscale⟩
  · cases hk.symm.trans htext

/-- The ids of a step are numbered by the place of its question. -/
theorem Step.ofQuestion_ids (q : ResolvedQuestion) (total maxStars : Nat) :
    (Step.ofQuestion q total maxStars).stepId = Overlay.stepId q.position ∧
      ∃ front ∈ submitFronts, (Step.ofQuestion q total maxStars).submitId =
        front ++ String.ofList (Json.natDigits q.position) := by
  unfold Step.ofQuestion
  cases q.answer with
  | starRating => exact ⟨rfl, _, List.mem_cons_self, rfl⟩
  | text placeholder => exact ⟨rfl, _, List.mem_cons_of_mem _ List.mem_cons_self, rfl⟩

/-- The step of a question that resolves. -/
theorem Step.ofQuestion_madeFor {position : Nat} {q : Question} {rq : ResolvedQuestion}
    (h : q.resolve position = .ok rq) (total maxStars : Nat) :
    (Step.ofQuestion rq total maxStars).MadeFor position q maxStars := by
  obtain ⟨answer, ha, rfl⟩ := Survey.Question.resolve_eq_ok.1 h
  rcases Survey.Answer.ofKind_eq_ok.1 ha with ⟨hk, rfl⟩ | ⟨hk, rfl⟩
  · exact ⟨rfl, rfl, rfl, .inl ⟨hk, rfl, rfl, rfl, rfl⟩⟩
  · exact ⟨rfl, rfl, rfl, .inr ⟨hk, rfl, rfl, rfl, rfl⟩⟩

section Resolved

variable {d : Definition} {survey : Resolved} (h : d.resolve = .ok survey)
include h

theorem resolve_questions : Survey.resolveQuestions 1 d.questions = .ok survey.questions := by
  obtain ⟨questions, maxStars, hq, -, rfl⟩ := Definition.resolve_eq_ok.1 h
  exact hq

theorem maxStars_le : survey.maxStars ≤ Survey.maxStarsLimit.toNat := by
  obtain ⟨questions, maxStars, -, hs, rfl⟩ := Definition.resolve_eq_ok.1 h
  exact Survey.StarScale.resolve_le hs

theorem stepsOf_length_eq : (stepsOf survey).length = d.questions.length := by
  rw [stepsOf_length, Survey.resolveQuestions_length (resolve_questions h)]

theorem numbered_stepIds : Numbered ["question-"] ((stepsOf survey).map Step.stepId) := by
  intro i id hi
  rw [List.getElem?_map, stepsOf_getElem?, Option.map_map] at hi
  obtain ⟨q, hq, rfl⟩ := Option.map_eq_some_iff.1 hi
  refine ⟨"question-", List.mem_cons_self, ?_⟩
  rw [← Survey.Definition.resolve_position h hq]
  exact (Step.ofQuestion_ids q _ _).1

theorem numbered_submitIds : Numbered submitFronts ((stepsOf survey).map Step.submitId) := by
  intro i id hi
  rw [List.getElem?_map, stepsOf_getElem?, Option.map_map] at hi
  obtain ⟨q, hq, rfl⟩ := Option.map_eq_some_iff.1 hi
  rw [← Survey.Definition.resolve_position h hq]
  exact (Step.ofQuestion_ids q _ _).2

theorem nodup_ids : ((stepsOf survey).map Step.stepId ++ (stepsOf survey).map Step.submitId ++
    [thankYouStepId]).Nodup := by
  have hsteps := numbered_stepIds h
  have hsubmits := numbered_submitIds h
  have hfront : ["question-"] ⊆ idFronts := by simp [idFronts]
  have hfronts : submitFronts ⊆ idFronts := List.subset_cons_self _ _
  rw [List.nodup_append', List.nodup_append']
  refine ⟨⟨hsteps.nodup hfront, hsubmits.nodup hfronts, ?_⟩, List.nodup_singleton _, ?_⟩
  · -- no step shares its id with a submit control
    intro id hstep hsubmit
    obtain ⟨front, hf, rest, rfl⟩ := hsteps.exists_front hstep
    obtain ⟨front', hf', rest', heq⟩ := hsubmits.exists_front hsubmit
    obtain rfl := front_inj (hfront hf) (hfronts hf') heq
    obtain rfl := List.mem_singleton.1 hf
    revert hf'
    decide
  · rintro id hid hclosing
    obtain rfl := List.mem_singleton.1 hclosing
    rcases List.mem_append.1 hid with hid | hid
    · obtain ⟨front, hf, rest, heq⟩ := hsteps.exists_front hid
      exact front_ne_thankYouStepId (hfront hf) rest heq.symm
    · obtain ⟨front, hf, rest, heq⟩ := hsubmits.exists_front hid
      exact front_ne_thankYouStepId (hfronts hf) rest heq.symm

/-- The step at an index has the id of its place. -/
theorem stepsOf_stepId {i : Nat} (hi : i < (stepsOf survey).length) :
    ((stepsOf survey)[i]).stepId = stepId (i + 1) := by
  have hget : ((stepsOf survey).map Step.stepId)[i]? = some ((stepsOf survey)[i]).stepId := by
    rw [List.getElem?_map, List.getElem?_eq_getElem hi, Option.map_some]
  obtain ⟨front, hf, heq⟩ := numbered_stepIds h i _ hget
  obtain rfl := List.mem_singleton.1 hf
  exact heq

/-- The step at an index is the first one with its id. -/
theorem findIdx?_stepId {i : Nat} (hi : i < (stepsOf survey).length) :
    (stepsOf survey).findIdx? (·.stepId = stepId (i + 1)) = some i := by
  rw [List.findIdx?_eq_some_iff_getElem]
  refine ⟨hi, by simpa using stepsOf_stepId h hi, ?_⟩
  intro j hj
  have hne : stepId (j + 1) ≠ stepId (i + 1) := by
    intro heq
    have := numbered_inj heq
    omega
  simpa [stepsOf_stepId h (Nat.lt_trans hj hi)] using hne

/-- **The manifest of a definition's survey is a chain over its questions.** -/
theorem manifestOf_follows (settings : Settings) :
    (manifestOf survey settings (stepsOf survey)).Follows d.questions survey.maxStars := by
  have hchain := manifestOf_isChain h settings
  have hlength : (manifestOf survey settings (stepsOf survey)).steps.length =
      d.questions.length := stepsOf_length_eq h
  have hleads (find : Nat → String → Option Nat)
      (hfind : ∀ i < (stepsOf survey).length, find i (stepId (i + 1)) = some i)
      (visited : List Nat) := hlength ▸ hchain.leads_initial hfind visited
  refine ⟨hlength, ?_, hleads _ fun i _ => rfl, hleads _ fun i hi => findIdx?_stepId h hi, ?_,
    nodup_ids h⟩
  · -- the step at an index is made for the question there
    intro i q s hq hs
    obtain ⟨rq, hrq, hres⟩ := Survey.resolveQuestions_getElem? (resolve_questions h) hq
    have hstep : (stepsOf survey)[i]? = some s := hs
    rw [stepsOf_getElem?, hrq] at hstep
    obtain rfl := Option.some.inj hstep
    rw [Nat.add_comm]
    exact Step.ofQuestion_madeFor hres _ _
  · -- every transition leads into some place, and the names of a place are those of its step
    intro index target ht
    have hinto : ∃ i, Transition.into i (stepsOf survey).length = .step index target := by
      rcases List.mem_cons.1 ht with heq | hmem
      · exact ⟨0, by rw [← Transition.initial_eq_into]; exact heq.symm⟩
      · obtain ⟨s, hs, hnext⟩ := List.mem_map.1 hmem
        obtain ⟨i, hi⟩ := List.mem_iff_getElem?.1 hs
        exact ⟨i + 1, by rw [← Transition.after_eq_into, ← hnext]; exact (hchain.next i s hi).symm⟩
    obtain ⟨i, hi⟩ := hinto
    obtain ⟨hlt, rfl, rfl⟩ := Transition.into_eq_step hi
    refine ⟨hlength ▸ hlt, ?_⟩
    show (stepsOf survey)[index]?.map Step.stepId = _
    rw [List.getElem?_eq_getElem hlt, Option.map_some, stepsOf_stepId h hlt]

end Resolved

/-- **Every compiled manifest is one chain.** Whatever templates and settings a definition is
compiled with, its steps are the definition's questions in order, each made for its question's
kind on the survey's scale of at most ten stars; following transitions by index or by id visits
every step once, in order, and ends at the closing message; and all ids are distinct. -/
theorem compiled_manifest_follows {render : Renderer} {d : Definition} {settings : Settings}
    {bundle : Bundle} (h : compile render d settings = .ok bundle) :
    ∃ survey, d.resolve = .ok survey ∧ survey.maxStars ≤ 10 ∧
      bundle.manifest.Follows d.questions survey.maxStars := by
  obtain ⟨survey, hr, hm⟩ := compile_manifest h
  refine ⟨survey, hr, maxStars_le hr, ?_⟩
  rw [hm]
  exact manifestOf_follows hr settings

/-- A chain of a star question and a text question. -/
theorem compiled_manifest_follows_two_questions :
    let d : Definition :=
      { Definition.blank with questions := [.starRating "How was it?", .freeText "Why?" none] }
    ∃ bundle survey, compile Pages.templates d .standard = .ok bundle ∧ d.resolve = .ok survey ∧
      bundle.manifest.steps.map Step.submitId = ["survey-submit-1", "text-submit-2"] ∧
      survey.maxStars ≤ 10 ∧ bundle.manifest.Follows d.questions survey.maxStars := by
  intro d
  obtain ⟨bundle, hb⟩ := (Pages.compile_templates d .standard).2 ⟨_, rfl⟩
  obtain ⟨survey, hr, hle, hfollows⟩ := compiled_manifest_follows hb
  refine ⟨bundle, survey, hb, hr, ?_, hle, hfollows⟩
  obtain ⟨survey', hr', hm⟩ := compile_manifest hb
  cases hr'
  rw [hm]
  decide +kernel

end Overlay

end VideoSurvey
