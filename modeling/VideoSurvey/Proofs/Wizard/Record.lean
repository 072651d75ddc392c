import VideoSurvey.Proofs.Overlay.BuiltIn
import VideoSurvey.Proofs.Wizard.Walk

/-!
# What a walk records

What the recording host has written down is a function of the history: one event for each step
that was submitted, with the answers that were taken last (`Run.Recorded`). For a compiled survey
this is said in terms of its questions (`Walkthrough`).
-/

set_option autoImplicit false

namespace VideoSurvey.Wizard

open Overlay (Manifest Step Bundle manifestOf stepsOf)
open Survey (Definition Resolved ResolvedQuestion)

/-! ## What a step files -/

/-- What was captured of a step by the end of a history. -/
def answer (history : List Entry) (step : Nat) (s : Step) : Captured :=
  match s.capture with
  | .starCount => .feedback (starsText ((chosen? history step).getD 0))
  | .textInput => .text ((typed? history step).getD "")

/-- The call that files the event of a step. -/
def filed (history : List Entry) (step : Nat) (s : Step) (offset : Int) : HostCall :=
  .track s.analytics.channel (Machine.eventOf s (answer history step s) offset)

/-- The calls that file the events of a history, in its order. -/
def filedCalls (manifest : Manifest) (history : List Entry) : List HostCall :=
  (filings history).filterMap fun f =>
    manifest.steps[f.1]?.map fun s => filed history f.1 s f.2

/-- A history whose answers agree for the submitted steps files the same. -/
theorem filed_congr {history history' : List Entry} {step : Nat}
    (hstars : chosen? history' step = chosen? history step)
    (htexts : typed? history' step = typed? history step) (s : Step) (offset : Int) :
    filed history' step s offset = filed history step s offset := by
  unfold filed answer
  rw [hstars, htexts]

/-! ## What is recorded -/

/-- An operation with the recording host, at a playback time. -/
def Call.recording (call : Int × Operation) : Call Recording :=
  ⟨fun h => { h with playbackOffset := call.1 }, call.2⟩

namespace Run

variable {manifest : Manifest}

/-- The recording host has written down the events of the history, and nothing else that files
one. -/
def Recorded (manifest : Manifest) (r : Run Recording) : Prop :=
  r.host.calls.filter HostCall.isTrack = filedCalls manifest r.history

/-- An entry that submits nothing, and answers no submitted step, files nothing. -/
theorem filedCalls_append_of_none {σ : Type} {r : Run σ} {e : Entry} (he : e.submitted? = none)
    (hstars : ∀ step ∈ r.submissions, e.stars? step = none)
    (htexts : ∀ step ∈ r.submissions, e.text? step = none) :
    filedCalls manifest (r.history ++ [e]) = filedCalls manifest r.history := by
  have hf : filings (r.history ++ [e]) = filings r.history := by
    rw [filings_append, he]
    exact List.append_nil _
  unfold filedCalls
  rw [hf]
  -- the filings are the same, so only the answers of their steps could differ
  apply List.filterMap_congr
  intro f hfm
  have hmem : f.1 ∈ r.submissions := by
    rw [← filings_steps]
    exact List.mem_map.2 ⟨f, hfm, rfl⟩
  congr 1
  funext s
  exact filed_congr (chosen?_append_of_none (hstars _ hmem) _)
    (typed?_append_of_none (htexts _ hmem) _) s f.2

/-- A submission files the event of its step. -/
theorem filedCalls_append_submit (history : List Entry) {step : Nat} {s : Step}
    (hsteps : manifest.steps[step]? = some s) (offset : Int) :
    filedCalls manifest (history ++ [⟨.submit step, offset, true⟩]) =
      filedCalls manifest history ++ [filed history step s offset] := by
  have hsame : ∀ j t o, filed (history ++ [⟨.submit step, offset, true⟩]) j t o =
      filed history j t o := by
    intro j t o
    exact filed_congr (chosen?_append_of_none rfl _) (typed?_append_of_none rfl _) t o
  unfold filedCalls
  simp only [hsame]
  rw [filings_append, List.filterMap_append]
  congr 1
  show List.filterMap _ [(step, offset)] = _
  simp [hsteps]

/-- What a step has captured is its answer in the history. -/
theorem Answers.captured {σ : Type} {r : Run σ} (hw : Answers manifest r) {step : Nat} {s : Step}
    {value : Captured} (h : r.machine.captured? step s = some value) :
    value = answer r.history step s := by
  obtain ⟨hstars, htext⟩ := Machine.captured?_eq_some h
  unfold answer
  cases hc : s.capture with
  | starCount => rw [(hstars hc).1, hw.stars]
  | textInput => rw [htext hc, hw.texts]

/-- Due timers file no event with the recording host. -/
theorem fireDue_filter_isTrack (target count : Nat) (m : Machine) (h : Recording) :
    (Machine.fireDue recordingHost target count m h).2.calls.filter HostCall.isTrack =
      h.calls.filter HostCall.isTrack := by
  induction count generalizing m h with
  | zero => rfl
  | succ count ih =>
      unfold Machine.fireDue
      cases ht : m.timer with
      | none => rfl
      | some t =>
          by_cases hd : target < t.due
          · simp only [if_pos hd]
          · simp only [if_neg hd]
            rw [ih]
            cases hk : t.kind with
            | acknowledgmentExpired => rfl
            | handBack =>
                show (h.calls ++ [HostCall.seekTo _] ++ [HostCall.hide]).filter HostCall.isTrack = _
                rw [List.append_assoc, List.filter_append]
                exact List.append_nil _

/-- Moving time files no event with the recording host. -/
theorem advance_filter_isTrack (m : Machine) (ms : Nat) (h : Recording) :
    (m.advance recordingHost ms h).2.calls.filter HostCall.isTrack =
      h.calls.filter HostCall.isTrack :=
  fireDue_filter_isTrack (later m.now ms) 2 m h

/-- One call keeps the record. -/
theorem Recorded.outcome {r r' : Run Recording} {c : Call Recording} (hr : Recorded manifest r)
    (hw : Walk manifest r) (hs : Sound manifest r)
    (hbefore : (c.before r.host).calls = r.host.calls)
    (ho : Outcome recordingHost r c r') : Recorded manifest r' := by
  unfold Recorded at hr ⊢
  -- a step that is active was not submitted, so an answer to it changes nothing that was filed
  have hne : ∀ {step s}, r.machine.active? step = some s → ∀ j ∈ r.submissions, step ≠ j := by
    intro step s active j hj h
    rw [hw.order, List.mem_range, ← h, (hw.place.of_active active).1] at hj
    exact Nat.lt_irrefl _ hj
  cases ho with
  | refused visitor =>
      rw [filedCalls_append_of_none (Entry.submitted?_of_refused _ _)
        (fun j _ => Entry.stars?_of_refused _ _ j) (fun j _ => Entry.text?_of_refused _ _ j),
        hbefore]
      exact hr
  | starred step count s operation active capture low high =>
      rw [filedCalls_append_of_none rfl _ (fun _ _ => rfl), hbefore]
      · exact hr
      · intro j hj
        simp [Entry.stars?, hne active j hj]
  | typed step text s operation active capture =>
      rw [filedCalls_append_of_none rfl (fun _ _ => rfl) _, hbefore]
      · exact hr
      · intro j hj
        simp [Entry.text?, hne active j hj]
  | submitted step s value operation active captured =>
      have hsteps := (Machine.active?_eq_some_iff.1 active).2.2
      rw [hs.manifest_eq] at hsteps
      -- the event is filed with the answer in the lists, which is the last one in the history
      rw [filedCalls_append_submit _ hsteps, ← hr, ← hbefore, hw.answers.captured captured]
      show List.filter _ (_ ++ [_]) = _
      rw [List.filter_append]
      rfl
  | moved ms operation =>
      rw [filedCalls_append_of_none rfl (fun _ _ => rfl) (fun _ _ => rfl), advance_filter_isTrack,
        hbefore]
      exact hr

/-- **What the recording host has written down is told by the history.** -/
theorem of_recorded (hchain : manifest.IsChain) (offsets : List (Int × Operation)) :
    Recorded manifest (of recordingHost manifest Recording.start (offsets.map Call.recording)) := by
  suffices key : Sound manifest
      (of recordingHost manifest Recording.start (offsets.map Call.recording)) ∧
        Walk manifest (of recordingHost manifest Recording.start (offsets.map Call.recording)) ∧
        Recorded manifest
          (of recordingHost manifest Recording.start (offsets.map Call.recording)) from key.2.2
  refine of_outcomes (P := fun r => Sound manifest r ∧ Walk manifest r ∧ Recorded manifest r)
    ⟨start_sound _, start_walk hchain _, rfl⟩ ?_
  rintro r r' c hc ⟨hs, hw, hr⟩ ho
  obtain ⟨call, -, rfl⟩ := List.mem_map.1 hc
  exact ⟨hs.outcome ho, hw.outcome hchain hs ho, hr.outcome hw hs rfl ho⟩

end Run

/-! ## Compiled surveys -/

/-- The call that files the answer of a question. -/
def questionCall (history : List Entry) (step : Nat) (q : ResolvedQuestion) (offset : Int) :
    HostCall :=
  match q.answer with
  | .starRating =>
      .track "feedback"
        { id := q.trackId
          name := q.trackName
          group := Overlay.feedbackGroup
          value := .feedback (starsText ((chosen? history step).getD 0))
          eventType := Overlay.eventType
          event := submittedEvent
          offset }
  | .text _ =>
      .track "customform"
        { id := q.trackId
          name := q.trackName
          group := Overlay.feedbackGroup
          value := .text ((typed? history step).getD "")
          eventType := Overlay.eventType
          event := submittedEvent
          offset }

/-- The step of a question files the answer of the question. -/
theorem filed_ofQuestion (history : List Entry) (step total maxStars : Nat) (q : ResolvedQuestion)
    (offset : Int) :
    filed history step (Step.ofQuestion q total maxStars) offset =
      questionCall history step q offset := by
  unfold filed answer questionCall Step.ofQuestion
  cases q.answer with
  | starRating => rfl
  | text placeholder => rfl

/-- The wizard of a survey after some calls, with the recording host. -/
structure Walkthrough (survey : Resolved) (settings : Settings) (r : Run Recording) : Prop where
  /-- The submissions that were taken are those of the first steps, in their order. -/
  order : r.submissions = List.range r.submissions.length
  bounded : r.submissions.length ≤ survey.questions.length
  /-- There is one event for each of them, -/
  count : (r.host.calls.filter HostCall.isTrack).length = r.submissions.length
  /-- and it files the answer of the question with the playback time of the submission. -/
  event : ∀ step < r.submissions.length, ∃ q offset, survey.questions[step]? = some q ∧
    (filings r.history)[step]? = some (step, offset) ∧
    (r.host.calls.filter HostCall.isTrack)[step]? = some (questionCall r.history step q offset)
  /-- Stars that were submitted were chosen, on the survey's scale. -/
  scale : ∀ step < r.submissions.length, ∀ q, survey.questions[step]? = some q →
    q.answer = .starRating →
      ∃ count, chosen? r.history step = some count ∧ 1 ≤ count ∧ count ≤ survey.maxStars
  /-- The wizard stands before the next step, -/
  next : r.submissions.length < survey.questions.length →
    r.machine.phase = .step r.submissions.length
  /-- or it shows the closing message as long as time is not moved, -/
  still : r.submissions.length = survey.questions.length →
    (sinceSubmission r.history).any Entry.isAdvance = false → r.machine.phase = .thankYou
  /-- and then stands where the clock says. -/
  closing : r.submissions.length = survey.questions.length →
    (sinceSubmission r.history).any Entry.isAdvance = true →
      r.machine.phase = closingPhase survey.thankYou.durationMs settings.transitionDelayMs
        (shownAt r.history) (elapsed r.history)

/-- The entries of a filtered list when nothing is left out. -/
theorem getElem?_filterMap_of_isSome {α β : Type} {f : α → Option β} {l : List α}
    (h : ∀ x ∈ l, (f x).isSome) (i : Nat) : (l.filterMap f)[i]? = l[i]?.bind f := by
  induction l generalizing i with
  | nil => rfl
  | cons x l ih =>
      obtain ⟨y, hy⟩ := Option.isSome_iff_exists.1 (h x List.mem_cons_self)
      rw [List.filterMap_cons_some hy]
      cases i with
      | zero => exact hy.symm
      | succ i => exact ih (fun z hz => h z (List.mem_cons_of_mem x hz)) i

/-- The filings of a walk are those of the first steps, in their order. -/
theorem Run.Walk.filings_getElem? {σ : Type} {manifest : Manifest} {r : Run σ}
    (hw : r.Walk manifest) {i : Nat} {f : Nat × Int} (hf : (filings r.history)[i]? = some f) :
    f.1 = i ∧ i < r.submissions.length := by
  have hi : r.submissions[i]? = some f.1 := by
    rw [← filings_steps, List.getElem?_map, hf]
    rfl
  have hlt : i < r.submissions.length := (List.getElem?_eq_some_iff.1 hi).1
  rw [hw.order, List.getElem?_range hlt] at hi
  exact ⟨(Option.some.inj hi).symm, hlt⟩

/-- No more steps are submitted than there are. -/
theorem Run.Walk.bounded {σ : Type} {manifest : Manifest} {r : Run σ} (hw : r.Walk manifest) :
    r.submissions.length ≤ manifest.steps.length := by
  cases hw.place with
  | before left _ _ => exact Nat.le_of_lt left
  | behind all _ _ _ => exact Nat.le_of_eq all

section Walk

variable {survey : Resolved} {settings : Settings} {r : Run Recording}

/-- Every submitted step has a question. -/
theorem Run.Walk.question (hw : r.Walk (manifestOf survey settings (stepsOf survey))) {step : Nat}
    (h : step < r.submissions.length) : ∃ q, survey.questions[step]? = some q := by
  have hle := hw.bounded
  have htotal : (manifestOf survey settings (stepsOf survey)).steps.length =
      survey.questions.length := Overlay.stepsOf_length survey
  exact ⟨_, List.getElem?_eq_getElem (show step < survey.questions.length by omega)⟩

/-- Every filing files an event. -/
theorem Run.Walk.filed_isSome (hw : r.Walk (manifestOf survey settings (stepsOf survey))) :
    ∀ f ∈ filings r.history,
      ((stepsOf survey)[f.1]?.map fun s => filed r.history f.1 s f.2).isSome := by
  intro f hf
  obtain ⟨i, hi⟩ := List.mem_iff_getElem?.1 hf
  obtain ⟨rfl, hlt⟩ := hw.filings_getElem? hi
  obtain ⟨q, hq⟩ := hw.question hlt
  rw [Overlay.stepsOf_getElem?, hq]
  rfl

/-- The event of a submitted step is the event of its question. -/
theorem Run.Walk.event (hw : r.Walk (manifestOf survey settings (stepsOf survey)))
    (hr : r.Recorded (manifestOf survey settings (stepsOf survey))) {step : Nat}
    (h : step < r.submissions.length) :
    ∃ q offset, survey.questions[step]? = some q ∧
      (filings r.history)[step]? = some (step, offset) ∧
      (r.host.calls.filter HostCall.isTrack)[step]? =
        some (questionCall r.history step q offset) := by
  obtain ⟨q, hq⟩ := hw.question h
  -- a walk files its steps in their order, so the filing at a place is that of the step there
  have hlen : step < (filings r.history).length := by
    rw [← List.length_map Prod.fst, filings_steps]
    exact h
  obtain ⟨⟨j, offset⟩, hf⟩ : ∃ f, (filings r.history)[step]? = some f :=
    ⟨_, List.getElem?_eq_getElem hlen⟩
  obtain ⟨rfl, -⟩ := hw.filings_getElem? hf
  refine ⟨q, offset, hq, hf, ?_⟩
  have hcalls : (r.host.calls.filter HostCall.isTrack)[j]? =
      (filings r.history)[j]?.bind fun f =>
        (stepsOf survey)[f.1]?.map fun s => filed r.history f.1 s f.2 := by
    rw [hr]
    exact getElem?_filterMap_of_isSome hw.filed_isSome j
  rw [hcalls, hf]
  show (stepsOf survey)[j]?.map _ = _
  rw [Overlay.stepsOf_getElem?, hq]
  exact congrArg some (filed_ofQuestion ..)

/-- The stars of a submitted question were chosen on the survey's scale. -/
theorem Run.Walk.scale (hw : r.Walk (manifestOf survey settings (stepsOf survey))) {step : Nat}
    (h : step < r.submissions.length) {q : ResolvedQuestion}
    (hq : survey.questions[step]? = some q) (hanswer : q.answer = .starRating) :
    ∃ count, chosen? r.history step = some count ∧ 1 ≤ count ∧ count ≤ survey.maxStars := by
  have hs : (stepsOf survey)[step]? =
      some (Step.ofQuestion q survey.questions.length survey.maxStars) := by
    rw [Overlay.stepsOf_getElem?, hq]
    rfl
  have hmem : step ∈ r.submissions := by
    rw [hw.order]
    exact List.mem_range.2 h
  obtain ⟨hcapture, hmax⟩ := Step.ofQuestion_starRating hanswer survey.questions.length
    survey.maxStars
  obtain ⟨count, hcount⟩ := hw.answered step hmem _ hs hcapture
  obtain ⟨s, hs', hlow, hhigh⟩ := hw.answers.scale step count hcount
  obtain rfl := Option.some.inj (hs.symm.trans hs')
  exact ⟨count, hcount, hlow, hmax ▸ hhigh⟩

/-- A walk with its record is a walkthrough of the survey that its manifest was made of. -/
theorem walkthrough_of_walk (hs : r.Sound (manifestOf survey settings (stepsOf survey)))
    (hw : r.Walk (manifestOf survey settings (stepsOf survey)))
    (hr : r.Recorded (manifestOf survey settings (stepsOf survey))) :
    Walkthrough survey settings r := by
  have htotal : (manifestOf survey settings (stepsOf survey)).steps.length =
      survey.questions.length := Overlay.stepsOf_length survey
  refine ⟨hw.order, htotal ▸ hw.bounded, ?_, fun _ h => hw.event hr h,
    fun _ h _ hq hanswer => hw.scale h hq hanswer, ?_, ?_, ?_⟩
  · rw [hr, ← filings_steps, List.length_map]
    exact List.filterMap_length_eq_length.2 hw.filed_isSome
  · intro hleft
    cases hw.place with
    | before left phase _ => exact phase
    | behind all _ _ _ => omega
  · intro hall hstill
    cases hw.place with
    | before left _ _ => omega
    | behind all closing still moved => exact still hstill
  · intro hall hmoved
    cases hw.place with
    | before left _ _ => omega
    | behind all closing still moved =>
        rw [closing.phase_eq (moved hmoved), hw.clock, hs.manifest_eq]
        rfl

end Walk

/-- **A compiled survey is walked through in its order.** Whatever the visitor clicks, however time
and the playback go on in between, the recording host gets one event for each question that was
submitted, in the order of the questions, with the last answer that was taken. -/
theorem compiled_walkthrough {render : Renderer} {d : Definition} {settings : Settings}
    {bundle : Bundle} (h : Overlay.compile render d settings = .ok bundle)
    (calls : List (Int × Operation)) :
    ∃ survey, d.resolve = .ok survey ∧
      Walkthrough survey settings
        (Run.of recordingHost bundle.manifest Recording.start (calls.map Call.recording)) := by
  obtain ⟨survey, hr, hm⟩ := Overlay.compile_manifest h
  have hchain := Overlay.manifestOf_isChain hr settings
  refine ⟨survey, hr, ?_⟩
  rw [hm]
  exact walkthrough_of_walk (Run.of_sound _ _) (Run.of_walk hchain _ _)
    (Run.of_recorded hchain calls)

/-- Two questions, answered and submitted one after the other. -/
theorem compiled_walkthrough_two_questions :
    let d : Definition :=
      { Definition.blank with questions := [.starRating "How was it?", .freeText "Why?" none] }
    let calls : List (Int × Operation) :=
      [(1500, .selectStar 0 4), (2500, .submit 0), (3500, .inputText 1 "good"), (4500, .submit 1)]
    ∃ bundle survey, Overlay.compile Overlay.Pages.templates d .standard = .ok bundle ∧
      d.resolve = .ok survey ∧
      (Run.of recordingHost bundle.manifest Recording.start
        (calls.map Call.recording)).submissions = [0, 1] ∧
      Walkthrough survey .standard
        (Run.of recordingHost bundle.manifest Recording.start (calls.map Call.recording)) := by
  intro d calls
  obtain ⟨bundle, hb⟩ := (Overlay.Pages.compile_templates d .standard).2 ⟨_, rfl⟩
  obtain ⟨survey, hr, hw⟩ := compiled_walkthrough hb calls
  refine ⟨bundle, survey, hb, hr, ?_, hw⟩
  obtain ⟨survey', hr', hm⟩ := Overlay.compile_manifest hb
  cases hr'
  rw [hm]
  decide +kernel

/-- Behind the last step the closing message is not shown for ever. -/
theorem closing_message_ends :
    ¬ ∀ (d : Definition) (settings : Settings) (bundle : Bundle) (calls : List (Int × Operation)),
      Overlay.compile Overlay.Pages.templates d settings = .ok bundle →
        (Run.of recordingHost bundle.manifest Recording.start
          (calls.map Call.recording)).submissions.length = bundle.manifest.steps.length →
        (Run.of recordingHost bundle.manifest Recording.start
          (calls.map Call.recording)).machine.phase = .thankYou := by
  intro h
  obtain ⟨bundle, hb⟩ := (Overlay.Pages.compile_templates .blank .standard).2 ⟨_, rfl⟩
  have hphase := h .blank .standard bundle [(0, .advance 3000)] hb
  obtain ⟨survey, hr, hm⟩ := Overlay.compile_manifest hb
  cases hr
  rw [hm] at hphase
  revert hphase
  decide +kernel

end VideoSurvey.Wizard
