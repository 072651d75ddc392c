import VideoSurvey.Proofs.Overlay.Chain
import VideoSurvey.Proofs.Wizard.Timers
import VideoSurvey.Proofs.Wizard.Walk

/-!
# Whether the video is handed back

A step that counts stars on an empty scale can never be submitted, since no number of stars is
taken for it. So a run along a chain can be carried on until the machine is closed unless such a
step is left, and then it stands before a step for ever (`closed_reachable_iff`).
-/

set_option autoImplicit false

namespace VideoSurvey.Wizard

open Overlay (Manifest Step)
open Survey (Definition Question Kind)

namespace Machine

variable {m : Machine} {step : Nat} {s : Step}

/-- A text is always enough. -/
theorem captured?_of_textInput (hc : s.capture = .textInput) :
    m.captured? step s = some (.text (m.enteredText step)) := by
  simp only [captured?, hc]

/-- A star is always enough. -/
theorem captured?_of_starCount (hc : s.capture = .starCount) (hne : m.selectedStars step ≠ 0) :
    m.captured? step s = some (.feedback (starsText (m.selectedStars step))) := by
  simp [captured?, hc, hne]

end Machine

namespace Run

variable {σ : Type} {host : Host σ} {manifest : Manifest}

/-- A run carried on. -/
theorem of_append (host : Host σ) (manifest : Manifest) (s : σ) (calls more : List (Call σ)) :
    of host manifest s (calls ++ more) = more.foldl (perform host) (of host manifest s calls) :=
  List.foldl_append

/-- Stars on the scale are taken for the active step. -/
theorem perform_selectStar {r : Run σ} {step count : Nat} {s : Step}
    (ha : r.machine.active? step = some s) (hc : s.capture = .starCount) (low : 1 ≤ count)
    (high : count ≤ s.maxStars) (before : σ → σ) :
    (r.perform host ⟨before, .selectStar step count⟩).machine =
        { r.machine with stars := r.machine.stars.set step count } ∧
      (r.perform host ⟨before, .selectStar step count⟩).submissions = r.submissions := by
  have e : r.machine.selectStar step count =
      (true, { r.machine with stars := r.machine.stars.set step count }) := by
    simp [Machine.selectStar, ha, hc, low, high]
  constructor
  · simp only [perform, Operation.run, e]
  · simp only [perform, Operation.run, e]
    exact submissions_append_of_none _ _ _ rfl

/-- The active step is submitted once it has captured enough. -/
theorem submissions_perform_submit {r : Run σ} {step : Nat} {s : Step} {value : Captured}
    (ha : r.machine.active? step = some s) (hc : r.machine.captured? step s = some value)
    (before : σ → σ) :
    (r.perform host ⟨before, .submit step⟩).submissions = r.submissions ++ [step] := by
  unfold perform
  simp only [Operation.run, Machine.submit, ha, hc]
  exact submissions_append _ _ _ _

/-! ## Submitting what is left -/

variable {r : Run σ}

/-- On a walk the submitted steps are the first ones. -/
theorem Walk.isSubmitted_iff (hw : Walk manifest r) (hs : Sound manifest r) {step : Nat}
    (hstep : step < manifest.steps.length) :
    r.machine.isSubmitted step = true ↔ step < r.submissions.length := by
  have hlt : step < r.machine.submitted.length := by
    rw [hs.inRange.submitted, hs.manifest_eq]
    exact hstep
  have hmark : r.machine.isSubmitted step = true ↔ r.machine.submitted[step]? = some true := by
    unfold Machine.isSubmitted
    rw [List.getD_eq_getElem?_getD, List.getElem?_eq_getElem hlt]
    simp
  have hmem : step ∈ r.submissions ↔ step < r.submissions.length := by
    rw [hw.order]
    simp
  rw [hmark, ← hmem, ← List.count_pos_iff, hs.count]
  -- a marked step is counted once, and no other step at all
  by_cases h : r.machine.submitted[step]? = some true
  · rw [if_pos h]
    exact iff_of_true h Nat.one_pos
  · rw [if_neg h]
    exact iff_of_false h (Nat.lt_irrefl 0)

/-- Before a step the next one is active. -/
theorem Walk.active (hw : Walk manifest r) (hs : Sound manifest r)
    (hleft : r.submissions.length < manifest.steps.length) :
    r.machine.active? r.submissions.length = some manifest.steps[r.submissions.length] := by
  rw [Machine.active?_eq_some_iff]
  refine ⟨?_, ?_, ?_⟩
  · cases hw.place with
    | before left phase timer => exact phase
    | behind all closing still moved => omega
  · rw [← Bool.not_eq_true, hw.isSubmitted_iff hs hleft]
    exact Nat.lt_irrefl _
  · rw [hs.manifest_eq]
    exact List.getElem?_eq_getElem hleft

/-- The next step can be submitted, unless it counts stars on an empty scale. -/
theorem Walk.exists_submitted (hw : Walk manifest r) (hs : Sound manifest r)
    (hleft : r.submissions.length < manifest.steps.length)
    (hscale : ∀ t ∈ manifest.steps, t.capture = .starCount → 1 ≤ t.maxStars) :
    ∃ more : List (Call σ), (more.foldl (perform host) r).submissions =
      r.submissions ++ [r.submissions.length] := by
  have hactive := hw.active hs hleft
  generalize hstep : manifest.steps[r.submissions.length] = t at hactive
  cases hc : t.capture with
  | textInput =>
      exact ⟨[⟨id, .submit r.submissions.length⟩],
        submissions_perform_submit hactive (Machine.captured?_of_textInput hc) id⟩
  | starCount =>
      -- one star is on every scale that is not empty
      have hhigh := hscale t (hstep ▸ List.getElem_mem hleft) hc
      have hstar : (r.perform host ⟨id, .selectStar r.submissions.length 1⟩).machine =
            { r.machine with stars := r.machine.stars.set r.submissions.length 1 } ∧
          (r.perform host ⟨id, .selectStar r.submissions.length 1⟩).submissions =
            r.submissions :=
        perform_selectStar hactive hc (Nat.le_refl 1) hhigh id
      obtain ⟨hmachine, hsub⟩ := hstar
      have hlt : r.submissions.length < r.machine.stars.length := by
        rw [hs.inRange.stars]
        exact hs.inRange.active hactive
      have hone : (r.perform host ⟨id, .selectStar r.submissions.length 1⟩).machine.selectedStars
          r.submissions.length = 1 := by
        rw [hmachine]
        exact (getD_set _ _ _ _ _ hlt).trans (if_pos rfl)
      have hactive' : (r.perform host ⟨id, .selectStar r.submissions.length 1⟩).machine.active?
          r.submissions.length = some t := by
        rw [hmachine]
        exact hactive
      refine ⟨[⟨id, .selectStar r.submissions.length 1⟩, ⟨id, .submit r.submissions.length⟩], ?_⟩
      have hcaptured := Machine.captured?_of_starCount hc (hone ▸ Nat.one_ne_zero)
      exact (submissions_perform_submit hactive' hcaptured id).trans (by rw [hsub])

/-- **On a scale that is not empty every run can be carried on behind the last step.** By induction
on how many steps are left. -/
theorem exists_behind (hchain : manifest.IsChain)
    (hscale : ∀ t ∈ manifest.steps, t.capture = .starCount → 1 ≤ t.maxStars) (s : σ) (count : Nat)
    (calls : List (Call σ))
    (hcount : (of host manifest s calls).submissions.length + count = manifest.steps.length) :
    ∃ more, (of host manifest s (calls ++ more)).submissions.length = manifest.steps.length := by
  induction count generalizing calls with
  | zero => exact ⟨[], by rw [List.append_nil]; exact hcount⟩
  | succ count ih =>
      have hwalk : Walk manifest (of host manifest s calls) := of_walk hchain s calls
      have hsubmitted : ∃ more, (of host manifest s (calls ++ more)).submissions =
          (of host manifest s calls).submissions ++
            [(of host manifest s calls).submissions.length] := by
        simp only [of_append]
        exact hwalk.exists_submitted (of_sound s calls) (by omega) hscale
      obtain ⟨more, hmore⟩ := hsubmitted
      have hlength : (of host manifest s (calls ++ more)).submissions.length + count =
          manifest.steps.length := by
        rw [hmore, List.length_append, List.length_singleton]
        omega
      obtain ⟨rest, hrest⟩ := ih (calls ++ more) hlength
      exact ⟨more ++ rest, by rw [← List.append_assoc]; exact hrest⟩

/-! ## Behind the last step -/

/-- Behind the last step the machine closes when time is moved to its end. -/
theorem Walk.closed_of_advance (hw : Walk manifest r)
    (hall : r.submissions.length = manifest.steps.length) :
    (r.perform host ⟨id, .advance latest⟩).machine.phase = .closed := by
  cases hw.place with
  | before left phase timer => omega
  | behind all closing still moved =>
      obtain ⟨hc, hm⟩ := closing.advance host latest r.host
      have hnow : (r.machine.advance host latest r.host).1.now = latest :=
        Nat.min_eq_right (Nat.le_add_left _ _)
      -- neither deadline lies behind the latest time
      cases hc with
      | thankYou hp _ _ =>
          have hlt := hm hp
          have hle : r.machine.messageEnd (shownAt r.history) ≤ latest := later_le_latest _ _
          omega
      | dismissing _ _ _ hn =>
          have hle : (r.machine.advance host latest r.host).1.overlayEnd (shownAt r.history) ≤
              latest := later_le_latest _ _
          omega
      | closed hp _ _ => exact hp

/-- A step that counts stars on an empty scale is never submitted. -/
theorem Walk.not_submitted_of_scale (hw : Walk manifest r) {step : Nat} {t : Step}
    (hstep : manifest.steps[step]? = some t) (hc : t.capture = .starCount)
    (hscale : t.maxStars = 0) : step ∉ r.submissions := by
  intro hmem
  obtain ⟨count, hcount⟩ := hw.answered step hmem t hstep hc
  obtain ⟨t', hstep', low, high⟩ := hw.answers.scale step count hcount
  obtain rfl := Option.some.inj (hstep.symm.trans hstep')
  omega

/-- So the machine stands before a step for ever. -/
theorem Walk.phase_step_of_scale (hw : Walk manifest r) {step : Nat} {t : Step}
    (hstep : manifest.steps[step]? = some t) (hc : t.capture = .starCount)
    (hscale : t.maxStars = 0) : ∃ index, r.machine.phase = .step index := by
  cases hw.place with
  | before left phase timer => exact ⟨_, phase⟩
  | behind all closing still moved =>
      have hlt := (List.getElem?_eq_some_iff.1 hstep).1
      refine absurd ?_ (hw.not_submitted_of_scale hstep hc hscale)
      rw [hw.order, all]
      exact List.mem_range.2 hlt

end Run

/-! ## Compiled surveys -/

/-- No star question stands in the way of a machine: stars can be chosen, or every star question
was submitted. -/
def Unblocked (d : Definition) (maxStars : Nat) (m : Machine) : Prop :=
  1 ≤ maxStars ∨
    ∀ (i : Nat) (q : Question), d.questions[i]? = some q → q.kind = .starRating →
      m.isSubmitted i = true

section Chain

variable {d : Definition} {maxStars : Nat} {manifest : Manifest} {σ : Type} {r : Run σ}

/-- A machine that is not blocked has no step left that counts stars on an empty scale. -/
theorem Unblocked.scale (hf : manifest.Follows d.questions maxStars)
    (hw : r.Walk manifest) (hs : r.Sound manifest) (hu : Unblocked d maxStars r.machine) :
    ∀ t ∈ manifest.steps, t.capture = .starCount → 1 ≤ t.maxStars := by
  intro t ht hc
  obtain ⟨i, hi⟩ := List.mem_iff_getElem?.1 ht
  obtain ⟨q, hq, hkind, hscale⟩ := hf.star_of_capture hi hc
  rcases hu with hpos | hall
  · exact hscale ▸ hpos
  · -- a star question that was submitted had a star chosen for it
    by_contra hzero
    have hlt := (List.getElem?_eq_some_iff.1 hi).1
    have hsub := (hw.isSubmitted_iff hs hlt).1 (hall i q hq hkind)
    apply hw.not_submitted_of_scale hi hc (by omega)
    rw [hw.order]
    exact List.mem_range.2 hsub

/-- A machine that is blocked has such a step. -/
theorem exists_of_not_unblocked (hf : manifest.Follows d.questions maxStars) {m : Machine}
    (hu : ¬ Unblocked d maxStars m) :
    ∃ (i : Nat) (t : Step), manifest.steps[i]? = some t ∧ t.capture = .starCount ∧
      t.maxStars = 0 := by
  unfold Unblocked at hu
  push Not at hu
  obtain ⟨hzero, i, q, hq, hkind, -⟩ := hu
  obtain ⟨t, ht, hc, hscale⟩ := hf.capture_of_star hq hkind
  exact ⟨i, t, ht, hc, by omega⟩

end Chain

/-- **Whether a video is handed back.** Take any definition that compiles, any host, and any calls
so far. Some further calls close the overlay exactly when stars can be chosen or no star question
is left, and whenever it is closed the last two calls of the host have moved the playback and
hidden the overlay. Otherwise the wizard stands before a step for ever, and the host is called for
nothing but events. -/
theorem closed_reachable_iff {render : Renderer} {d : Definition}
    {settings : Settings} {bundle : Overlay.Bundle}
    (h : Overlay.compile render d settings = .ok bundle) {σ : Type} (host : Host σ) (s : σ)
    (calls : List (Call σ)) :
    ∃ survey, d.resolve = .ok survey ∧
      ((∃ more, (Run.of host bundle.manifest s (calls ++ more)).machine.phase = .closed) ↔
        Unblocked d survey.maxStars (Run.of host bundle.manifest s calls).machine) ∧
      (∀ more, (Run.of host bundle.manifest s (calls ++ more)).machine.phase = .closed →
        ∃ filed, (∀ call ∈ filed, HostCall.isTrack call = true) ∧
          hostCalls host bundle.manifest s (calls ++ more) =
            filed ++ [.seekTo survey.video.continueTime, .hide]) ∧
      (¬ Unblocked d survey.maxStars (Run.of host bundle.manifest s calls).machine →
        ∀ more, (∃ index, (Run.of host bundle.manifest s (calls ++ more)).machine.phase =
            .step index) ∧
          ∀ call ∈ hostCalls host bundle.manifest s (calls ++ more), HostCall.isTrack call = true)
    := by
  obtain ⟨survey, hr, hm⟩ := Overlay.compile_manifest h
  have hchain := Overlay.manifestOf_isChain hr settings
  have hfollows := Overlay.manifestOf_follows hr settings
  rw [← hm] at hchain hfollows
  have hstuck (hu : ¬ Unblocked d survey.maxStars (Run.of host bundle.manifest s calls).machine)
      (more : List (Call σ)) : ∃ index,
        (Run.of host bundle.manifest s (calls ++ more)).machine.phase = .step index := by
    obtain ⟨i, t, ht, hc, hscale⟩ := exists_of_not_unblocked hfollows hu
    exact (Run.of_walk hchain s _).phase_step_of_scale ht hc hscale
  have hlogged (more : List (Call σ)) := hostCalls_logged host bundle.manifest s (calls ++ more)
  refine ⟨survey, hr, ⟨?_, ?_⟩, ?_, ?_⟩
  · rintro ⟨more, hclosed⟩
    by_contra hu
    obtain ⟨index, hindex⟩ := hstuck hu more
    cases hclosed.symm.trans hindex
  · intro hu
    have hwalk : Run.Walk bundle.manifest (Run.of host bundle.manifest s calls) :=
      Run.of_walk hchain s calls
    have hscale := hu.scale hfollows hwalk (Run.of_sound s calls)
    have hle : (Run.of host bundle.manifest s calls).submissions.length ≤
        bundle.manifest.steps.length := by
      cases hwalk.place with
      | before left phase timer => exact Nat.le_of_lt left
      | behind all closing still moved => exact Nat.le_of_eq all
    have hbehind : ∃ more, (Run.of host bundle.manifest s (calls ++ more)).submissions.length =
        bundle.manifest.steps.length :=
      Run.exists_behind hchain hscale s _ calls (Nat.add_sub_of_le hle)
    obtain ⟨more, hmore⟩ := hbehind
    refine ⟨more ++ [⟨id, .advance latest⟩], ?_⟩
    rw [← List.append_assoc, Run.of_append]
    exact (Run.of_walk hchain s _).closed_of_advance hmore
  · intro more hclosed
    obtain ⟨filed, hfiled, hlog⟩ := hlogged more
    have hsound : Run.Sound bundle.manifest (Run.of host bundle.manifest s (calls ++ more)) :=
      Run.of_sound s (calls ++ more)
    refine ⟨filed, hfiled, ?_⟩
    rw [hlog, Machine.handBackCalls_closed hclosed, hsound.manifest_eq, hm]
    rfl
  · intro hu more
    obtain ⟨index, hindex⟩ := hstuck hu more
    obtain ⟨filed, hfiled, hlog⟩ := hlogged more
    rw [Machine.handBackCalls_of_ne (by rw [hindex]; rintro ⟨⟩), List.append_nil] at hlog
    exact ⟨⟨index, hindex⟩, hlog ▸ hfiled⟩

/-- A star question on an empty scale holds the video for ever; on the default scale it does
not. -/
theorem closed_reachable_iff_one_star_question :
    let d : Definition := { Definition.blank with questions := [.starRating "How was it?"] }
    let empty : Definition := { d with starScale := ⟨some 0⟩ }
    (∃ bundle, Overlay.compile Overlay.Pages.templates empty .standard = .ok bundle ∧
      ∀ more, ∃ index,
        (Run.of recordingHost bundle.manifest .start more).machine.phase = .step index) ∧
    ∃ bundle, Overlay.compile Overlay.Pages.templates d .standard = .ok bundle ∧
      ∃ more, (Run.of recordingHost bundle.manifest .start more).machine.phase = .closed := by
  intro d empty
  constructor
  · obtain ⟨bundle, hb⟩ := (Overlay.Pages.compile_templates empty .standard).2 ⟨_, rfl⟩
    obtain ⟨survey, hr, -, -, hstuck⟩ := closed_reachable_iff hb recordingHost .start []
    refine ⟨bundle, hb, fun more => (hstuck ?_ more).1⟩
    obtain ⟨survey', hr', hm⟩ := Overlay.compile_manifest hb
    cases hr
    cases hr'
    rintro (hpos | hall)
    · cases hpos
    · have hfalse := hall 0 _ rfl rfl
      rw [hm] at hfalse
      revert hfalse
      decide +kernel
  · obtain ⟨bundle, hb⟩ := (Overlay.Pages.compile_templates d .standard).2 ⟨_, rfl⟩
    obtain ⟨survey, hr, hiff, -⟩ := closed_reachable_iff hb recordingHost .start []
    cases hr
    exact ⟨bundle, hb, hiff.2 (.inl (by decide +kernel))⟩

end VideoSurvey.Wizard
