import VideoSurvey.Proofs.Overlay.Compilation
import VideoSurvey.Proofs.Wizard.Closing
import VideoSurvey.Proofs.Wizard.History
import VideoSurvey.Proofs.Wizard.Safety
import Mathlib.Data.List.GetD

/-!
# A walk along a chain of steps

The manifests that surveys are compiled to lead from one step to the next. `Run.Walk` is what every
run of such a manifest keeps, whatever is clicked and in whatever order: as many of the first steps
are submitted as there were submissions, the machine stands before the next one or behind the last,
its lists hold the answers that were taken last, and its clock is the time that was asked for.
-/

set_option autoImplicit false

namespace VideoSurvey.Wizard

open Overlay (Manifest Step Transition)

/-- An entry of a list in which one was set. -/
theorem getD_set {α : Type} (l : List α) (i j : Nat) (a d : α) (hi : i < l.length) :
    (l.set i a).getD j d = if i = j then a else l.getD j d := by
  rw [List.getD_eq_getElem?_getD, List.getElem?_set, List.getD_eq_getElem?_getD]
  by_cases h : i = j
  · rw [if_pos h, if_pos hi, if_pos h]
    rfl
  · rw [if_neg h, if_neg h]

namespace Machine

variable {m : Machine} {step : Nat} {s : Step}

/-- What is captured is the present answer, and a step that waits for a star has one. -/
theorem captured?_eq_some {value : Captured} (h : m.captured? step s = some value) :
    (s.capture = .starCount → value = .feedback (starsText (m.selectedStars step)) ∧
        (s.guard = .starSelected → m.selectedStars step ≠ 0)) ∧
      (s.capture = .textInput → value = .text (m.enteredText step)) := by
  unfold captured? at h
  cases hc : s.capture with
  | starCount =>
      rw [hc] at h
      by_cases hg : s.guard = .starSelected ∧ m.selectedStars step = 0
      · simp [hg.1, hg.2] at h
      · have hg' : ¬ (s.guard = .starSelected && m.selectedStars step = 0) = true := by
          simpa using hg
        simp only [if_neg hg'] at h
        cases h
        refine ⟨fun _ => ⟨rfl, fun hguard hzero => hg ⟨hguard, hzero⟩⟩, ?_⟩
        rintro ⟨⟩
  | textInput =>
      rw [hc] at h
      cases h
      refine ⟨?_, fun _ => rfl⟩
      rintro ⟨⟩

end Machine

/-! ## What every run keeps -/

namespace Run

variable {σ : Type} {host : Host σ} {manifest : Manifest}

/-- A run stands before the next step, or behind the last. -/
inductive Place (manifest : Manifest) (r : Run σ) : Prop where
  | before (left : r.submissions.length < manifest.steps.length)
      (phase : r.machine.phase = .step r.submissions.length) (timer : r.machine.timer = none)
  | behind (all : r.submissions.length = manifest.steps.length)
      (closing : r.machine.ClosingSince (shownAt r.history))
      (still : (sinceSubmission r.history).any Entry.isAdvance = false →
        r.machine.phase = .thankYou)
      (moved : (sinceSubmission r.history).any Entry.isAdvance = true →
        r.machine.phase = .thankYou → r.machine.now < r.machine.messageEnd (shownAt r.history))

/-- The machine's lists hold the answers that were taken last, the stars on their scale. -/
structure Answers (manifest : Manifest) (r : Run σ) : Prop where
  stars : ∀ step, r.machine.selectedStars step = (chosen? r.history step).getD 0
  texts : ∀ step, r.machine.enteredText step = (typed? r.history step).getD ""
  scale : ∀ step count, chosen? r.history step = some count →
    ∃ s, manifest.steps[step]? = some s ∧ 1 ≤ count ∧ count ≤ s.maxStars

/-- What every run along a chain keeps. -/
structure Walk (manifest : Manifest) (r : Run σ) : Prop where
  clock : r.machine.now = elapsed r.history
  order : r.submissions = List.range r.submissions.length
  place : Place manifest r
  answers : Answers manifest r
  answered : ∀ step ∈ r.submissions, ∀ s, manifest.steps[step]? = some s →
    s.capture = .starCount → ∃ count, chosen? r.history step = some count

/-- Only the next step can be active. -/
theorem Place.of_active {r : Run σ} (hp : Place manifest r) {step : Nat} {s : Step}
    (ha : r.machine.active? step = some s) :
    step = r.submissions.length ∧ r.submissions.length < manifest.steps.length ∧
      r.machine.phase = .step r.submissions.length ∧ r.machine.timer = none := by
  cases hp with
  | before left phase timer =>
      have hphase := (Machine.active?_eq_some_iff.1 ha).1
      rw [phase] at hphase
      exact ⟨(Phase.step.inj hphase).symm, left, phase, timer⟩
  | behind all closing still moved =>
      rw [closing.active?_eq_none step] at ha
      cases ha

/-- Following a transition leads to the next step, or shows the closing message. -/
theorem Place.enter (r : Run σ) {m : Machine} {h : σ} {e : Entry} {step : Nat}
    (hm : m.manifest = manifest) (htimer : m.timer = none)
    (hclock : m.now = elapsed (r.history ++ [e])) (he : e.submitted? = some step)
    (hleft : r.submissions.length < manifest.steps.length) :
    Place manifest
      ⟨m.enter (.after r.submissions.length manifest.steps.length), h, r.history ++ [e]⟩ := by
  have hlen : (⟨m.enter (.after r.submissions.length manifest.steps.length), h,
      r.history ++ [e]⟩ : Run σ).submissions.length = r.submissions.length + 1 := by
    rw [submissions_append, he, List.length_append]
    rfl
  unfold Transition.after at hlen ⊢
  by_cases hnext : r.submissions.length + 1 < manifest.steps.length
  · rw [if_pos hnext] at hlen ⊢
    have e' : m.enter (.step (r.submissions.length + 1) (Overlay.stepId (r.submissions.length + 2)))
        = { m with phase := .step (r.submissions.length + 1) } := if_pos (hm ▸ hnext)
    refine .before ?_ ?_ ?_
    · rw [hlen]
      exact hnext
    · rw [hlen, e']
    · rw [e']
      exact htimer
  · rw [if_neg hnext] at hlen ⊢
    -- the last step: the closing message is shown at the time of this submission
    have hshown : shownAt (r.history ++ [e]) = m.now := by
      unfold shownAt
      rw [untilSubmission_append_of_some he, hclock]
    have hsince := sinceSubmission_append_of_some he r.history
    refine .behind ?_ ?_ ?_ ?_
    · rw [hlen]
      omega
    · show Machine.ClosingSince (shownAt (r.history ++ [e])) m.showThankYou
      rw [hshown]
      exact Machine.closingSince_showThankYou (hclock ▸ elapsed_le_latest _)
    · intro _
      rfl
    · intro h
      rw [hsince] at h
      cases h

theorem start_walk (hchain : manifest.IsChain) (h : σ) :
    Walk manifest (⟨Machine.start manifest, h, []⟩ : Run σ) := by
  have hstars : (Machine.start manifest).stars = List.replicate manifest.steps.length 0 :=
    (Machine.enter_keeps _ manifest.initial).2.2.1
  have htexts : (Machine.start manifest).inputs = List.replicate manifest.steps.length "" :=
    (Machine.enter_keeps _ manifest.initial).2.2.2.1
  refine ⟨(Machine.enter_keeps _ manifest.initial).2.2.2.2, rfl, ?_, ⟨?_, ?_, ?_⟩, ?_⟩
  · -- without any step the closing message is shown from the beginning
    by_cases hn : manifest.steps.length = 0
    · have e : manifest.initial = .thankYou := by
        rw [hchain.initial]
        exact if_pos hn
      refine .behind hn.symm ?_ ?_ ?_
      · show Machine.ClosingSince 0 (Machine.enter _ manifest.initial)
        rw [e]
        exact .thankYou rfl rfl (Nat.zero_le _)
      · intro _
        show (Machine.enter _ manifest.initial).phase = .thankYou
        rw [e]
        rfl
      · rintro ⟨⟩
    · have e : manifest.initial = .step 0 (Overlay.stepId 1) := by
        rw [hchain.initial]
        exact if_neg hn
      have hpos : 0 < manifest.steps.length := Nat.pos_of_ne_zero hn
      refine .before hpos ?_ ?_
      · show (Machine.enter _ manifest.initial).phase = .step 0
        rw [e]
        simp [Machine.enter, hpos]
      · show (Machine.enter _ manifest.initial).timer = none
        rw [e]
        simp [Machine.enter, hpos]
  · intro step
    show (Machine.start manifest).stars.getD step 0 = 0
    rw [hstars, List.getD_eq_getElem?_getD, List.getElem?_getD_replicate_default_eq]
  · intro step
    show (Machine.start manifest).inputs.getD step "" = ""
    rw [htexts, List.getD_eq_getElem?_getD, List.getElem?_getD_replicate_default_eq]
  · rintro step count ⟨⟩
  · intro step hstep
    cases hstep

/-- A visitor's call that submits nothing leaves the place, if the machine is left where it is. -/
theorem Place.idle {r : Run σ} (hp : Place manifest r) {m : Machine} {h : σ} {e : Entry}
    (hm : m = r.machine) (hsub : e.submitted? = none) (hadv : e.isAdvance = false) :
    Place manifest ⟨m, h, r.history ++ [e]⟩ := by
  subst hm
  have hlen : (⟨r.machine, h, r.history ++ [e]⟩ : Run σ).submissions.length =
      r.submissions.length := by
    rw [submissions_append_of_none _ _ _ hsub]
  have hshown : shownAt (r.history ++ [e]) = shownAt r.history := by
    unfold shownAt
    rw [untilSubmission_append_of_none hsub]
  have hany : (sinceSubmission (r.history ++ [e])).any Entry.isAdvance =
      (sinceSubmission r.history).any Entry.isAdvance := by
    rw [sinceSubmission_append_of_none hsub, List.any_append]
    simp [hadv]
  cases hp with
  | before left phase timer => exact .before (hlen ▸ left) (hlen ▸ phase) timer
  | behind all closing still moved =>
      refine .behind (hlen.trans all) ?_ ?_ ?_
      · exact hshown ▸ closing
      · exact hany ▸ still
      · exact hany ▸ hshown ▸ moved

/-- Moving time keeps the place. -/
theorem Place.advance {r : Run σ} (hp : Place manifest r) (ms : Nat) (h h' : σ) (offset : Int)
    (taken : Bool) :
    Place manifest
      ⟨(r.machine.advance host ms h).1, h', r.history ++ [⟨.advance ms, offset, taken⟩]⟩ := by
  have hsub : Entry.submitted? ⟨.advance ms, offset, taken⟩ = none := rfl
  have hlen : (⟨(r.machine.advance host ms h).1, h',
      r.history ++ [⟨.advance ms, offset, taken⟩]⟩ : Run σ).submissions.length =
        r.submissions.length := by
    rw [submissions_append_of_none _ _ _ hsub]
  have hshown : shownAt (r.history ++ [⟨.advance ms, offset, taken⟩]) = shownAt r.history := by
    unfold shownAt
    rw [untilSubmission_append_of_none hsub]
  have hany : (sinceSubmission (r.history ++ [⟨.advance ms, offset, taken⟩])).any Entry.isAdvance =
      true := by
    rw [sinceSubmission_append_of_none hsub, List.any_append]
    exact Bool.or_true _
  cases hp with
  | before left phase timer =>
      refine .before (hlen ▸ left) ?_ ?_
      · rw [hlen, Machine.advance_of_timer_none host timer]
        exact phase
      · rw [Machine.advance_of_timer_none host timer]
        exact timer
  | behind all closing still moved =>
      -- time has moved since the last submission, so from now on the clock decides
      obtain ⟨hc, hm⟩ := closing.advance host ms h
      refine .behind (hlen.trans all) (hshown ▸ hc) ?_ ?_
      · intro hfalse
        rw [hany] at hfalse
        cases hfalse
      · intro _ hphase
        rw [hshown]
        have hmanifest := (r.machine.advance_sameAnswers host ms h).1.manifest
        show (r.machine.advance host ms h).1.now <
          later _ (r.machine.advance host ms h).1.manifest.closing.durationMs
        rw [hmanifest]
        exact hm hphase

/-! ## One more call -/

/-- Only moving time moves the clock. -/
theorem Outcome.clock {r r' : Run σ} {c : Call σ} (ho : Outcome host r c r')
    (h : r.machine.now = elapsed r.history) : r'.machine.now = elapsed r'.history := by
  cases ho with
  | refused visitor =>
      rw [elapsed_append_of_duration (Entry.duration_of_visitor visitor _ _)]
      exact h
  | starred step count s _ _ _ _ _ =>
      rw [elapsed_append_of_duration rfl]
      exact h
  | typed step text s _ _ _ =>
      rw [elapsed_append_of_duration rfl]
      exact h
  | submitted step s value _ _ _ =>
      rw [elapsed_append_of_duration rfl]
      exact (Machine.enter_keeps _ s.next).2.2.2.2.trans h
  | moved ms _ =>
      rw [elapsed_append, ← h]
      rfl

/-- Taken answers are put into the lists, and nothing else is. -/
theorem Answers.outcome {r r' : Run σ} {c : Call σ} (hw : Answers manifest r)
    (hs : Sound manifest r) (ho : Outcome host r c r') : Answers manifest r' := by
  cases ho with
  | refused visitor =>
      refine ⟨?_, ?_, ?_⟩
      · intro j
        rw [chosen?_append_of_none (Entry.stars?_of_refused _ _ j)]
        exact hw.stars j
      · intro j
        rw [typed?_append_of_none (Entry.text?_of_refused _ _ j)]
        exact hw.texts j
      · intro j n
        rw [chosen?_append_of_none (Entry.stars?_of_refused _ _ j)]
        exact hw.scale j n
  | starred step count s operation active capture low high =>
      have hlt : step < r.machine.stars.length := by
        rw [hs.inRange.stars]
        exact hs.inRange.active active
      refine ⟨?_, ?_, ?_⟩
      · intro j
        rw [chosen?_append]
        show (r.machine.stars.set step count).getD j 0 = _
        rw [getD_set _ _ _ _ _ hlt]
        by_cases hj : step = j
        · simp [Entry.stars?, hj]
        · simp only [Entry.stars?, hj, and_false, if_false, Option.none_or]
          exact hw.stars j
      · intro j
        rw [typed?_append_of_none rfl]
        exact hw.texts j
      · intro j n
        rw [chosen?_append]
        by_cases hj : step = j
        · subst hj
          simp only [Entry.stars?, and_self, if_true, Option.some_or]
          rintro ⟨⟩
          exact ⟨s, hs.manifest_eq ▸ (Machine.active?_eq_some_iff.1 active).2.2, low, high⟩
        · simp only [Entry.stars?, hj, and_false, if_false, Option.none_or]
          exact hw.scale j n
  | typed step text s operation active capture =>
      have hlt : step < r.machine.inputs.length := by
        rw [hs.inRange.inputs]
        exact hs.inRange.active active
      refine ⟨?_, ?_, ?_⟩
      · intro j
        rw [chosen?_append_of_none rfl]
        exact hw.stars j
      · intro j
        rw [typed?_append]
        show (r.machine.inputs.set step text).getD j "" = _
        rw [getD_set _ _ _ _ _ hlt]
        by_cases hj : step = j
        · simp [Entry.text?, hj]
        · simp only [Entry.text?, hj, and_false, if_false, Option.none_or]
          exact hw.texts j
      · intro j n
        rw [chosen?_append_of_none rfl]
        exact hw.scale j n
  | submitted step s value operation active captured =>
      obtain ⟨-, -, kstars, kinputs, -⟩ :=
        Machine.enter_keeps { r.machine with submitted := r.machine.submitted.set step true } s.next
      refine ⟨?_, ?_, ?_⟩
      · intro j
        rw [chosen?_append_of_none rfl]
        exact (congrArg (·.getD j 0) kstars).trans (hw.stars j)
      · intro j
        rw [typed?_append_of_none rfl]
        exact (congrArg (·.getD j "") kinputs).trans (hw.texts j)
      · intro j n
        rw [chosen?_append_of_none rfl]
        exact hw.scale j n
  | moved ms operation =>
      have hkeeps := (r.machine.advance_sameAnswers host ms (c.before r.host)).1
      refine ⟨?_, ?_, ?_⟩
      · intro j
        rw [chosen?_append_of_none rfl]
        exact (congrArg (·.getD j 0) hkeeps.stars).trans (hw.stars j)
      · intro j
        rw [typed?_append_of_none rfl]
        exact (congrArg (·.getD j "") hkeeps.inputs).trans (hw.texts j)
      · intro j n
        rw [chosen?_append_of_none rfl]
        exact hw.scale j n

/-- A submission leads to the next place, and every other call keeps the place. -/
theorem Place.outcome {r r' : Run σ} {c : Call σ} (hchain : manifest.IsChain)
    (hp : Place manifest r) (hs : Sound manifest r) (hclock : r.machine.now = elapsed r.history)
    (ho : Outcome host r c r') : Place manifest r' := by
  cases ho with
  | refused visitor =>
      exact hp.idle rfl (Entry.submitted?_of_refused _ _) (Entry.isAdvance_of_visitor visitor _ _)
  | starred step count s operation active capture low high =>
      obtain ⟨-, left, phase, timer⟩ := hp.of_active active
      refine .before ?_ ?_ timer
      · rw [submissions_append_of_none _ _ _ rfl]
        exact left
      · rw [submissions_append_of_none _ _ _ rfl]
        exact phase
  | typed step text s operation active capture =>
      obtain ⟨-, left, phase, timer⟩ := hp.of_active active
      refine .before ?_ ?_ timer
      · rw [submissions_append_of_none _ _ _ rfl]
        exact left
      · rw [submissions_append_of_none _ _ _ rfl]
        exact phase
  | submitted step s value operation active captured =>
      obtain ⟨rfl, left, phase, timer⟩ := hp.of_active active
      have hsteps := (Machine.active?_eq_some_iff.1 active).2.2
      rw [hs.manifest_eq] at hsteps
      rw [hchain.next _ s hsteps]
      refine Place.enter r hs.manifest_eq timer ?_ rfl left
      rw [elapsed_append_of_duration rfl]
      exact hclock
  | moved ms operation => exact hp.advance ms _ _ _ _

/-- A step that waits for a star is not submitted without one. -/
theorem Walk.answered_outcome {r r' : Run σ} {c : Call σ} (hchain : manifest.IsChain)
    (hw : Walk manifest r) (hs : Sound manifest r) (ho : Outcome host r c r') {step : Nat}
    (hstep : step ∈ r'.submissions) {s : Step} (hsteps : manifest.steps[step]? = some s)
    (hcapture : s.capture = .starCount) : ∃ count, chosen? r'.history step = some count := by
  have hbefore : ∃ count, chosen? r.history step = some count := by
    rcases ho.marks with ⟨j, t, value, active, captured, e, -⟩ | ⟨e, -⟩
    · rw [e] at hstep
      rcases List.mem_append.1 hstep with hold | hnew
      · exact hw.answered step hold s hsteps hcapture
      · obtain rfl := List.mem_singleton.1 hnew
        have ht := (Machine.active?_eq_some_iff.1 active).2.2
        rw [hs.manifest_eq] at ht
        obtain rfl := Option.some.inj (hsteps.symm.trans ht)
        -- a submission that was taken found a star, and the lists hold what the history says
        have hguard := hchain.guard s (List.mem_of_getElem? hsteps) hcapture
        have hne := ((Machine.captured?_eq_some captured).1 hcapture).2 hguard
        rw [hw.answers.stars step] at hne
        cases hcount : chosen? r.history step with
        | none =>
            rw [hcount] at hne
            exact absurd rfl hne
        | some count => exact ⟨count, rfl⟩
    · rw [e] at hstep
      exact hw.answered step hstep s hsteps hcapture
  obtain ⟨count, hcount⟩ := hbefore
  obtain ⟨e, he⟩ := ho.history
  rw [he]
  exact chosen?_append_of_some hcount e

/-- **One call keeps the walk.** -/
theorem Walk.outcome {r r' : Run σ} {c : Call σ} (hchain : manifest.IsChain) (hw : Walk manifest r)
    (hs : Sound manifest r) (ho : Outcome host r c r') : Walk manifest r' := by
  refine ⟨ho.clock hw.clock, ?_, hw.place.outcome hchain hs hw.clock ho,
    hw.answers.outcome hs ho, fun _ hj _ ht htc => hw.answered_outcome hchain hs ho hj ht htc⟩
  rcases ho.marks with ⟨step, s, value, active, -, e, -⟩ | ⟨e, -⟩
  · rw [e, (hw.place.of_active active).1, List.length_append]
    show _ = List.range (_ + 1)
    rw [List.range_succ, ← hw.order]
  · rw [e]
    exact hw.order

/-- **Every run along a chain of steps is a walk.** -/
theorem of_walk (hchain : manifest.IsChain) (h : σ) (calls : List (Call σ)) :
    Walk manifest (of host manifest h calls) := by
  -- a walk is kept by calls on a sound run only, so both go through the run together
  have key : Sound manifest (of host manifest h calls) ∧
      Walk manifest (of host manifest h calls) := by
    refine of_outcomes (P := fun r => Sound manifest r ∧ Walk manifest r)
      ⟨start_sound h, start_walk hchain h⟩ ?_
    intro r r' c _ hr ho
    exact ⟨hr.1.outcome ho, hr.2.outcome hchain hr.1 ho⟩
  exact key.2

end Run

end VideoSurvey.Wizard
