import VideoSurvey.Proofs.Overlay.Codec
import VideoSurvey.Proofs.Wizard.Record

/-!
# The armed control and the submission

Whether a step can be submitted is asked in two places: the control is armed by the step's guard
alone, and the submission looks at the guard where stars are captured. They agree unless a step waits
for stars that it does not capture (`Step.WaitsInVain`): no star is ever taken for such a step, so
its control is never armed, and yet it is submitted (`submit_taken_iff_armed`). The manifests of
surveys have no such step, but a manifest that is read may have one (`submit_unarmed`).
-/

set_option autoImplicit false

namespace VideoSurvey

open Overlay (Manifest Step)

/-- A step that waits for stars and captures a text. -/
def Overlay.Step.WaitsInVain (s : Step) : Prop := s.guard = .starSelected ∧ s.capture = .textInput

namespace Wizard

namespace Machine

variable {m : Machine} {step : Nat} {s : Step}

/-! ## The two conditions -/

/-- The control is armed when the guard of the active step has what it waits for. -/
theorem isSubmitArmed_of_active (ha : m.active? step = some s) :
    m.isSubmitArmed step = true ↔ (s.guard = .starSelected → 0 < m.selectedStars step) := by
  unfold isSubmitArmed
  rw [ha]
  cases hg : s.guard with
  | starSelected => simp [hg]
  | always => simp [hg]

/-- A step captures enough, unless it counts stars, waits for one and has none. -/
theorem captured?_isSome_iff :
    (m.captured? step s).isSome = true ↔
      (s.capture = .starCount → s.guard = .starSelected → 0 < m.selectedStars step) := by
  unfold captured?
  cases hc : s.capture with
  | starCount =>
      by_cases h : s.guard = .starSelected ∧ m.selectedStars step = 0
      · simp [h.1, h.2]
      · have h' : ¬ (s.guard = .starSelected && m.selectedStars step = 0) = true := by simpa using h
        simp only [if_neg h', Option.isSome_some, true_iff, forall_const]
        intro hg
        exact Nat.pos_of_ne_zero fun h0 => h ⟨hg, h0⟩
  | textInput => simp

/-- The two conditions are one, unless the step waits in vain. -/
theorem captured?_isSome_iff_isSubmitArmed (ha : m.active? step = some s) (hs : ¬ s.WaitsInVain) :
    (m.captured? step s).isSome = true ↔ m.isSubmitArmed step = true := by
  rw [captured?_isSome_iff, isSubmitArmed_of_active ha]
  refine ⟨?_, fun h _ => h⟩
  intro h hg
  cases hc : s.capture with
  | starCount => exact h hc hg
  | textInput => exact absurd ⟨hg, hc⟩ hs

/-- A step that waits in vain captures enough. -/
theorem captured?_of_waitsInVain (hs : s.WaitsInVain) : (m.captured? step s).isSome = true := by
  rw [captured?_isSome_iff, hs.2]
  rintro ⟨⟩

/-- No stars are chosen for a step that captures a text. -/
def StarsFit (m : Machine) : Prop :=
  ∀ step s, m.manifest.steps[step]? = some s → s.capture = .textInput → m.selectedStars step = 0

/-- The control of a step that waits in vain is not armed. -/
theorem StarsFit.isSubmitArmed_of_waitsInVain (hm : m.StarsFit) (ha : m.active? step = some s)
    (hs : s.WaitsInVain) : m.isSubmitArmed step = false := by
  rw [← Bool.not_eq_true, isSubmitArmed_of_active ha]
  intro h
  have hzero := hm step s (active?_eq_some_iff.1 ha).2.2 hs.2
  exact absurd hzero (Nat.ne_of_gt (h hs.1))

/-- A machine with the same manifest and the same stars fits as well. -/
theorem StarsFit.congr {m' : Machine} (hm : m.StarsFit) (hmanifest : m'.manifest = m.manifest)
    (hstars : m'.stars = m.stars) : m'.StarsFit := by
  intro step s hs hc
  rw [hmanifest] at hs
  exact (congrArg (·.getD step 0) hstars).trans (hm step s hs hc)

section Host

variable {σ : Type} (host : Host σ)

/-- A submission is taken when the active step has captured enough. -/
theorem submit_taken_iff (m : Machine) (step : Nat) (h : σ) :
    (m.submit host step h).1 = true ↔
      ∃ s, m.active? step = some s ∧ (m.captured? step s).isSome = true := by
  unfold submit
  cases ha : m.active? step with
  | none => simp
  | some s =>
      cases hc : m.captured? step s with
      | none => simp [hc]
      | some value => simp [hc]

/-- Without an active step that waits in vain, the submission and the control agree. -/
theorem submit_taken_iff_isSubmitArmed (hm : ∀ s, m.active? step = some s → ¬ s.WaitsInVain)
    (h : σ) : (m.submit host step h).1 = true ↔ m.isSubmitArmed step = true := by
  rw [submit_taken_iff]
  cases ha : m.active? step with
  | none => simp [isSubmitArmed, ha]
  | some s =>
      rw [← captured?_isSome_iff_isSubmitArmed ha (hm s ha)]
      simp

end Host

end Machine

/-! ## Over a run -/

namespace Run

variable {σ : Type} {host : Host σ} {manifest : Manifest}

theorem start_starsFit (manifest : Manifest) : (Machine.start manifest).StarsFit := by
  intro step s _ _
  have hstars : (Machine.start manifest).stars = List.replicate manifest.steps.length 0 :=
    (Machine.enter_keeps _ manifest.initial).2.2.1
  unfold Machine.selectedStars
  rw [hstars, List.getD_eq_getElem?_getD, List.getElem?_getD_replicate_default_eq]

/-- **One call chooses no stars for a step that captures a text.** -/
theorem Outcome.starsFit {r r' : Run σ} {c : Call σ} (ho : Outcome host r c r')
    (hr : r.machine.StarsFit) : r'.machine.StarsFit := by
  cases ho with
  | refused _ => exact hr
  | starred step count s _ active capture _ _ =>
      intro j t ht hc
      have hs := (Machine.active?_eq_some_iff.1 active).2.2
      by_cases hj : step = j
      · -- the step that was starred captures stars
        subst hj
        obtain rfl := Option.some.inj (hs.symm.trans ht)
        cases capture.symm.trans hc
      · refine Eq.trans ?_ (hr j t ht hc)
        show (r.machine.stars.set step count).getD j 0 = r.machine.stars.getD j 0
        rw [List.getD_eq_getElem?_getD, List.getElem?_set_ne hj, ← List.getD_eq_getElem?_getD]
  | typed step text s _ _ _ => exact hr
  | submitted step s value _ _ _ =>
      obtain ⟨hmanifest, -, hstars, -, -⟩ := Machine.enter_keeps
        { r.machine with submitted := r.machine.submitted.set step true } s.next
      exact hr.congr hmanifest hstars
  | moved ms _ =>
      have hsame := (r.machine.advance_sameAnswers host ms (c.before r.host)).1
      exact hr.congr hsame.manifest hsame.stars

/-- **In every run only steps that capture stars have some.** -/
theorem of_starsFit (host : Host σ) (manifest : Manifest) (h : σ) (calls : List (Call σ)) :
    (of host manifest h calls).machine.StarsFit :=
  of_outcomes (P := fun r => r.machine.StarsFit) (start_starsFit manifest)
    fun _ _ _ _ hr ho => ho.starsFit hr

end Run

/-- **A submission is taken exactly when the control is armed, but for a step that waits in vain.**
After any calls on the machine of any manifest, a submission that is taken files one event, and one
that is refused files none. Where the active step waits for stars and captures a text, the submission
is taken though the control is not armed. -/
theorem submit_taken_iff_armed {σ : Type} (host : Host σ) (manifest : Manifest) (h : σ)
    (calls : List (Call σ)) (step : Nat) (now : σ) (log : List HostCall) :
    let m := (Run.of host manifest h calls).machine
    ((∀ s, m.active? step = some s → ¬ s.WaitsInVain) →
        ((m.submit host step now).1 = true ↔ m.isSubmitArmed step = true)) ∧
      (∀ s, m.active? step = some s → s.WaitsInVain →
        (m.submit host step now).1 = true ∧ m.isSubmitArmed step = false) ∧
      ∃ filed, m.submit host.traced step (now, log) =
          ((m.submit host step now).1, (m.submit host step now).2.1,
            (m.submit host step now).2.2, log ++ filed) ∧
        filed.countP HostCall.isTrack = if (m.submit host step now).1 then 1 else 0 := by
  intro m
  refine ⟨fun hm => Machine.submit_taken_iff_isSubmitArmed host hm now, ?_, ?_⟩
  · intro s ha hs
    exact ⟨(Machine.submit_taken_iff host m step now).2
        ⟨s, ha, Machine.captured?_of_waitsInVain hs⟩,
      (Run.of_starsFit host manifest h calls).isSubmitArmed_of_waitsInVain ha hs⟩
  · obtain ⟨filed, e, hcount⟩ := run_traced host (.submit step) m now log 0
    refine ⟨filed, e, hcount.trans ?_⟩
    show (Entry.submitted? ⟨.submit step, 0, (m.submit host step now).1⟩).toList.length = _
    cases (m.submit host step now).1 with
    | false => rfl
    | true => rfl

/-- A manifest can be read whose step is submitted while its control is not armed. -/
theorem submit_unarmed :
    ¬ ∀ (text : String) (manifest : Manifest) (calls : List (Int × Operation)) (step : Nat),
      Manifest.decoder.ofText text = .ok manifest →
        let r := Run.of recordingHost manifest Recording.start (calls.map Call.recording)
        ((r.machine.submit recordingHost step r.host).1 = true ↔
          r.machine.isSubmitArmed step = true) := by
  intro h
  let waiting : Step :=
    { stepId := "question-1", submitId := "submit-1", guard := .starSelected, capture := .textInput
      maxStars := 5, analytics := ⟨"q1", "Question 1", "Feedback", "BW", "customform"⟩
      next := .thankYou }
  let manifest : Manifest :=
    ⟨"done", .step 0 "question-1", [waiting], ⟨"thank-you-step", 3000, 300, 8000⟩⟩
  have hfits : manifest.Fits :=
    ⟨Nat.zero_le _, List.forall_mem_singleton.2 ⟨by decide, trivial⟩, by decide, by decide,
      by decide⟩
  have hagree := h _ manifest [] 0 (Manifest.ofText_compactText hfits)
  revert hagree
  decide

end Wizard

end VideoSurvey
