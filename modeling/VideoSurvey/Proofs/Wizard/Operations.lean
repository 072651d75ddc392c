import VideoSurvey.Wizard.Machine

/-!
# What an operation does to the wizard

One lemma for each operation says all that the operation can do: `selectStar_cases`,
`inputText_cases` and `submit_cases` tell a refusal, which changes nothing, from a success with
its conditions and its one change, and `enter_cases` tells where a transition leads. Moving time is
told by what it leaves alone and by where it can lead (`advance_sameAnswers`). Later modules cite
these lemmas and do not open the operations.
-/

set_option autoImplicit false

namespace VideoSurvey.Wizard

open Overlay (Manifest Step Transition)

namespace Machine

/-! ## Entering -/

/-- A transition leads to a step that is there, or to the closing message. -/
theorem enter_cases (m : Machine) (t : Transition) :
    (∃ index target, t = .step index target ∧ index < m.manifest.steps.length ∧
        m.enter t = { m with phase := .step index }) ∨
      ((∀ index target, t = .step index target → m.manifest.steps.length ≤ index) ∧
        m.enter t = m.showThankYou) := by
  cases t with
  | step index target =>
      by_cases h : index < m.manifest.steps.length
      · exact .inl ⟨index, target, rfl, h, if_pos h⟩
      · refine .inr ⟨?_, if_neg h⟩
        rintro i t ht
        obtain ⟨rfl, -⟩ := Transition.step.inj ht
        exact Nat.le_of_not_lt h
  | thankYou =>
      refine .inr ⟨?_, rfl⟩
      rintro i t ⟨⟩

/-- Whatever a transition leads to, the rest of the machine stays. -/
theorem enter_keeps (m : Machine) (t : Transition) :
    (m.enter t).manifest = m.manifest ∧ (m.enter t).submitted = m.submitted ∧
      (m.enter t).stars = m.stars ∧ (m.enter t).inputs = m.inputs ∧
      (m.enter t).now = m.now := by
  rcases m.enter_cases t with ⟨index, target, -, -, e⟩ | ⟨-, e⟩
  · rw [e]
    exact ⟨rfl, rfl, rfl, rfl, rfl⟩
  · rw [e]
    exact ⟨rfl, rfl, rfl, rfl, rfl⟩

/-! ## The active step -/

/-- A step is active when the machine stands before it and it was not submitted. -/
theorem active?_eq_some_iff {m : Machine} {step : Nat} {s : Step} :
    m.active? step = some s ↔
      m.phase = .step step ∧ m.isSubmitted step = false ∧ m.manifest.steps[step]? = some s := by
  unfold active?
  cases hp : m.phase with
  | step index =>
      by_cases hi : index = step
      · subst hi
        by_cases hs : m.isSubmitted index = true
        · simp [hs]
        · simp [Bool.not_eq_true _ ▸ hs]
      · simp [hi]
  | thankYou => simp
  | dismissing => simp
  | closed => simp

/-- Only the step that the machine stands before is active. -/
theorem active?_eq_none_of_phase {m : Machine} {step : Nat} (h : m.phase ≠ .step step) :
    m.active? step = none := by
  cases ha : m.active? step with
  | none => rfl
  | some s => exact absurd (active?_eq_some_iff.1 ha).1 h

/-! ## The visitor's operations -/

/-- Choosing stars is refused, or sets the stars of the active step to a number on its scale. -/
theorem selectStar_cases (m : Machine) (step count : Nat) :
    m.selectStar step count = (false, m) ∨
      ∃ s, m.active? step = some s ∧ s.capture = .starCount ∧ 1 ≤ count ∧ count ≤ s.maxStars ∧
        m.selectStar step count = (true, { m with stars := m.stars.set step count }) := by
  unfold selectStar
  cases ha : m.active? step with
  | none => exact .inl rfl
  | some s =>
      by_cases hc : s.capture = .starCount ∧ 1 ≤ count ∧ count ≤ s.maxStars
      · obtain ⟨h1, h2, h3⟩ := hc
        refine .inr ⟨s, rfl, h1, h2, h3, ?_⟩
        simp [h1, h2, h3]
      · refine .inl ?_
        have : ¬ (s.capture = .starCount && 1 ≤ count && count ≤ s.maxStars) = true := by
          simpa [and_assoc] using hc
        simp only [if_neg this]

/-- Giving a text is refused, or sets the text of the active step. -/
theorem inputText_cases (m : Machine) (step : Nat) (value : String) :
    m.inputText step value = (false, m) ∨
      ∃ s, m.active? step = some s ∧ s.capture = .textInput ∧
        m.inputText step value = (true, { m with inputs := m.inputs.set step value }) := by
  unfold inputText
  cases ha : m.active? step with
  | none => exact .inl rfl
  | some s =>
      by_cases hc : s.capture = .textInput
      · exact .inr ⟨s, rfl, hc, if_pos hc⟩
      · exact .inl (if_neg hc)

section Host

variable {σ : Type} (host : Host σ)

/-- Submitting is refused, or files the event of the active step and moves on. -/
theorem submit_cases (m : Machine) (step : Nat) (h : σ) :
    m.submit host step h = (false, m, h) ∨
      ∃ s value, m.active? step = some s ∧ m.captured? step s = some value ∧
        m.submit host step h =
          (true, { m with submitted := m.submitted.set step true }.enter s.next,
            host.track s.analytics.channel
              (eventOf s value ((host.currentTime h).1.getD 0)) (host.currentTime h).2) := by
  unfold submit
  cases ha : m.active? step with
  | none => exact .inl rfl
  | some s =>
      cases hc : m.captured? step s with
      | none =>
          refine .inl ?_
          simp only [hc]
      | some value =>
          refine .inr ⟨s, value, rfl, hc, ?_⟩
          simp only [hc]

/-! ## Moving time -/

/-- The machine after a number of due timers, apart from clock, phase, timer and message. -/
structure SameAnswers (m m' : Machine) : Prop where
  manifest : m'.manifest = m.manifest
  submitted : m'.submitted = m.submitted
  stars : m'.stars = m.stars
  inputs : m'.inputs = m.inputs

theorem SameAnswers.refl (m : Machine) : SameAnswers m m := ⟨rfl, rfl, rfl, rfl⟩

theorem SameAnswers.trans {a b c : Machine} (h : SameAnswers a b) (h' : SameAnswers b c) :
    SameAnswers a c :=
  ⟨h'.manifest.trans h.manifest, h'.submitted.trans h.submitted, h'.stars.trans h.stars,
    h'.inputs.trans h.inputs⟩

/-- A timer leaves the answers alone and leads behind the closing message. -/
theorem fire_sameAnswers (m : Machine) (kind : TimerKind) (h : σ) :
    SameAnswers m (fire host m kind h).1 ∧
      ((fire host m kind h).1.phase = .dismissing ∨ (fire host m kind h).1.phase = .closed) := by
  cases kind with
  | acknowledgmentExpired => exact ⟨⟨rfl, rfl, rfl, rfl⟩, .inl rfl⟩
  | handBack => exact ⟨⟨rfl, rfl, rfl, rfl⟩, .inr rfl⟩

/-- Several timers do the same, or none is due. -/
theorem fireDue_sameAnswers (target count : Nat) (m : Machine) (h : σ) :
    SameAnswers m (fireDue host target count m h).1 ∧
      ((fireDue host target count m h).1.phase = m.phase ∨
        (fireDue host target count m h).1.phase = .dismissing ∨
        (fireDue host target count m h).1.phase = .closed) := by
  -- each timer that fires leaves another machine and another host
  induction count generalizing m h with
  | zero => exact ⟨.refl m, .inl rfl⟩
  | succ count ih =>
      unfold fireDue
      cases ht : m.timer with
      | none => exact ⟨.refl m, .inl rfl⟩
      | some t =>
          by_cases hd : target < t.due
          · simp only [if_pos hd]
            exact ⟨.refl m, .inl trivial⟩
          · simp only [if_neg hd]
            obtain ⟨hs, hp⟩ := fire_sameAnswers host { m with timer := none, now := t.due } t.kind h
            obtain ⟨hs', hp'⟩ := ih (fire host { m with timer := none, now := t.due } t.kind h).1
              (fire host { m with timer := none, now := t.due } t.kind h).2
            refine ⟨SameAnswers.trans ⟨hs.manifest, hs.submitted, hs.stars, hs.inputs⟩ hs', .inr ?_⟩
            rcases hp' with hp' | hp'
            · rw [hp']
              exact hp
            · exact hp'

/-- Moving time leaves the answers alone; the machine stays in its phase or goes on behind the
closing message. -/
theorem advance_sameAnswers (m : Machine) (ms : Nat) (h : σ) :
    SameAnswers m (m.advance host ms h).1 ∧
      ((m.advance host ms h).1.phase = m.phase ∨ (m.advance host ms h).1.phase = .dismissing ∨
        (m.advance host ms h).1.phase = .closed) := by
  obtain ⟨hs, hp⟩ := fireDue_sameAnswers host (later m.now ms) 2 m h
  exact ⟨⟨hs.manifest, hs.submitted, hs.stars, hs.inputs⟩, hp⟩

/-- Without a timer, time moves and nothing else. -/
theorem advance_of_timer_none {m : Machine} (ht : m.timer = none) (ms : Nat) (h : σ) :
    m.advance host ms h = ({ m with now := later m.now ms }, h) := by
  simp [advance, fireDue, ht]

end Host

end Machine

end VideoSurvey.Wizard
