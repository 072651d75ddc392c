import VideoSurvey.Proofs.Wizard.Operations

/-!
# Closing the overlay

When the closing message has been shown at a time `t`, the two deadlines are fixed: it is taken
away at `t` plus its duration, and the overlay closes a further delay later, both at most the
latest time. `Machine.ClosingSince t` says where the machine stands between the deadlines.
Moving time keeps it, however far (`ClosingSince.advance`), and nothing else moves such a machine.
Once time has moved at all, the clock alone tells where (`ClosingSince.phase_eq`).
-/

set_option autoImplicit false

namespace VideoSurvey.Wizard

open Overlay (Manifest)

theorem later_le_latest (time delay : Nat) : later time delay ≤ latest := Nat.min_le_right _ _

theorem le_later {time : Nat} (h : time ≤ latest) (delay : Nat) : time ≤ later time delay := by
  unfold later
  omega

/-- Where a machine stands at a time, by the time at which the closing message was shown. -/
def closingPhase (duration delay shown now : Nat) : Phase :=
  if now < later shown duration then .thankYou
  else if now < later (later shown duration) delay then .dismissing
  else .closed

namespace Machine

/-! ## Between the deadlines -/

/-- When the closing message that was shown at a time is taken away. -/
def messageEnd (m : Machine) (t : Nat) : Nat := later t m.manifest.closing.durationMs

/-- When an overlay whose closing message was shown at a time is closed. -/
def overlayEnd (m : Machine) (t : Nat) : Nat :=
  later (m.messageEnd t) m.manifest.closing.transitionDelayMs

/-- Where a machine may stand whose closing message was shown at a time. -/
inductive ClosingSince (t : Nat) (m : Machine) : Prop where
  | thankYou (phase : m.phase = .thankYou)
      (timer : m.timer = some ⟨m.messageEnd t, .acknowledgmentExpired⟩)
      (now : m.now ≤ m.messageEnd t)
  | dismissing (phase : m.phase = .dismissing)
      (timer : m.timer = some ⟨m.overlayEnd t, .handBack⟩)
      (since : m.messageEnd t ≤ m.now) (now : m.now < m.overlayEnd t)
  | closed (phase : m.phase = .closed) (timer : m.timer = none) (since : m.overlayEnd t ≤ m.now)

theorem messageEnd_le_overlayEnd (m : Machine) (t : Nat) : m.messageEnd t ≤ m.overlayEnd t :=
  le_later (later_le_latest _ _) _

/-- Showing the closing message starts the time between the deadlines. -/
theorem closingSince_showThankYou {m : Machine} (h : m.now ≤ latest) :
    ClosingSince m.now m.showThankYou :=
  .thankYou rfl rfl (le_later h _)

section Host

variable {σ : Type} (host : Host σ)

/-- The timer behind the closing message that has gone. -/
theorem advance_handBack {m : Machine} {b : Nat}
    (ht : m.timer = some ⟨b, .handBack⟩) (ms : Nat) (h : σ) :
    (later m.now ms < b ∧
        (m.advance host ms h).1 = { m with now := later m.now ms }) ∨
      (b ≤ later m.now ms ∧
        (m.advance host ms h).1 =
          { m with phase := .closed, timer := none, now := later m.now ms }) := by
  by_cases hd : later m.now ms < b
  · exact .inl ⟨hd, by simp [advance, fireDue, ht, hd]⟩
  · exact .inr ⟨Nat.le_of_not_lt hd, by simp [advance, fireDue, ht, hd, fire]⟩

/-- **Moving time keeps to the deadlines.** Once time has moved, the closing message is shown
only before its end. -/
theorem ClosingSince.advance {m : Machine} {t : Nat} (hc : m.ClosingSince t) (ms : Nat) (h : σ) :
    (m.advance host ms h).1.ClosingSince t ∧
      ((m.advance host ms h).1.phase = .thankYou →
        (m.advance host ms h).1.now < m.messageEnd t) := by
  have hle : m.messageEnd t ≤ m.overlayEnd t := m.messageEnd_le_overlayEnd t
  have hlatest : m.overlayEnd t ≤ latest := later_le_latest _ _
  cases hc with
  | thankYou hp ht hn =>
      by_cases hd : later m.now ms < m.messageEnd t
      · have e : (m.advance host ms h).1 = { m with now := later m.now ms } := by
          simp [Machine.advance, fireDue, ht, hd]
        rw [e]
        exact ⟨.thankYou hp ht (Nat.le_of_lt hd), fun _ => hd⟩
      · -- the first timer starts the second at its own time, not at the end of the move
        -- so one move may end at either side of the second deadline
        by_cases hd' : later m.now ms < m.overlayEnd t
        · have e : (m.advance host ms h).1 =
              { m with
                phase := .dismissing
                acknowledgmentVisible := false
                timer := some ⟨m.overlayEnd t, .handBack⟩
                now := later m.now ms } := by
            have hd'' : later m.now ms < later (m.messageEnd t)
              m.manifest.closing.transitionDelayMs := hd'
            simp [Machine.advance, fireDue, ht, hd, fire, schedule, hd'', overlayEnd]
          rw [e]
          refine ⟨.dismissing rfl rfl (Nat.le_of_not_lt hd) hd', ?_⟩
          rintro ⟨⟩
        · have e : (m.advance host ms h).1 =
              { m with
                phase := .closed
                acknowledgmentVisible := false
                timer := none
                now := later m.now ms } := by
            have hd'' : ¬ later m.now ms < later (m.messageEnd t)
              m.manifest.closing.transitionDelayMs := hd'
            simp [Machine.advance, fireDue, ht, hd, fire, schedule, hd'']
          rw [e]
          refine ⟨.closed rfl rfl (Nat.le_of_not_lt hd'), ?_⟩
          rintro ⟨⟩
  | dismissing hp ht hs hn =>
      have hmono : m.now ≤ later m.now ms := le_later (by omega) ms
      rcases advance_handBack host ht ms h with ⟨hd, e⟩ | ⟨hd, e⟩
      · rw [e]
        refine ⟨.dismissing hp ht (Nat.le_trans hs hmono) hd, ?_⟩
        intro h'
        rw [hp] at h'
        cases h'
      · rw [e]
        refine ⟨.closed rfl rfl hd, ?_⟩
        rintro ⟨⟩
  -- no timer is left, and time does not go back
  | closed hp ht hs =>
      rw [advance_of_timer_none host ht]
      refine ⟨.closed hp ht ?_, ?_⟩
      · show m.overlayEnd t ≤ min (m.now + ms) latest
        omega
      · intro h'
        rw [hp] at h'
        cases h'

end Host

/-- **The clock tells where the machine stands,** unless the message is still shown at its end. -/
theorem ClosingSince.phase_eq {m : Machine} {t : Nat} (hc : m.ClosingSince t)
    (hmoved : m.phase = .thankYou → m.now < m.messageEnd t) :
    m.phase = closingPhase m.manifest.closing.durationMs m.manifest.closing.transitionDelayMs t
      m.now := by
  have hle := m.messageEnd_le_overlayEnd t
  show m.phase = if m.now < m.messageEnd t then .thankYou
    else if m.now < m.overlayEnd t then .dismissing else .closed
  cases hc with
  | thankYou hp _ _ => rw [hp, if_pos (hmoved hp)]
  | dismissing hp _ hs hn => rw [hp, if_neg (Nat.not_lt.2 hs), if_pos hn]
  | closed hp _ hs =>
      have hm : ¬ m.now < m.messageEnd t := by omega
      rw [hp, if_neg hm, if_neg (Nat.not_lt.2 hs)]

/-- Behind the steps no step is active. -/
theorem ClosingSince.active?_eq_none {m : Machine} {t : Nat} (hc : m.ClosingSince t) (step : Nat) :
    m.active? step = none := by
  refine active?_eq_none_of_phase ?_
  intro h
  cases hc with
  | thankYou hp _ _ =>
      rw [hp] at h
      cases h
  | dismissing hp _ _ _ =>
      rw [hp] at h
      cases h
  | closed hp _ _ =>
      rw [hp] at h
      cases h

end Machine

end VideoSurvey.Wizard
