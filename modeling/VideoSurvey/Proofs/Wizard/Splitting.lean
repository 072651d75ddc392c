import VideoSurvey.Proofs.Wizard.Closing

/-!
# Time in parts

`Moves` says how time is moved to a target without any bound on the number of timers: as long as a
timer is due by the target, it fires at its own time, and when none is due any more the clock is
set to the target. A timer starts at most one other, of the other kind, so no more than two fire
(`exists_moves_advance`), and moving time is this process (`moves_advance_iff`).

A timer fires at its own time wherever a move has ended before, so two moves one after the other
are one move (`Moves.trans`).
-/

set_option autoImplicit false

namespace VideoSurvey.Wizard

theorem later_later (time a b : Nat) : later (later time a) b = later time (min (a + b) latest) := by
  unfold later
  omega

namespace Machine

variable {σ : Type} (host : Host σ)

/-- Time moves to a target: these timers fire, and machine and host end up so. -/
inductive Moves (target : Nat) : Machine → σ → List Timer → Machine → σ → Prop
  | arrives {m : Machine} {h : σ} (quiet : ∀ t, m.timer = some t → target < t.due) :
      Moves target m h [] { m with now := target } h
  | fires {m m' : Machine} {h h' : σ} {t : Timer} {fired : List Timer} (timer : m.timer = some t)
      (due : t.due ≤ target)
      (rest : Moves target (fire host { m with timer := none, now := t.due } t.kind h).1
        (fire host { m with timer := none, now := t.due } t.kind h).2 fired m' h') :
      Moves target m h (t :: fired) m' h'

namespace Moves

variable {host}
variable {target : Nat} {m m' : Machine} {h h' : σ} {fired : List Timer}

/-- Time moves in one way only. -/
theorem unique (hm : Moves host target m h fired m' h') {fired₂ : List Timer} {m₂ : Machine}
    {h₂ : σ} (hm₂ : Moves host target m h fired₂ m₂ h₂) : fired₂ = fired ∧ m₂ = m' ∧ h₂ = h' := by
  induction hm generalizing fired₂ with
  | arrives quiet =>
      cases hm₂ with
      | arrives _ => exact ⟨rfl, rfl, rfl⟩
      | fires timer due _ => exact absurd (quiet _ timer) (Nat.not_lt.2 due)
  | fires timer due _ ih =>
      cases hm₂ with
      | arrives quiet => exact absurd (quiet _ timer) (Nat.not_lt.2 due)
      | fires timer₂ _ rest₂ =>
          obtain rfl := Option.some.inj (timer.symm.trans timer₂)
          obtain ⟨rfl, rfl, rfl⟩ := ih rest₂
          exact ⟨rfl, rfl, rfl⟩

/-- Where the clock stands is of no account: a timer sets it, and so does the target. -/
theorem of_now {now : Nat} (hm : Moves host target { m with now := now } h fired m' h') :
    Moves host target m h fired m' h' := by
  cases hm with
  | arrives quiet => exact .arrives quiet
  | fires timer due rest => exact .fires timer due rest

/-- **Two moves one after the other are one move.** -/
theorem trans (hm : Moves host target m h fired m' h') {further : Nat} (hle : target ≤ further)
    {fired₂ : List Timer} {m₂ : Machine} {h₂ : σ} (hm₂ : Moves host further m' h' fired₂ m₂ h₂) :
    Moves host further m h (fired ++ fired₂) m₂ h₂ := by
  induction hm with
  | arrives _ => exact hm₂.of_now
  -- what is due by the first target is due by the second, and fires first in either case
  | fires timer due _ ih => exact .fires timer (Nat.le_trans due hle) (ih hm₂)

end Moves

/-! ## Moving time -/

/-- Moving time fires what is due, and then sets the clock. -/
theorem advance_eq (m : Machine) (ms : Nat) (h : σ) :
    m.advance host ms h =
      ({ (fireDue host (later m.now ms) 2 m h).1 with now := later m.now ms },
        (fireDue host (later m.now ms) 2 m h).2) :=
  rfl

/-- Without a timer the clock is set and no more. -/
theorem moves_of_timer_none {m : Machine} (ht : m.timer = none) (target : Nat) (h : σ) :
    Moves host target m h [] { m with now := target } h := by
  refine .arrives ?_
  intro t h'
  cases ht.symm.trans h'

/-- **Moving time fires the timers that are due, and there are at most two.** -/
theorem exists_moves_advance (m : Machine) (ms : Nat) (h : σ) :
    ∃ fired, fired.length ≤ 2 ∧
      Moves host (later m.now ms) m h fired (m.advance host ms h).1 (m.advance host ms h).2 := by
  rw [advance_eq]
  generalize later m.now ms = target
  cases ht : m.timer with
  | none =>
      have hstill : fireDue host target 2 m h = (m, h) := by simp [fireDue, ht]
      rw [hstill]
      exact ⟨[], Nat.zero_le 2, moves_of_timer_none host ht target h⟩
  | some t =>
      by_cases hd : target < t.due
      · have hstill : fireDue host target 2 m h = (m, h) := by simp [fireDue, ht, hd]
        rw [hstill]
        refine ⟨[], Nat.zero_le 2, .arrives ?_⟩
        intro t' ht'
        obtain rfl := Option.some.inj (ht.symm.trans ht')
        exact hd
      · obtain ⟨due, kind⟩ := t
        have hle : due ≤ target := Nat.le_of_not_lt hd
        cases kind with
        | handBack =>
            refine ⟨[⟨due, .handBack⟩], Nat.le_succ 1, ?_⟩
            simp only [fireDue, ht, if_neg hd, fire]
            exact .fires ht hle (moves_of_timer_none host rfl target _)
        -- the message's timer starts the one behind it, which may be due as well
        | acknowledgmentExpired =>
            by_cases hd' : target < later due m.manifest.closing.transitionDelayMs
            · refine ⟨[⟨due, .acknowledgmentExpired⟩], Nat.le_succ 1, ?_⟩
              simp only [fireDue, ht, if_neg hd, fire, schedule, if_pos hd']
              refine .fires ht hle (.arrives ?_)
              intro t' ht'
              obtain rfl := Option.some.inj ht'
              exact hd'
            · refine ⟨[⟨due, .acknowledgmentExpired⟩,
                ⟨later due m.manifest.closing.transitionDelayMs, .handBack⟩], Nat.le_refl 2, ?_⟩
              simp only [fireDue, ht, if_neg hd, fire, schedule, if_neg hd']
              exact .fires ht hle
                (.fires rfl (Nat.le_of_not_lt hd') (moves_of_timer_none host rfl target _))

/-- **Moving time is what the timers do** that are due, however many might be. -/
theorem moves_advance_iff (m : Machine) (ms : Nat) (h : σ) :
    ∃ fired, fired.length ≤ 2 ∧ ∀ fired' m' h',
      Moves host (later m.now ms) m h fired' m' h' ↔
        fired' = fired ∧ (m', h') = m.advance host ms h := by
  obtain ⟨fired, hle, hm⟩ := exists_moves_advance host m ms h
  refine ⟨fired, hle, fun fired' m' h' => ⟨?_, ?_⟩⟩
  · intro hm'
    obtain ⟨rfl, rfl, rfl⟩ := hm.unique hm'
    exact ⟨rfl, rfl⟩
  · rintro ⟨rfl, he⟩
    rw [← he] at hm
    exact hm

/-- **How time is cut makes no difference.** For every machine, whether a run leads to it or not,
and every host: moving time twice leaves machine and host as moving it once by the sum does, and
the host is called in the same way. And each time the timers that are due come to an end: if they
are fired as long as one is due, there is one way to go on, at most two of them fire, and machine
and host end up where moving time leaves them. -/
theorem advance_in_parts (m : Machine) (h : σ) (a b : Nat) :
    (m.advance host a h).1.advance host b (m.advance host a h).2 =
        m.advance host (min (a + b) latest) h ∧
      ∀ ms, ∃ fired, fired.length ≤ 2 ∧ ∀ fired' m' h',
        Moves host (later m.now ms) m h fired' m' h' ↔
          fired' = fired ∧ (m', h') = m.advance host ms h := by
  refine ⟨?_, fun ms => moves_advance_iff host m ms h⟩
  obtain ⟨fired, -, hfirst⟩ := exists_moves_advance host m a h
  obtain ⟨fired', -, hsecond⟩ :=
    exists_moves_advance host (m.advance host a h).1 b (m.advance host a h).2
  obtain ⟨fired'', -, hwhole⟩ := exists_moves_advance host m (min (a + b) latest) h
  have hnow : (m.advance host a h).1.now = later m.now a := rfl
  rw [hnow, later_later] at hsecond
  have hle : later m.now a ≤ later m.now (min (a + b) latest) := by
    unfold later
    omega
  obtain ⟨-, hmachine, hhost⟩ := hwhole.unique (hfirst.trans hle hsecond)
  exact Prod.ext hmachine hhost

end Machine

end VideoSurvey.Wizard
