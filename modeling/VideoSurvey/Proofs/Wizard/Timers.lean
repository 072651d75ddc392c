import VideoSurvey.Proofs.Wizard.Runs

/-!
# Timers and host calls

In every run of every manifest the phase tells which timer runs (`Machine.TimerFits`), and so which
calls the host has had: events are filed while the machine goes through its steps, and once it is
closed two calls more have moved the playback and hidden the overlay (`Run.Handed`).
-/

set_option autoImplicit false

namespace VideoSurvey.Wizard

open Overlay (Manifest Step)

namespace Machine

/-- The timer that runs in a phase. -/
def TimerFits (m : Machine) : Prop :=
  match m.phase with
  | .step _ => m.timer = none
  | .thankYou => ∃ due, m.timer = some ⟨due, .acknowledgmentExpired⟩
  | .dismissing => ∃ due, m.timer = some ⟨due, .handBack⟩
  | .closed => m.timer = none

/-- The calls that hand the video back, once they were made. -/
def handBackCalls (m : Machine) : List HostCall :=
  if m.phase = .closed then [.seekTo m.manifest.closing.continueTime, .hide] else []

theorem handBackCalls_closed {m : Machine} (h : m.phase = .closed) :
    m.handBackCalls = [.seekTo m.manifest.closing.continueTime, .hide] := if_pos h

theorem handBackCalls_of_ne {m : Machine} (h : m.phase ≠ .closed) : m.handBackCalls = [] :=
  if_neg h

/-- Entering a step runs no timer, and the closing message starts one. -/
theorem enter_timerFits {m : Machine} (h : m.timer = none) (t : Overlay.Transition) :
    (m.enter t).TimerFits ∧ (m.enter t).handBackCalls = [] := by
  rcases m.enter_cases t with ⟨index, target, -, -, e⟩ | ⟨-, e⟩
  · rw [e]
    exact ⟨h, rfl⟩
  · rw [e]
    exact ⟨⟨_, rfl⟩, rfl⟩

/-- Before a step no timer runs. -/
theorem TimerFits.of_active {m : Machine} (hm : m.TimerFits) {step : Nat} {s : Step}
    (ha : m.active? step = some s) : m.timer = none ∧ m.handBackCalls = [] := by
  have hp := (active?_eq_some_iff.1 ha).1
  unfold TimerFits at hm
  rw [hp] at hm
  exact ⟨hm, handBackCalls_of_ne (by rw [hp]; rintro ⟨⟩)⟩

end Machine

section Traced

variable {σ : Type} (host : Host σ)

/-- A watched host has been called to file events, and then to hand the video back if the machine
is closed. -/
def Logged (m : Machine) (log : List HostCall) : Prop :=
  ∃ filed, (∀ call ∈ filed, HostCall.isTrack call = true) ∧ log = filed ++ m.handBackCalls

/-- A timer that is due starts the one behind it, or hands the video back. -/
theorem fire_logged {m : Machine} (hm : m.TimerFits) {t : Timer} (ht : m.timer = some t)
    {s : σ × List HostCall} (hs : Logged m s.2) :
    let m' : Machine := { m with timer := none, now := t.due }
    (m'.fire host.traced t.kind s).1.TimerFits ∧
      Logged (m'.fire host.traced t.kind s).1 (m'.fire host.traced t.kind s).2.2 := by
  intro m'
  obtain ⟨filed, hfiled, hlog⟩ := hs
  unfold Machine.TimerFits at hm
  cases hp : m.phase with
  | step index =>
      rw [hp] at hm
      cases ht.symm.trans hm
  | closed =>
      rw [hp] at hm
      cases ht.symm.trans hm
  | thankYou =>
      rw [hp] at hm
      obtain ⟨due, hm⟩ := hm
      obtain rfl := Option.some.inj (ht.symm.trans hm)
      refine ⟨⟨_, rfl⟩, filed, hfiled, hlog.trans ?_⟩
      rw [Machine.handBackCalls_of_ne (by rw [hp]; rintro ⟨⟩)]
      rfl
  | dismissing =>
      rw [hp] at hm
      obtain ⟨due, hm⟩ := hm
      obtain rfl := Option.some.inj (ht.symm.trans hm)
      refine ⟨rfl, filed, hfiled, ?_⟩
      rw [Machine.handBackCalls_of_ne (by rw [hp]; rintro ⟨⟩), List.append_nil] at hlog
      show s.2 ++ [.seekTo _] ++ [.hide] = _
      rw [hlog, List.append_assoc]
      rfl

theorem fireDue_logged (target count : Nat) {m : Machine} (hm : m.TimerFits)
    {s : σ × List HostCall} (hs : Logged m s.2) :
    (m.fireDue host.traced target count s).1.TimerFits ∧
      Logged (m.fireDue host.traced target count s).1
        (m.fireDue host.traced target count s).2.2 := by
  induction count generalizing m s with
  | zero => exact ⟨hm, hs⟩
  | succ count ih =>
      unfold Machine.fireDue
      cases ht : m.timer with
      | none => exact ⟨hm, hs⟩
      | some t =>
          by_cases hd : target < t.due
          · simp only [if_pos hd]
            exact ⟨hm, hs⟩
          · simp only [if_neg hd]
            obtain ⟨hm', hs'⟩ := fire_logged host hm ht hs
            exact ih hm' hs'

end Traced

/-! ## Every run -/

namespace Run

variable {σ : Type} {host : Host σ} {manifest : Manifest}

/-- What every run of a watched host keeps: the timer of its phase, and the calls that go with
it. -/
structure Handed (r : Run (σ × List HostCall)) : Prop where
  timer : r.machine.TimerFits
  calls : Logged r.machine r.host.2

theorem start_handed (manifest : Manifest) (s : σ) :
    Handed (⟨Machine.start manifest, (s, []), []⟩ : Run (σ × List HostCall)) := by
  obtain ⟨ht, hc⟩ := Machine.enter_timerFits (m :=
    { manifest
      phase := .closed
      submitted := List.replicate manifest.steps.length false
      stars := List.replicate manifest.steps.length 0
      inputs := List.replicate manifest.steps.length ""
      now := 0
      timer := none
      acknowledgmentVisible := false }) rfl manifest.initial
  refine ⟨ht, [], fun call h => absurd h List.not_mem_nil, ?_⟩
  exact hc.symm

/-- **One call keeps timer and calls in step.** -/
theorem Handed.outcome {r r' : Run (σ × List HostCall)} {c : Call σ} (hr : Handed r)
    (ho : Outcome host.traced r c.traced r') : Handed r' := by
  cases ho with
  | refused _ => exact ⟨hr.timer, hr.calls⟩
  | starred step count s _ _ _ _ _ => exact ⟨hr.timer, hr.calls⟩
  | typed step text s _ _ _ => exact ⟨hr.timer, hr.calls⟩
  | submitted step s value _ active _ =>
      obtain ⟨htimer, hnone⟩ := hr.timer.of_active active
      obtain ⟨ht, hc⟩ := Machine.enter_timerFits (m :=
        { r.machine with submitted := r.machine.submitted.set step true }) htimer s.next
      obtain ⟨filed, hfiled, hlog⟩ := hr.calls
      rw [hnone, List.append_nil] at hlog
      -- the event of the step is filed behind the others
      refine ⟨ht, r.host.2 ++ [.track s.analytics.channel
        (Machine.eventOf s value (c.offset host r.host.1))], ?_, ?_⟩
      · intro call hcall
        rcases List.mem_append.1 hcall with hcall | hcall
        · exact hfiled call (hlog ▸ hcall)
        · obtain rfl := List.mem_singleton.1 hcall
          rfl
      · rw [hc, List.append_nil]
        rfl
  | moved ms _ =>
      obtain ⟨ht, hl⟩ := fireDue_logged host (later r.machine.now ms) 2 hr.timer
        (s := c.traced.before r.host) hr.calls
      exact ⟨ht, hl⟩

/-- **In every run the phase tells the timer, and the calls that the host has had.** -/
theorem of_handed (manifest : Manifest) (s : σ) (calls : List (Call σ)) :
    Handed (of host.traced manifest (s, []) (calls.map Call.traced)) := by
  refine of_outcomes (start_handed manifest s) ?_
  intro r r' c hc hr ho
  obtain ⟨c, -, rfl⟩ := List.mem_map.1 hc
  exact hr.outcome ho

end Run

/-- The calls that a host has had in a run. -/
def hostCalls {σ : Type} (host : Host σ) (manifest : Manifest) (s : σ) (calls : List (Call σ)) :
    List HostCall :=
  (Run.of host.traced manifest (s, []) (calls.map Call.traced)).host.2

/-- **A host is called to file events, and then to hand the video back once the machine is
closed.** -/
theorem hostCalls_logged {σ : Type} (host : Host σ) (manifest : Manifest) (s : σ)
    (calls : List (Call σ)) :
    Logged (Run.of host manifest s calls).machine (hostCalls host manifest s calls) := by
  obtain ⟨log, e, -⟩ := of_traced host manifest s calls
  have hhanded : Run.Handed (Run.of host.traced manifest (s, []) (calls.map Call.traced)) :=
    Run.of_handed manifest s calls
  have h := hhanded.calls
  unfold hostCalls
  rw [e] at h ⊢
  exact h

end VideoSurvey.Wizard
