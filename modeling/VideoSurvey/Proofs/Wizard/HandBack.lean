import VideoSurvey.Proofs.Wizard.Completion
import VideoSurvey.Proofs.Wizard.Record

/-!
# Handing the video back

Phase, clock, timer and closing message are set apart from one another, but in every run of every
manifest they agree (`Machine.Settled`): before a step nothing is pending, and behind the steps the
time at which the closing message was shown fixes what is pending and what is shown. The recording
host has been told the same story: events, and behind them one hand-back of the video once the
machine is closed (`HandsBack`). A run never returns from behind the steps (`Phase.stage`).
-/

set_option autoImplicit false

namespace VideoSurvey.Wizard

open Overlay (Manifest Step)

/-- How far the overlay has gone on from its steps. -/
def Phase.stage : Phase → Nat
  | .step _ => 0
  | .thankYou => 1
  | .dismissing => 2
  | .closed => 3

namespace Machine

/-! ## The closing message -/

/-- The closing message is visible in its own phase. -/
def MessageFits (m : Machine) : Prop := m.acknowledgmentVisible = decide (m.phase = .thankYou)

/-- Between the deadlines the timer is the one of the phase. -/
theorem ClosingSince.timerFits {m : Machine} {t : Nat} (hc : m.ClosingSince t) : m.TimerFits := by
  unfold TimerFits
  cases hc with
  | thankYou phase timer _ =>
      rw [phase]
      exact ⟨_, timer⟩
  | dismissing phase timer _ _ =>
      rw [phase]
      exact ⟨_, timer⟩
  | closed phase timer _ =>
      rw [phase]
      exact timer

section Host

variable {σ : Type} (host : Host σ)

/-- A timer that is due takes the message away, or finds it taken away. -/
theorem fire_messageFits {m : Machine} (hm : m.TimerFits) (hv : m.MessageFits) {t : Timer}
    (ht : m.timer = some t) (h : σ) :
    (fire host { m with timer := none, now := t.due } t.kind h).1.TimerFits ∧
      (fire host { m with timer := none, now := t.due } t.kind h).1.MessageFits := by
  obtain ⟨due, kind⟩ := t
  cases kind with
  | acknowledgmentExpired => exact ⟨⟨_, rfl⟩, rfl⟩
  -- handing back leaves the message alone, so it has to be gone before
  | handBack =>
      refine ⟨rfl, hv.trans ?_⟩
      unfold TimerFits at hm
      cases hp : m.phase with
      | thankYou =>
          rw [hp, ht] at hm
          obtain ⟨_, e⟩ := hm
          cases e
      | _ => rfl

theorem fireDue_messageFits (target count : Nat) {m : Machine} (hm : m.TimerFits)
    (hv : m.MessageFits) (h : σ) : (fireDue host target count m h).1.MessageFits := by
  induction count generalizing m h with
  | zero => exact hv
  | succ count ih =>
      unfold fireDue
      cases ht : m.timer with
      | none => exact hv
      | some t =>
          by_cases hd : target < t.due
          · simp only [if_pos hd]
            exact hv
          · simp only [if_neg hd]
            obtain ⟨hm', hv'⟩ := fire_messageFits host hm hv ht h
            exact ih hm' hv' _

end Host

/-! ## Phase, clock, timer and message -/

/-- Where a machine stands, with the clock, the timer and the message that go with it. -/
inductive Settled (m : Machine) : Prop where
  | stepping (index : Nat) (phase : m.phase = .step index) (timer : m.timer = none)
      (message : m.MessageFits) (now : m.now ≤ latest)
  | closing (shown : Nat) (since : m.ClosingSince shown) (message : m.MessageFits)

/-- A transition leads to a step without a timer, or shows the message and starts its timer. -/
theorem enter_settled {m : Machine} (ht : m.timer = none) (hv : m.acknowledgmentVisible = false)
    (hn : m.now ≤ latest) (t : Overlay.Transition) : (m.enter t).Settled := by
  rcases m.enter_cases t with ⟨index, target, -, -, e⟩ | ⟨-, e⟩
  · rw [e]
    exact .stepping index rfl ht hv hn
  · rw [e]
    exact .closing m.now (closingSince_showThankYou hn) rfl

namespace Settled

variable {m : Machine} (hm : m.Settled)
include hm

theorem timerFits : m.TimerFits := by
  cases hm with
  | stepping index phase timer _ _ =>
      unfold TimerFits
      rw [phase]
      exact timer
  | closing shown since _ => exact since.timerFits

theorem messageFits : m.MessageFits := by
  cases hm with
  | stepping _ _ _ message _ => exact message
  | closing _ _ message => exact message

/-- Before a step nothing is pending and nothing is shown. -/
theorem of_active {step : Nat} {s : Step} (ha : m.active? step = some s) :
    m.timer = none ∧ m.acknowledgmentVisible = false ∧ m.now ≤ latest := by
  cases hm with
  | stepping index phase timer message now =>
      refine ⟨timer, message.trans ?_, now⟩
      rw [phase]
      rfl
  | closing shown since _ =>
      rw [since.active?_eq_none] at ha
      cases ha

/-- Moving time keeps what goes together. -/
theorem advance {σ : Type} (host : Host σ) (ms : Nat) (h : σ) :
    (m.advance host ms h).1.Settled := by
  cases hm with
  | stepping index phase timer message now =>
      rw [advance_of_timer_none host timer]
      exact .stepping index phase timer message (later_le_latest _ _)
  | closing shown since message =>
      -- the deadlines stay, since time does not change the manifest
      exact .closing shown (since.advance host ms h).1
        (fireDue_messageFits host (later m.now ms) 2 since.timerFits message h)

/-- What is pending is not over. -/
theorem now_le_due {t : Timer} (ht : m.timer = some t) : m.now ≤ t.due := by
  cases hm with
  | stepping _ _ timer _ _ => cases ht.symm.trans timer
  | closing shown since _ =>
      cases since with
      | thankYou _ timer now =>
          obtain rfl := Option.some.inj (ht.symm.trans timer)
          exact now
      | dismissing _ timer _ now =>
          obtain rfl := Option.some.inj (ht.symm.trans timer)
          exact Nat.le_of_lt now
      | closed _ timer _ => cases ht.symm.trans timer

end Settled

/-! ## What is pending in a phase -/

namespace TimerFits

variable {m : Machine} (hm : m.TimerFits)
include hm

theorem timer_eq_none_iff :
    m.timer = none ↔ (∃ index, m.phase = .step index) ∨ m.phase = .closed := by
  unfold TimerFits at hm
  cases hp : m.phase with
  | step index =>
      rw [hp] at hm
      simp [hm]
  | closed =>
      rw [hp] at hm
      simp [hm]
  | _ =>
      rw [hp] at hm
      obtain ⟨due, e⟩ := hm
      simp [e]

theorem acknowledgmentExpired_iff :
    (∃ due, m.timer = some ⟨due, .acknowledgmentExpired⟩) ↔ m.phase = .thankYou := by
  unfold TimerFits at hm
  cases hp : m.phase with
  | thankYou =>
      rw [hp] at hm
      exact iff_of_true hm rfl
  | dismissing =>
      rw [hp] at hm
      obtain ⟨due, e⟩ := hm
      simp [e]
  | _ =>
      rw [hp] at hm
      simp [hm]

theorem handBack_iff : (∃ due, m.timer = some ⟨due, .handBack⟩) ↔ m.phase = .dismissing := by
  unfold TimerFits at hm
  cases hp : m.phase with
  | dismissing =>
      rw [hp] at hm
      exact iff_of_true hm rfl
  | thankYou =>
      rw [hp] at hm
      obtain ⟨due, e⟩ := hm
      simp [e]
  | _ =>
      rw [hp] at hm
      simp [hm]

/-- A closed machine refuses every operation, or moves its clock. -/
theorem run_of_closed {σ : Type} (host : Host σ) (hp : m.phase = .closed) (operation : Operation)
    (h : σ) :
    operation.run host m h = (false, m, h) ∨
      ∃ ms, operation = .advance ms ∧
        operation.run host m h = (true, { m with now := later m.now ms }, h) := by
  have hactive : ∀ step, m.active? step = none := by
    intro step
    refine active?_eq_none_of_phase ?_
    rw [hp]
    rintro ⟨⟩
  cases operation with
  | selectStar step count => exact .inl (by simp only [Operation.run, selectStar, hactive])
  | inputText step value => exact .inl (by simp only [Operation.run, inputText, hactive])
  | submit step => exact .inl (by simp only [Operation.run, submit, hactive])
  | advance ms =>
      refine .inr ⟨ms, rfl, ?_⟩
      simp only [Operation.run, advance_of_timer_none host (hm.timer_eq_none_iff.2 (.inr hp))]

/-- Time moves a machine on, and not back. -/
theorem stage_le_advance {σ : Type} (host : Host σ) (ms : Nat) (h : σ) :
    m.phase.stage ≤ (m.advance host ms h).1.phase.stage := by
  by_cases hp : m.phase = .closed
  · rw [advance_of_timer_none host (hm.timer_eq_none_iff.2 (.inr hp))]
  · rcases (advance_sameAnswers host m ms h).2 with e | e | e
    · rw [e]
    · rw [e]
      cases hq : m.phase with
      | closed => exact absurd hq hp
      | _ => simp [Phase.stage]
    · rw [e]
      cases m.phase with
      | _ => simp [Phase.stage]

end TimerFits

end Machine

/-! ## Every run -/

namespace Run

variable {σ : Type} {host : Host σ} {manifest : Manifest}

theorem start_settled (manifest : Manifest) : (Machine.start manifest).Settled :=
  Machine.enter_settled rfl rfl (Nat.zero_le _) manifest.initial

/-- **One call keeps phase, clock, timer and message together,** and goes on if it goes
anywhere. -/
theorem Outcome.settled {r r' : Run σ} {c : Call σ} (ho : Outcome host r c r')
    (hr : r.machine.Settled) :
    r'.machine.Settled ∧ r.machine.phase.stage ≤ r'.machine.phase.stage := by
  cases ho with
  | refused _ => exact ⟨hr, Nat.le_refl _⟩
  | starred step count s _ active _ _ _ =>
      obtain ⟨ht, hv, hn⟩ := hr.of_active active
      have hp := (Machine.active?_eq_some_iff.1 active).1
      refine ⟨.stepping step hp ht ?_ hn, Nat.le_refl _⟩
      exact hr.messageFits
  | typed step text s _ active _ =>
      obtain ⟨ht, hv, hn⟩ := hr.of_active active
      have hp := (Machine.active?_eq_some_iff.1 active).1
      refine ⟨.stepping step hp ht ?_ hn, Nat.le_refl _⟩
      exact hr.messageFits
  | submitted step s value _ active _ =>
      obtain ⟨ht, hv, hn⟩ := hr.of_active active
      have hp := (Machine.active?_eq_some_iff.1 active).1
      refine ⟨Machine.enter_settled (m :=
        { r.machine with submitted := r.machine.submitted.set step true }) ht hv hn s.next, ?_⟩
      rw [hp]
      exact Nat.zero_le _
  | moved ms _ => exact ⟨hr.advance host ms _, hr.timerFits.stage_le_advance host ms _⟩

/-- **In every run phase, clock, timer and message agree.** -/
theorem of_settled (host : Host σ) (manifest : Manifest) (s : σ) (calls : List (Call σ)) :
    (of host manifest s calls).machine.Settled :=
  of_outcomes (P := fun r => r.machine.Settled) (start_settled manifest)
    fun _ _ _ _ hr ho => (ho.settled hr).1

/-- A run that is carried on goes on. -/
theorem stage_le_of_append (host : Host σ) (manifest : Manifest) (s : σ)
    (calls more : List (Call σ)) :
    (of host manifest s calls).machine.phase.stage ≤
      (of host manifest s (calls ++ more)).machine.phase.stage := by
  rw [of_append]
  have hs := of_settled host manifest s calls
  generalize of host manifest s calls = r at hs
  induction more generalizing r with
  | nil => exact Nat.le_refl _
  | cons c more ih =>
      obtain ⟨hs', hle⟩ := (outcome host r c).settled hs
      exact Nat.le_trans hle (ih _ hs')

end Run

/-! ## What the recording host was told -/

/-- The recording host has the calls that a watcher of it writes down. -/
theorem fireDue_recorded (target count : Nat) (m : Machine) {s : Recording × List HostCall}
    (hs : s.1.calls = s.2) :
    (m.fireDue recordingHost.traced target count s).2.1.calls =
      (m.fireDue recordingHost.traced target count s).2.2 := by
  induction count generalizing m s with
  | zero => exact hs
  | succ count ih =>
      unfold Machine.fireDue
      cases m.timer with
      | none => exact hs
      | some t =>
          by_cases hd : target < t.due
          · simp only [if_pos hd]
            exact hs
          · simp only [if_neg hd]
            cases t.kind with
            | acknowledgmentExpired => exact ih _ hs
            | handBack =>
                refine ih _ ?_
                show s.1.calls ++ [.seekTo _] ++ [.hide] = s.2 ++ [.seekTo _] ++ [.hide]
                rw [hs]

/-- One call of the watched recording host is written down twice alike. -/
theorem Run.Outcome.recorded {r r' : Run (Recording × List HostCall)} {call : Int × Operation}
    (ho : Outcome recordingHost.traced r (Call.recording call).traced r')
    (hr : r.host.1.calls = r.host.2) : r'.host.1.calls = r'.host.2 := by
  cases ho with
  | refused _ => exact hr
  | starred step count s _ _ _ _ _ => exact hr
  | typed step text s _ _ _ => exact hr
  | submitted step s value _ _ _ =>
      show r.host.1.calls ++ [_] = r.host.2 ++ [_]
      rw [hr]
  | moved ms _ =>
      exact fireDue_recorded (later r.machine.now ms) 2 r.machine
        (s := (Call.recording call).traced.before r.host) hr

/-- The recording host's calls are the calls that a host has had. -/
theorem recorded_eq_hostCalls (manifest : Manifest) (calls : List (Int × Operation)) :
    (Run.of recordingHost manifest Recording.start (calls.map Call.recording)).host.calls =
      hostCalls recordingHost manifest Recording.start (calls.map Call.recording) := by
  have key : (Run.of recordingHost.traced manifest (Recording.start, [])
        ((calls.map Call.recording).map Call.traced)).host.1.calls =
      (Run.of recordingHost.traced manifest (Recording.start, [])
        ((calls.map Call.recording).map Call.traced)).host.2 := by
    refine Run.of_outcomes
      (P := fun r : Run (Recording × List HostCall) => r.host.1.calls = r.host.2) rfl ?_
    intro r r' c hc hr ho
    obtain ⟨_, hmem, rfl⟩ := List.mem_map.1 hc
    obtain ⟨call, -, rfl⟩ := List.mem_map.1 hmem
    exact ho.recorded hr
  obtain ⟨log, e, -⟩ := of_traced recordingHost manifest Recording.start (calls.map Call.recording)
  unfold hostCalls
  rw [e] at key ⊢
  exact key

/-- Calls that file events, one for each. -/
theorem exists_filed_of_isTrack {calls : List HostCall}
    (h : ∀ call ∈ calls, HostCall.isTrack call = true) :
    ∃ filed : List (String × Event), calls = filed.map fun f => .track f.1 f.2 := by
  induction calls with
  | nil => exact ⟨[], rfl⟩
  | cons call calls ih =>
      obtain ⟨filed, rfl⟩ := ih fun c hc => h c (List.mem_cons_of_mem call hc)
      cases call with
      | track channel event => exact ⟨(channel, event) :: filed, rfl⟩
      | seekTo offset => cases h _ List.mem_cons_self
      | hide => cases h _ List.mem_cons_self

/-! ## Handing back once -/

/-- A run whose machine and recording host agree on how far the video has been handed back. -/
structure HandsBack (manifest : Manifest) (r : Run Recording) : Prop where
  /-- The host filed events; then it moved the playback and hid the overlay, once. -/
  calls : ∃ filed : List (String × Event), r.host.calls =
    (filed.map fun f => .track f.1 f.2) ++
      if r.machine.phase = .closed then [.seekTo manifest.closing.continueTime, .hide] else []
  message : r.machine.acknowledgmentVisible = true ↔ r.machine.phase = .thankYou
  messageTimer : (∃ due, r.machine.timer = some ⟨due, .acknowledgmentExpired⟩) ↔
    r.machine.phase = .thankYou
  handBackTimer : (∃ due, r.machine.timer = some ⟨due, .handBack⟩) ↔ r.machine.phase = .dismissing
  idle : r.machine.timer = none ↔
    (∃ index, r.machine.phase = .step index) ∨ r.machine.phase = .closed
  due : ∀ timer, r.machine.timer = some timer → r.machine.now ≤ timer.due
  /-- Nothing happens behind the end, whatever is asked. -/
  absorbs : r.machine.phase = .closed → ∀ (operation : Operation) (h : Recording),
    operation.run recordingHost r.machine h = (false, r.machine, h) ∨
      ∃ ms, operation = .advance ms ∧
        operation.run recordingHost r.machine h =
          (true, { r.machine with now := later r.machine.now ms }, h)

/-- **The video is handed back once, when the machine closes.** Every run of every manifest keeps
its timer and its message to its phase, and carried on it goes from the closing message to the
further delay and to the end, and never back. -/
theorem video_handed_back_once (manifest : Manifest) (calls more : List (Int × Operation)) :
    HandsBack manifest
        (Run.of recordingHost manifest Recording.start (calls.map Call.recording)) ∧
      (Run.of recordingHost manifest Recording.start
          (calls.map Call.recording)).machine.phase.stage ≤
        (Run.of recordingHost manifest Recording.start
          ((calls ++ more).map Call.recording)).machine.phase.stage := by
  have hs := Run.of_settled recordingHost manifest Recording.start (calls.map Call.recording)
  have hmanifest : (Run.of recordingHost manifest Recording.start
      (calls.map Call.recording)).machine.manifest = manifest :=
    (Run.of_sound Recording.start (calls.map Call.recording)).manifest_eq
  refine ⟨⟨?_, ?_, hs.timerFits.acknowledgmentExpired_iff, hs.timerFits.handBack_iff,
    hs.timerFits.timer_eq_none_iff, fun _ ht => hs.now_le_due ht,
    hs.timerFits.run_of_closed recordingHost⟩, ?_⟩
  · obtain ⟨filed, hfiled, e⟩ := hostCalls_logged recordingHost manifest Recording.start
      (calls.map Call.recording)
    obtain ⟨events, rfl⟩ := exists_filed_of_isTrack hfiled
    refine ⟨events, ?_⟩
    rw [recorded_eq_hostCalls, e, Machine.handBackCalls, hmanifest]
  · rw [hs.messageFits]
    exact decide_eq_true_iff
  · rw [List.map_append]
    exact Run.stage_le_of_append recordingHost manifest Recording.start _ _

end VideoSurvey.Wizard
