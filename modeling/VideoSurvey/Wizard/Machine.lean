import VideoSurvey.Overlay.Manifest
import VideoSurvey.Wizard.Host

/-!
# The wizard

The machine that a manifest describes. It stands before a step until the step is submitted, shows
the closing message for a while, and after a further delay hands the video back. Time moves only
when it is told to, in milliseconds, and stays at the largest number of 64 bits once it gets there.

A step is submitted at most once, and only while the machine stands before it. Of the two timers
the first starts the second and the second starts none, so moving time fires at most two.
-/

set_option autoImplicit false

namespace VideoSurvey.Wizard

open Overlay (Manifest Step Transition Guard Capture)

/-- Where the machine stands. -/
inductive Phase where
  /-- Before the step at an index, counted from zero. -/
  | step (index : Nat)
  /-- The closing message is shown. -/
  | thankYou
  /-- The closing message is gone, and the further delay runs. -/
  | dismissing
  /-- The video has been handed back. -/
  | closed
deriving DecidableEq, Repr

/-- What happens when a timer is due. -/
inductive TimerKind where
  | acknowledgmentExpired
  | handBack
deriving DecidableEq, Repr

/-- A timer and the time at which it is due. -/
structure Timer where
  due : Nat
  kind : TimerKind
deriving DecidableEq, Repr

/-- A manifest and how far it has been carried out. The three lists have an entry for each step. -/
structure Machine where
  manifest : Manifest
  phase : Phase
  submitted : List Bool
  stars : List Nat
  inputs : List String
  now : Nat
  timer : Option Timer
  acknowledgmentVisible : Bool
deriving DecidableEq, Repr

/-- The name of the event that a submitted step sends. -/
def submittedEvent : String := "submitted"

/-- The latest time. -/
def latest : Nat := 18446744073709551615

/-- A time some milliseconds on, or the latest time. -/
def later (time delay : Nat) : Nat := min (time + delay) latest

/-- A number of stars in words. -/
def starsText (count : Nat) : String :=
  if count = 1 then "1 Star" else String.ofList (Json.natDigits count) ++ " Stars"

namespace Machine

/-- Starts a timer in place of the one that runs. -/
def schedule (m : Machine) (delay : Nat) (kind : TimerKind) : Machine :=
  { m with timer := some ⟨later m.now delay, kind⟩ }

/-- Shows the closing message and starts the timer that ends it. -/
def showThankYou (m : Machine) : Machine :=
  { m with phase := .thankYou, acknowledgmentVisible := true }.schedule
    m.manifest.closing.durationMs .acknowledgmentExpired

/-- Follows a transition. One that leads to no step leads to the closing message. -/
def enter (m : Machine) : Transition → Machine
  | .step index _ =>
      if index < m.manifest.steps.length then { m with phase := .step index } else m.showThankYou
  | .thankYou => m.showThankYou

/-- The machine at the beginning. -/
def start (manifest : Manifest) : Machine :=
  let count := manifest.steps.length
  let m : Machine := {
    manifest
    phase := .closed
    submitted := List.replicate count false
    stars := List.replicate count 0
    inputs := List.replicate count ""
    now := 0
    timer := none
    acknowledgmentVisible := false }
  m.enter manifest.initial

/-- The number of stars chosen for a step. -/
def selectedStars (m : Machine) (step : Nat) : Nat := m.stars.getD step 0

/-- The text given for a step. -/
def enteredText (m : Machine) (step : Nat) : String := m.inputs.getD step ""

/-- Whether a step was submitted. -/
def isSubmitted (m : Machine) (step : Nat) : Bool := m.submitted.getD step true

/-- The step at an index, if the machine stands before it and it was not submitted. -/
def active? (m : Machine) (step : Nat) : Option Step :=
  match m.phase with
  | .step index =>
      if index = step && !m.isSubmitted step then m.manifest.steps[step]? else none
  | _ => none

/-- Whether the submit control of a step is armed. -/
def isSubmitArmed (m : Machine) (step : Nat) : Bool :=
  match m.active? step with
  | none => false
  | some s =>
      match s.guard with
      | .starSelected => 0 < m.selectedStars step
      | .always => true

/-- The id of what is shown. -/
def activeStepId (m : Machine) : String :=
  match m.phase with
  | .step index =>
      match m.manifest.steps[index]? with
      | some s => s.stepId
      | none => m.manifest.closing.stepId
  | _ => m.manifest.closing.stepId

/-! ## Operations -/

/-- Chooses a number of stars; whether the choice was taken comes with the machine. -/
def selectStar (m : Machine) (step count : Nat) : Bool × Machine :=
  match m.active? step with
  | none => (false, m)
  | some s =>
      if s.capture = .starCount && 1 ≤ count && count ≤ s.maxStars then
        (true, { m with stars := m.stars.set step count })
      else (false, m)

/-- Gives a text; whether it was taken comes with the machine. -/
def inputText (m : Machine) (step : Nat) (value : String) : Bool × Machine :=
  match m.active? step with
  | none => (false, m)
  | some s =>
      if s.capture = .textInput then (true, { m with inputs := m.inputs.set step value })
      else (false, m)

/-- What a step has captured, if that is enough to submit it. -/
def captured? (m : Machine) (step : Nat) (s : Step) : Option Captured :=
  match s.capture with
  | .starCount =>
      let count := m.selectedStars step
      if s.guard = .starSelected && count = 0 then none else some (.feedback (starsText count))
  | .textInput => some (.text (m.enteredText step))

/-- The event of a step. -/
def eventOf (s : Step) (value : Captured) (offset : Int) : Event where
  id := s.analytics.id
  name := s.analytics.name
  group := s.analytics.group
  value := value
  eventType := s.analytics.eventType
  event := submittedEvent
  offset := offset

section Host

variable {σ : Type} (host : Host σ)

/-- Submits a step: files its event and moves on. Whether it was submitted comes with the machine
and the host. -/
def submit (m : Machine) (step : Nat) (h : σ) : Bool × Machine × σ :=
  match m.active? step with
  | none => (false, m, h)
  | some s =>
      match m.captured? step s with
      | none => (false, m, h)
      | some value =>
          let (time, h) := host.currentTime h
          let h := host.track s.analytics.channel (eventOf s value (time.getD 0)) h
          (true, { m with submitted := m.submitted.set step true }.enter s.next, h)

/-- What a timer does when it is due. -/
def fire (m : Machine) (kind : TimerKind) (h : σ) : Machine × σ :=
  match kind with
  | .acknowledgmentExpired =>
      ({ m with acknowledgmentVisible := false, phase := .dismissing }.schedule
        m.manifest.closing.transitionDelayMs .handBack, h)
  | .handBack =>
      ({ m with phase := .closed }, host.hide (host.seekTo m.manifest.closing.continueTime h))

/-- Fires the timers that are due by a time, the earlier first, at most as many as `count`. -/
def fireDue (target : Nat) : Nat → Machine → σ → Machine × σ
  | 0, m, h => (m, h)
  | count + 1, m, h =>
      match m.timer with
      | none => (m, h)
      | some t =>
          if target < t.due then (m, h)
          else
            let (m, h) := fire host { m with timer := none, now := t.due } t.kind h
            fireDue target count m h

/-- Moves time forward. -/
def advance (m : Machine) (ms : Nat) (h : σ) : Machine × σ :=
  let target := later m.now ms
  let (m, h) := fireDue host target 2 m h
  ({ m with now := target }, h)

end Host

end Machine

/-- An operation of the visitor or of time. -/
inductive Operation where
  | selectStar (step count : Nat)
  | inputText (step : Nat) (value : String)
  | submit (step : Nat)
  | advance (ms : Nat)
deriving DecidableEq, Repr

/-- Carries out an operation: whether it was taken, and what becomes of machine and host. Moving
time is always taken. -/
def Operation.run {σ : Type} (host : Host σ) (m : Machine) (h : σ) :
    Operation → Bool × Machine × σ
  | .selectStar step count =>
      let (taken, m) := m.selectStar step count
      (taken, m, h)
  | .inputText step value =>
      let (taken, m) := m.inputText step value
      (taken, m, h)
  | .submit step => m.submit host step h
  | .advance ms =>
      let (m, h) := m.advance host ms h
      (true, m, h)

end VideoSurvey.Wizard
