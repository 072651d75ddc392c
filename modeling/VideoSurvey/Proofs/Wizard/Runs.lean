import VideoSurvey.Proofs.Wizard.Operations

/-!
# Runs of the wizard

A run starts the machine of a manifest and carries out calls one after the other. Before each call
the host may change on its own, as a player does whose video goes on. The run keeps a history of
what was asked, at which playback time, and whether it was taken.

`Host.traced` is a host that does what a given host does and also writes down every call it gets.
Watching changes nothing (`of_traced`), and a call writes down one event when it is a submission
that was taken, and no event otherwise (`perform_traced`).
-/

set_option autoImplicit false

namespace VideoSurvey.Wizard

open Overlay (Manifest Step)

/-- An operation, and the change of the host before it. -/
structure Call (σ : Type) where
  before : σ → σ
  operation : Operation

/-- The playback time that a host tells when a call comes. -/
def Call.offset {σ : Type} (c : Call σ) (host : Host σ) (h : σ) : Int :=
  (host.currentTime (c.before h)).1.getD 0

/-- What was asked, the playback time at that moment, and whether it was taken. -/
structure Entry where
  operation : Operation
  offset : Int
  taken : Bool
deriving DecidableEq, Repr

/-- The step that an entry submitted, if it is a submission that was taken. -/
def Entry.submitted? (e : Entry) : Option Nat :=
  match e.operation with
  | .submit step => if e.taken then some step else none
  | _ => none

theorem Entry.submitted?_of_refused (operation : Operation) (offset : Int) :
    Entry.submitted? ⟨operation, offset, false⟩ = none := by
  cases operation with
  | submit step => rfl
  | _ => rfl

/-- A machine and its host after some calls. -/
structure Run (σ : Type) where
  machine : Machine
  host : σ
  history : List Entry

namespace Run

variable {σ : Type} (host : Host σ)

/-- Carries out one more call. -/
def perform (r : Run σ) (c : Call σ) : Run σ :=
  let h := c.before r.host
  let (taken, machine, h') := c.operation.run host r.machine h
  ⟨machine, h', r.history ++ [⟨c.operation, c.offset host r.host, taken⟩]⟩

/-- The run of a manifest's machine through some calls. -/
def of (manifest : Manifest) (h : σ) (calls : List (Call σ)) : Run σ :=
  calls.foldl (perform host) ⟨Machine.start manifest, h, []⟩

/-- The steps that were submitted, in their order. -/
def submissions (r : Run σ) : List Nat := r.history.filterMap Entry.submitted?

variable {host}

/-- **What holds at the start and is kept by every call holds of every run.** -/
theorem of_induction {P : Run σ → Prop} {manifest : Manifest} {h : σ} {calls : List (Call σ)}
    (start : P ⟨Machine.start manifest, h, []⟩)
    (step : ∀ r, ∀ c ∈ calls, P r → P (r.perform host c)) : P (of host manifest h calls) := by
  unfold of
  -- the calls are carried out from wherever the calls before them led
  generalize (⟨Machine.start manifest, h, []⟩ : Run σ) = r at start
  induction calls generalizing r with
  | nil => exact start
  | cons c calls ih =>
      refine ih ?_ (r.perform host c) (step r c List.mem_cons_self start)
      intro r' c' hc'
      exact step r' c' (List.mem_cons_of_mem c hc')

/-- What a call can make of a run. -/
inductive Outcome (host : Host σ) (r : Run σ) (c : Call σ) : Run σ → Prop where
  | refused (visitor : ∀ ms, c.operation ≠ .advance ms) :
      Outcome host r c
        ⟨r.machine, c.before r.host, r.history ++ [⟨c.operation, c.offset host r.host, false⟩]⟩
  | starred (step count : Nat) (s : Step) (operation : c.operation = .selectStar step count)
      (active : r.machine.active? step = some s) (capture : s.capture = .starCount)
      (low : 1 ≤ count) (high : count ≤ s.maxStars) :
      Outcome host r c
        ⟨{ r.machine with stars := r.machine.stars.set step count }, c.before r.host,
          r.history ++ [⟨.selectStar step count, c.offset host r.host, true⟩]⟩
  | typed (step : Nat) (text : String) (s : Step) (operation : c.operation = .inputText step text)
      (active : r.machine.active? step = some s) (capture : s.capture = .textInput) :
      Outcome host r c
        ⟨{ r.machine with inputs := r.machine.inputs.set step text }, c.before r.host,
          r.history ++ [⟨.inputText step text, c.offset host r.host, true⟩]⟩
  | submitted (step : Nat) (s : Step) (value : Captured) (operation : c.operation = .submit step)
      (active : r.machine.active? step = some s)
      (captured : r.machine.captured? step s = some value) :
      Outcome host r c
        ⟨{ r.machine with submitted := r.machine.submitted.set step true }.enter s.next,
          host.track s.analytics.channel (Machine.eventOf s value (c.offset host r.host))
            (host.currentTime (c.before r.host)).2,
          r.history ++ [⟨.submit step, c.offset host r.host, true⟩]⟩
  | moved (ms : Nat) (operation : c.operation = .advance ms) :
      Outcome host r c
        ⟨(r.machine.advance host ms (c.before r.host)).1,
          (r.machine.advance host ms (c.before r.host)).2,
          r.history ++ [⟨.advance ms, c.offset host r.host, true⟩]⟩

/-- **A call is refused, or does what its operation is there for.** -/
theorem outcome (host : Host σ) (r : Run σ) (c : Call σ) : Outcome host r c (r.perform host c) := by
  obtain ⟨before, operation⟩ := c
  cases operation with
  | selectStar step count =>
      rcases r.machine.selectStar_cases step count with e | ⟨s, ha, hc, h1, h2, e⟩
      · unfold perform
        simp only [Operation.run, e]
        exact .refused (by rintro ms ⟨⟩)
      · unfold perform
        simp only [Operation.run, e]
        exact .starred step count s rfl ha hc h1 h2
  | inputText step text =>
      rcases r.machine.inputText_cases step text with e | ⟨s, ha, hc, e⟩
      · unfold perform
        simp only [Operation.run, e]
        exact .refused (by rintro ms ⟨⟩)
      · unfold perform
        simp only [Operation.run, e]
        exact .typed step text s rfl ha hc
  | submit step =>
      rcases r.machine.submit_cases host step (before r.host) with e | ⟨s, value, ha, hc, e⟩
      · unfold perform
        simp only [Operation.run, e]
        exact .refused (by rintro ms ⟨⟩)
      · unfold perform
        simp only [Operation.run, e]
        exact .submitted step s value rfl ha hc
  | advance ms => exact .moved ms rfl

/-- A call adds one entry to the history. -/
theorem Outcome.history {r r' : Run σ} {c : Call σ} (ho : Outcome host r c r') :
    ∃ e, r'.history = r.history ++ [e] := by
  cases ho with
  | refused _ => exact ⟨_, rfl⟩
  | starred step count s _ _ _ _ _ => exact ⟨_, rfl⟩
  | typed step text s _ _ _ => exact ⟨_, rfl⟩
  | submitted step s value _ _ _ => exact ⟨_, rfl⟩
  | moved ms _ => exact ⟨_, rfl⟩

/-- What holds at the start, and after every outcome of a call, holds of every run. -/
theorem of_outcomes {P : Run σ → Prop} {manifest : Manifest} {h : σ} {calls : List (Call σ)}
    (start : P ⟨Machine.start manifest, h, []⟩)
    (step : ∀ r r', ∀ c ∈ calls, P r → Outcome host r c r' → P r') :
    P (of host manifest h calls) :=
  of_induction start fun r c hc hr => step r _ c hc hr (outcome host r c)

theorem submissions_append (r : Run σ) (m : Machine) (h : σ) (e : Entry) :
    (⟨m, h, r.history ++ [e]⟩ : Run σ).submissions = r.submissions ++ e.submitted?.toList := by
  unfold submissions
  rw [List.filterMap_append]
  rfl

theorem submissions_append_of_none (r : Run σ) (m : Machine) (h : σ) {e : Entry}
    (he : e.submitted? = none) :
    (⟨m, h, r.history ++ [e]⟩ : Run σ).submissions = r.submissions := by
  rw [submissions_append, he]
  exact List.append_nil _

end Run

/-! ## Watching a host -/

/-- Whether a call files an event. -/
def HostCall.isTrack : HostCall → Bool
  | .track _ _ => true
  | _ => false

namespace Host

variable {σ : Type}

/-- A host that also writes down the calls it gets. -/
def traced (host : Host σ) : Host (σ × List HostCall) where
  track channel event s := (host.track channel event s.1, s.2 ++ [.track channel event])
  currentTime s := ((host.currentTime s.1).1, (host.currentTime s.1).2, s.2)
  seekTo offset s := (host.seekTo offset s.1, s.2 ++ [.seekTo offset])
  hide s := (host.hide s.1, s.2 ++ [.hide])

end Host

/-- A call of a host that is watched. The calls written down so far stay. -/
def Call.traced {σ : Type} (c : Call σ) : Call (σ × List HostCall) :=
  ⟨fun s => (c.before s.1, s.2), c.operation⟩

section Traced

variable {σ : Type} (host : Host σ)

open Machine

/-- Due timers of a watched host file no event. -/
theorem fireDue_traced (target count : Nat) (m : Machine) (h : σ) (log : List HostCall) :
    ∃ calls, (∀ call ∈ calls, HostCall.isTrack call = false) ∧
      fireDue host.traced target count m (h, log) =
        ((fireDue host target count m h).1, (fireDue host target count m h).2, log ++ calls) := by
  induction count generalizing m h log with
  | zero => exact ⟨[], by simp, by simp [fireDue]⟩
  -- what one timer writes down stands before what the others do
  | succ count ih =>
      unfold fireDue
      cases ht : m.timer with
      | none => exact ⟨[], by simp, by simp⟩
      | some t =>
          by_cases hd : target < t.due
          · exact ⟨[], by simp, by simp [hd]⟩
          · simp only [if_neg hd]
            cases hk : t.kind with
            | acknowledgmentExpired => exact ih _ _ _
            -- handing back calls the host twice, and neither call files an event
            | handBack =>
                obtain ⟨calls, hc, e⟩ := ih
                  { { m with timer := none, now := t.due } with phase := .closed }
                  (host.hide (host.seekTo m.manifest.closing.continueTime h))
                  (log ++ [.seekTo m.manifest.closing.continueTime] ++ [.hide])
                refine ⟨.seekTo m.manifest.closing.continueTime :: .hide :: calls, ?_, ?_⟩
                · simpa [HostCall.isTrack] using hc
                · refine Eq.trans e ?_
                  simp [fire]

/-- A watched host takes part as the host itself does, and writes down one event exactly when a
submission is taken. -/
theorem run_traced (operation : Operation) (m : Machine) (h : σ) (log : List HostCall)
    (offset : Int) :
    ∃ calls, operation.run host.traced m (h, log) =
        ((operation.run host m h).1, (operation.run host m h).2.1,
          (operation.run host m h).2.2, log ++ calls) ∧
      calls.countP HostCall.isTrack =
        (Entry.submitted? ⟨operation, offset, (operation.run host m h).1⟩).toList.length := by
  cases operation with
  | selectStar step count => exact ⟨[], by simp [Operation.run], rfl⟩
  | inputText step value => exact ⟨[], by simp [Operation.run], rfl⟩
  | submit step =>
      simp only [Operation.run, submit]
      cases ha : m.active? step with
      | none => exact ⟨[], by simp, rfl⟩
      | some s =>
          cases hc : m.captured? step s with
          | none => exact ⟨[], by simp [hc], by simp [hc, Entry.submitted?]⟩
          | some value =>
              refine ⟨[.track s.analytics.channel
                (eventOf s value ((host.currentTime h).1.getD 0))], ?_, ?_⟩
              · simp [hc, Host.traced]
              · simp [hc, Entry.submitted?, HostCall.isTrack]
  | advance ms =>
      obtain ⟨calls, hc, e⟩ := fireDue_traced host (later m.now ms) 2 m h log
      refine ⟨calls, ?_, ?_⟩
      · simp [Operation.run, advance, e]
      · simpa [Entry.submitted?, List.countP_eq_zero] using hc

/-- One call of a watched host. -/
theorem perform_traced (r : Run σ) (log : List HostCall) (c : Call σ) :
    ∃ calls, Run.perform host.traced ⟨r.machine, (r.host, log), r.history⟩ c.traced =
        ⟨(r.perform host c).machine, ((r.perform host c).host, log ++ calls),
          (r.perform host c).history⟩ ∧
      (r.perform host c).submissions.length =
        r.submissions.length + calls.countP HostCall.isTrack := by
  obtain ⟨calls, e, hc⟩ := run_traced host c.operation r.machine (c.before r.host) log
    ((host.currentTime (c.before r.host)).1.getD 0)
  refine ⟨calls, ?_, ?_⟩
  · unfold Run.perform
    simp only [Call.traced, e]
    rfl
  · show (Run.submissions ⟨_, _, r.history ++ [_]⟩).length = _
    rw [Run.submissions_append, List.length_append]
    exact congrArg (r.submissions.length + ·) hc.symm

/-- Several calls of a watched host. -/
theorem foldl_perform_traced (calls : List (Call σ)) (r : Run σ) (log : List HostCall)
    (hl : log.countP HostCall.isTrack = r.submissions.length) :
    ∃ log', (calls.map Call.traced).foldl (Run.perform host.traced)
        ⟨r.machine, (r.host, log), r.history⟩ =
          ⟨(calls.foldl (Run.perform host) r).machine,
            ((calls.foldl (Run.perform host) r).host, log'),
            (calls.foldl (Run.perform host) r).history⟩ ∧
      log'.countP HostCall.isTrack = (calls.foldl (Run.perform host) r).submissions.length := by
  induction calls generalizing r log with
  | nil => exact ⟨log, rfl, hl⟩
  | cons c calls ih =>
      obtain ⟨more, e, hm⟩ := perform_traced host r log c
      rw [List.map_cons, List.foldl_cons, List.foldl_cons, e]
      apply ih (r.perform host c) (log ++ more)
      rw [List.countP_append, hl, hm]

/-- **Watching changes nothing, and as many events are filed as submissions are taken.** -/
theorem of_traced (manifest : Manifest) (h : σ) (calls : List (Call σ)) :
    ∃ log, Run.of host.traced manifest (h, []) (calls.map Call.traced) =
        ⟨(Run.of host manifest h calls).machine, ((Run.of host manifest h calls).host, log),
          (Run.of host manifest h calls).history⟩ ∧
      log.countP HostCall.isTrack = (Run.of host manifest h calls).submissions.length :=
  foldl_perform_traced host calls ⟨Machine.start manifest, h, []⟩ [] rfl

end Traced

end VideoSurvey.Wizard
