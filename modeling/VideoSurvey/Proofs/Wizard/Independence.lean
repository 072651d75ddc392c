import VideoSurvey.Proofs.Wizard.HandBack

/-!
# Hosts do not steer the wizard

The machine asks its host for one thing, the playback time, and puts the answer into an event. So
the course of a run, which is the answer of every call and the machine after it, is the same with
every host (`Run.course_eq`), and what is filed depends on the host in the playback times alone
(`filter_hostCalls`). From both follows what three hosts have in common, of which one has every
capability, one has none, and one only files events (`hosts_do_not_steer`).
-/

set_option autoImplicit false

namespace VideoSurvey.Wizard

open Overlay (Manifest Step)

/-! ## Hosts with few capabilities -/

/-- An operation that nothing happens before. -/
def Call.still {σ : Type} (operation : Operation) : Call σ := ⟨id, operation⟩

/-- A call as it is made when the playback time is not told. -/
def HostCall.withoutOffset : HostCall → HostCall
  | .track channel event => .track channel { event with offset := 0 }
  | .seekTo offset => .seekTo offset
  | .hide => .hide

/-- What a way of filing events makes of a call. -/
def HostCall.file {σ : Type} (track : String → Event → σ → σ) (s : σ) : HostCall → σ
  | .track channel event => track channel event s
  | .seekTo _ => s
  | .hide => s

/-! ## What the machine does by itself -/

namespace Machine

/-- The answer to an operation, and the machine after it, when there is nobody to call. -/
def effect (m : Machine) (operation : Operation) : Bool × Machine :=
  let (taken, m', _) := operation.run detachedHost m ()
  (taken, m')

/-- What the machine does by itself in a sequence of operations. -/
def course (m : Machine) : List Operation → List (Bool × Machine)
  | [] => []
  | operation :: operations =>
      m.effect operation :: (m.effect operation).2.course operations

/-- The call that an operation makes to file an event, if it makes one, at a playback time. -/
def filing? (m : Machine) (offset : Int) : Operation → Option HostCall
  | .submit step => do
      let s ← m.active? step
      let value ← m.captured? step s
      pure (.track s.analytics.channel (eventOf s value offset))
  | _ => none

/-- The calls that a sequence of operations makes to file events, each at a playback time. -/
def filings (m : Machine) : List (Int × Operation) → List HostCall
  | [] => []
  | (offset, operation) :: calls =>
      (m.filing? offset operation).toList ++ (m.effect operation).2.filings calls

section Hosts

variable {σ τ : Type} (host : Host σ) (other : Host τ)

/-- Due timers change the machine in the same way, whoever is called. -/
theorem fireDue_machine (target count : Nat) (m : Machine) (h : σ) (k : τ) :
    (fireDue host target count m h).1 = (fireDue other target count m k).1 := by
  induction count generalizing m h k with
  | zero => rfl
  | succ count ih =>
      unfold fireDue
      cases m.timer with
      | none => rfl
      | some t =>
          by_cases hd : target < t.due
          · simp only [if_pos hd]
          · simp only [if_neg hd]
            -- a hand-back calls the host, but the machine goes on from the same place
            cases t.kind with
            | acknowledgmentExpired => exact ih _ _ _
            | handBack => exact ih _ _ _

/-- **An operation has the same answer and the same effect with every host.** -/
theorem run_effect (operation : Operation) (m : Machine) (h : σ) :
    ((operation.run host m h).1, (operation.run host m h).2.1) = m.effect operation := by
  cases operation with
  | selectStar step count => rfl
  | inputText step value => rfl
  | submit step =>
      unfold effect
      simp only [Operation.run, submit]
      cases m.active? step with
      | none => rfl
      | some s =>
          cases hc : m.captured? step s with
          | none => simp only [hc]
          | some value => simp only [hc]
  | advance ms =>
      have hm := fireDue_machine host detachedHost (later m.now ms) 2 m h ()
      simp only [effect, Operation.run, advance, hm]

/-- An operation files what it files at the playback time that the host tells. -/
theorem run_filing (operation : Operation) (m : Machine) (h : σ) (log : List HostCall) :
    (operation.run host.traced m (h, log)).2.2.2.filter HostCall.isTrack =
      log.filter HostCall.isTrack ++
        (m.filing? ((host.currentTime h).1.getD 0) operation).toList := by
  cases operation with
  | selectStar step count => exact (List.append_nil _).symm
  | inputText step value => exact (List.append_nil _).symm
  | submit step =>
      simp only [Operation.run, submit, filing?]
      cases m.active? step with
      | none => exact (List.append_nil _).symm
      | some s =>
          cases hc : m.captured? step s with
          | none => simp [hc]
          | some value => simp [hc, Host.traced, HostCall.isTrack]
  | advance ms =>
      obtain ⟨calls, hcalls, e⟩ := fireDue_traced host (later m.now ms) 2 m h log
      have hnone : calls.filter HostCall.isTrack = [] := by
        simpa [List.filter_eq_nil_iff] using hcalls
      simp only [Operation.run, advance, e, List.filter_append, hnone]
      rfl

end Hosts

/-- The playback time goes into the event and nowhere else. -/
theorem filing?_withoutOffset (m : Machine) (offset : Int) (operation : Operation) :
    (m.filing? offset operation).map HostCall.withoutOffset = m.filing? 0 operation := by
  cases operation with
  | submit step =>
      simp only [filing?]
      cases m.active? step with
      | none => rfl
      | some s =>
          cases hc : m.captured? step s with
          | none => simp [hc]
          | some value => simp [hc, HostCall.withoutOffset, eventOf]
  | _ => rfl

/-- Without playback times the same events are filed, at the offset zero. -/
theorem filings_withoutOffset (m : Machine) (calls : List (Int × Operation)) :
    (m.filings calls).map HostCall.withoutOffset = m.filings (calls.map fun c => (0, c.2)) := by
  induction calls generalizing m with
  | nil => rfl
  | cons c calls ih =>
      simp only [filings, List.map_append, List.map_cons, ih, ← filing?_withoutOffset m c.1 c.2,
        Option.toList_map]

end Machine

/-! ## Every run of every host -/

namespace Run

variable {σ : Type} (host : Host σ)

/-- The run that no call was made in yet. -/
def start (manifest : Manifest) (h : σ) : Run σ := ⟨Machine.start manifest, h, []⟩

/-- The answer of every call, and the machine after it, as a run goes on. -/
def course (r : Run σ) : List (Call σ) → List (Bool × Machine)
  | [] => []
  | c :: calls =>
      ((c.operation.run host r.machine (c.before r.host)).1, (r.perform host c).machine) ::
        (r.perform host c).course calls

/-- **The course of a run is the machine's own.** It depends on the operations alone, and neither
on what the host can do nor on what becomes of it between two calls. -/
theorem course_eq (r : Run σ) (calls : List (Call σ)) :
    r.course host calls = r.machine.course (calls.map Call.operation) := by
  induction calls generalizing r with
  | nil => rfl
  | cons c calls ih =>
      have he := Machine.run_effect host c.operation r.machine (c.before r.host)
      have hm : (r.perform host c).machine = (r.machine.effect c.operation).2 :=
        congrArg Prod.snd he
      have hrest : (r.perform host c).course host calls =
          (r.machine.effect c.operation).2.course (calls.map Call.operation) := by
        rw [ih, hm]
      exact congrArg₂ List.cons he hrest

/-- What is filed by further calls, when it is known at which playback time each of them comes. -/
theorem filter_foldl_perform {time : Call σ → Int} (calls : List (Call σ))
    (htime : ∀ c ∈ calls, ∀ h, c.offset host h = time c) (r : Run (σ × List HostCall)) :
    ((calls.map Call.traced).foldl (perform host.traced) r).host.2.filter HostCall.isTrack =
      r.host.2.filter HostCall.isTrack ++
        r.machine.filings (calls.map fun c => (time c, c.operation)) := by
  induction calls generalizing r with
  | nil => exact (List.append_nil _).symm
  | cons c calls ih =>
      have hm : (r.perform host.traced c.traced).machine = (r.machine.effect c.operation).2 :=
        congrArg Prod.snd (Machine.run_effect host.traced c.operation r.machine _)
      have hf : (r.perform host.traced c.traced).host.2.filter HostCall.isTrack =
          r.host.2.filter HostCall.isTrack ++
            (r.machine.filing? (time c) c.operation).toList := by
        rw [← htime c List.mem_cons_self r.host.1]
        exact Machine.run_filing host c.operation r.machine (c.before r.host.1) r.host.2
      rw [List.map_cons, List.foldl_cons, ih (fun c' hc' => htime c' (List.mem_cons_of_mem c hc')),
        hf, hm, List.append_assoc]
      rfl

end Run

/-- **What a host is told to file** depends on the host in the playback times of the calls
alone. -/
theorem filter_hostCalls {σ : Type} {host : Host σ} {time : Call σ → Int} (manifest : Manifest)
    (s : σ) {calls : List (Call σ)} (htime : ∀ c ∈ calls, ∀ h, c.offset host h = time c) :
    (hostCalls host manifest s calls).filter HostCall.isTrack =
      (Machine.start manifest).filings (calls.map fun c => (time c, c.operation)) :=
  Run.filter_foldl_perform host calls htime ⟨Machine.start manifest, (s, []), []⟩

/-! ## A host that only files events -/

section TrackOnly

variable {σ : Type} (track : String → Event → σ → σ)

/-- Due timers leave a host alone that only files events. -/
theorem fireDue_trackOnly (target count : Nat) (m : Machine) (s : σ) :
    (m.fireDue (Host.trackOnly track) target count s).2 = s := by
  induction count generalizing m with
  | zero => rfl
  | succ count ih =>
      unfold Machine.fireDue
      cases m.timer with
      | none => rfl
      | some t =>
          by_cases hd : target < t.due
          · simp only [if_pos hd]
          · simp only [if_neg hd]
            cases t.kind with
            | acknowledgmentExpired => exact ih _
            | handBack => exact ih _

/-- An operation leaves such a host with one event more, or alone. -/
theorem run_trackOnly (operation : Operation) (m : Machine) (s : σ) :
    (operation.run (Host.trackOnly track) m s).2.2 =
      (m.filing? 0 operation).toList.foldl (HostCall.file track) s := by
  cases operation with
  | selectStar step count => rfl
  | inputText step value => rfl
  | submit step =>
      simp only [Operation.run, Machine.submit, Machine.filing?]
      cases m.active? step with
      | none => rfl
      | some t =>
          cases hc : m.captured? step t with
          | none => simp [hc]
          | some value => simp [hc, Host.trackOnly, HostCall.file]
  | advance ms => exact fireDue_trackOnly track (later m.now ms) 2 m s

/-- Such a host is left with the events that the machine files, one after the other. -/
theorem foldl_perform_trackOnly (operations : List Operation) (r : Run σ) :
    ((operations.map Call.still).foldl (Run.perform (Host.trackOnly track)) r).host =
      (r.machine.filings (operations.map fun operation => (0, operation))).foldl
        (HostCall.file track) r.host := by
  induction operations generalizing r with
  | nil => rfl
  | cons operation operations ih =>
      have hm : (r.perform (Host.trackOnly track) (Call.still operation)).machine =
          (r.machine.effect operation).2 :=
        congrArg Prod.snd (Machine.run_effect (Host.trackOnly track) operation r.machine _)
      have hh : (r.perform (Host.trackOnly track) (Call.still operation)).host =
          (r.machine.filing? 0 operation).toList.foldl (HostCall.file track) r.host :=
        run_trackOnly track operation r.machine r.host
      rw [List.map_cons, List.foldl_cons, ih, hm, hh, ← List.foldl_append]
      rfl

end TrackOnly

/-- **Hosts do not steer the wizard.** Take any manifest and any calls, at playback times that
change as they like. The recording host, the detached host and any host that only files events get
the same answer to every call, and after every call the same machine: its phase, its clock, what it
shows, which controls are armed and what was chosen. The host that only files events is told to
file what the recording host was told to file, in the same order and with the offset zero in place
of the playback time, and it has done with these events what it does with an event. -/
theorem hosts_do_not_steer {σ : Type} (track : String → Event → σ → σ) (s : σ)
    (manifest : Manifest) (calls : List (Int × Operation)) :
    let operations := calls.map Prod.snd
    let own := (Run.start manifest ()).course detachedHost (operations.map Call.still)
    let filed := (Run.of recordingHost manifest Recording.start
      (calls.map Call.recording)).host.calls.filter HostCall.isTrack
    (Run.start manifest Recording.start).course recordingHost (calls.map Call.recording) = own ∧
      (Run.start manifest s).course (Host.trackOnly track) (operations.map Call.still) = own ∧
      (hostCalls (Host.trackOnly track) manifest s (operations.map Call.still)).filter
          HostCall.isTrack = filed.map HostCall.withoutOffset ∧
      (Run.of (Host.trackOnly track) manifest s (operations.map Call.still)).host =
        (filed.map HostCall.withoutOffset).foldl (HostCall.file track) s := by
  intro operations own filed
  have hown {τ : Type} (host : Host τ) (h : τ) :
      (Run.start manifest h).course host (operations.map Call.still) =
        (Machine.start manifest).course operations := by
    rw [Run.course_eq, List.map_map]
    exact congrArg _ (List.map_id operations)
  have hfiled : filed = (Machine.start manifest).filings calls := by
    -- the playback time is set by the call, whatever it was before
    have htime : ∀ c ∈ calls.map Call.recording, ∀ h,
        c.offset recordingHost h = c.offset recordingHost Recording.start := by
      intro c hc h
      obtain ⟨call, -, rfl⟩ := List.mem_map.1 hc
      rfl
    have hcalls := filter_hostCalls manifest Recording.start htime
    rw [← recorded_eq_hostCalls, List.map_map] at hcalls
    exact hcalls.trans (congrArg _ (List.map_id calls))
  have hoffset : filed.map HostCall.withoutOffset =
      (Machine.start manifest).filings (operations.map fun operation => (0, operation)) := by
    rw [hfiled, Machine.filings_withoutOffset, List.map_map]
    rfl
  refine ⟨?_, ?_, ?_, ?_⟩
  · refine Eq.trans ?_ (hown detachedHost ()).symm
    rw [Run.course_eq, List.map_map]
    rfl
  · exact (hown (Host.trackOnly track) s).trans (hown detachedHost ()).symm
  · have htime : ∀ c ∈ operations.map Call.still, ∀ h,
        c.offset (Host.trackOnly track) h = 0 := by
      intro c hc h
      obtain ⟨operation, -, rfl⟩ := List.mem_map.1 hc
      rfl
    rw [filter_hostCalls manifest s htime, hoffset, List.map_map]
    rfl
  · rw [hoffset]
    exact foldl_perform_trackOnly track operations (Run.start manifest s)

end VideoSurvey.Wizard
