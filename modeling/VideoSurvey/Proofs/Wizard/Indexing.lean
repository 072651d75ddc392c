import VideoSurvey.Proofs.Wizard.Safety

/-!
# No index out of range

The operations of the wizard read and write its lists at an index. `Indexed` states them once more
with every such place made visible: each entry is looked up in its list, and an index that is out
of range gives no result at all. On a machine in range the two forms agree (`Indexed.run_eq_some`),
so no run ever meets such an index (`Indexed.of_eq_some`).

The last theorem gathers what holds of every run of every manifest with every host.
-/

set_option autoImplicit false

namespace VideoSurvey.Wizard

open Overlay (Manifest Step)

namespace Indexed

/-- Sets the entry at an index, if there is one. -/
def set? {α : Type} (l : List α) (i : Nat) (a : α) : Option (List α) :=
  if i < l.length then some (l.set i a) else none

/-- The active step; the mark of a step is looked up only where the machine stands. -/
def active (m : Machine) (step : Nat) : Option (Option Step) :=
  match m.phase with
  | .step index =>
      if index = step then do
        let done ← m.submitted[step]?
        some (if done then none else m.manifest.steps[step]?)
      else some none
  | _ => some none

/-- Whether the submit control of a step is armed. -/
def isSubmitArmed (m : Machine) (step : Nat) : Option Bool := do
  match ← active m step with
  | none => some false
  | some s =>
      match s.guard with
      | .starSelected => do
          let count ← m.stars[step]?
          some (decide (0 < count))
      | .always => some true

/-- The id of what is shown. -/
def activeStepId (m : Machine) : Option String :=
  match m.phase with
  | .step index => do
      let s ← m.manifest.steps[index]?
      some s.stepId
  | _ => some m.manifest.closing.stepId

/-- Chooses a number of stars. -/
def selectStar (m : Machine) (step count : Nat) : Option (Bool × Machine) := do
  match ← active m step with
  | none => some (false, m)
  | some s =>
      if s.capture ≠ .starCount ∨ count < 1 ∨ s.maxStars < count then some (false, m)
      else do
        let stars ← set? m.stars step count
        some (true, { m with stars })

/-- Gives a text. -/
def inputText (m : Machine) (step : Nat) (value : String) : Option (Bool × Machine) := do
  match ← active m step with
  | none => some (false, m)
  | some s =>
      if s.capture ≠ .textInput then some (false, m)
      else do
        let inputs ← set? m.inputs step value
        some (true, { m with inputs })

/-- What a step has captured, if that is enough to submit it. -/
def captured (m : Machine) (step : Nat) (s : Step) : Option (Option Captured) :=
  match s.capture with
  | .starCount => do
      let count ← m.stars[step]?
      some (if s.guard = .starSelected ∧ count = 0 then none
        else some (.feedback (starsText count)))
  | .textInput => do
      let text ← m.inputs[step]?
      some (some (.text text))

section Host

variable {σ : Type} (host : Host σ)

/-- Submits a step. -/
def submit (m : Machine) (step : Nat) (h : σ) : Option (Bool × Machine × σ) := do
  match ← active m step with
  | none => some (false, m, h)
  | some s =>
      match ← captured m step s with
      | none => some (false, m, h)
      | some value => do
          let submitted ← set? m.submitted step true
          let (time, h) := host.currentTime h
          let h := host.track s.analytics.channel (Machine.eventOf s value (time.getD 0)) h
          some (true, { m with submitted }.enter s.next, h)

/-- Carries out an operation. Moving time looks nothing up. -/
def run (m : Machine) (h : σ) : Operation → Option (Bool × Machine × σ)
  | .selectStar step count => do
      let (taken, m) ← selectStar m step count
      some (taken, m, h)
  | .inputText step value => do
      let (taken, m) ← inputText m step value
      some (taken, m, h)
  | .submit step => submit host m step h
  | .advance ms => some (true, m.advance host ms h)

/-- Carries out one more call of a run. -/
def perform (r : Run σ) (c : Call σ) : Option (Run σ) := do
  let h := c.before r.host
  let (taken, machine, h') ← run host r.machine h c.operation
  some ⟨machine, h', r.history ++ [⟨c.operation, c.offset host r.host, taken⟩]⟩

/-- The run of a manifest's machine through some calls. -/
def of (manifest : Manifest) (h : σ) (calls : List (Call σ)) : Option (Run σ) :=
  calls.foldlM (perform host) ⟨Machine.start manifest, h, []⟩

end Host

/-! ## Agreement on machines in range -/

theorem set?_of_lt {α : Type} {l : List α} {i : Nat} (h : i < l.length) (a : α) :
    set? l i a = some (l.set i a) :=
  if_pos h

theorem getElem?_eq_some_getD {α : Type} {l : List α} {i : Nat} (h : i < l.length) (d : α) :
    l[i]? = some (l.getD i d) := by
  rw [List.getD_eq_getElem?_getD, List.getElem?_eq_getElem h, Option.getD_some]

variable {m : Machine}

theorem active_eq_some (hm : m.InRange) (step : Nat) : active m step = some (m.active? step) := by
  unfold active Machine.active?
  cases hp : m.phase with
  | step index =>
      by_cases hi : index = step
      · subst hi
        have hlt : index < m.submitted.length := by
          rw [hm.submitted]
          exact hm.phase index hp
        -- in range the mark is there, so what stands in for a missing one is not used
        have hmark : m.submitted[index]? = some (m.isSubmitted index) :=
          getElem?_eq_some_getD hlt true
        rw [hmark]
        cases m.isSubmitted index with
        | true => simp
        | false => simp
      · simp [hi]
  | thankYou => rfl
  | dismissing => rfl
  | closed => rfl

theorem isSubmitArmed_eq_some (hm : m.InRange) (step : Nat) :
    isSubmitArmed m step = some (m.isSubmitArmed step) := by
  unfold isSubmitArmed Machine.isSubmitArmed
  rw [active_eq_some hm]
  cases ha : m.active? step with
  | none => rfl
  | some s =>
      have hlt : step < m.stars.length := by
        rw [hm.stars]
        exact hm.active ha
      cases hg : s.guard with
      | starSelected =>
          simp only [Option.bind_eq_bind, Option.bind_some, getElem?_eq_some_getD hlt 0]
          simp [hg, Machine.selectedStars]
      | always => simp [hg]

theorem activeStepId_eq_some (hm : m.InRange) : activeStepId m = some m.activeStepId := by
  unfold activeStepId Machine.activeStepId
  cases hp : m.phase with
  | step index =>
      have hlt := hm.phase index hp
      simp [List.getElem?_eq_getElem hlt]
  | thankYou => rfl
  | dismissing => rfl
  | closed => rfl

theorem selectStar_eq_some (hm : m.InRange) (step count : Nat) :
    selectStar m step count = some (m.selectStar step count) := by
  unfold selectStar Machine.selectStar
  rw [active_eq_some hm]
  cases ha : m.active? step with
  | none => rfl
  | some s =>
      have hlt : step < m.stars.length := by
        rw [hm.stars]
        exact hm.active ha
      simp only [Option.bind_eq_bind, Option.bind_some, set?_of_lt hlt]
      by_cases hc : s.capture = .starCount ∧ 1 ≤ count ∧ count ≤ s.maxStars
      · obtain ⟨h1, h2, h3⟩ := hc
        -- the two forms test the same three conditions, one for success and one for refusal
        have hno : ¬ (s.capture ≠ .starCount ∨ count < 1 ∨ s.maxStars < count) := by
          rintro (h | h | h)
          · exact h h1
          · omega
          · omega
        rw [if_neg hno, if_pos (by simp [h1, h2, h3])]
      · have hyes : s.capture ≠ .starCount ∨ count < 1 ∨ s.maxStars < count := by
          by_cases h1 : s.capture = .starCount
          · by_cases h2 : 1 ≤ count
            · exact .inr (.inr (Nat.lt_of_not_le fun h3 => hc ⟨h1, h2, h3⟩))
            · exact .inr (.inl (Nat.lt_of_not_le h2))
          · exact .inl h1
        rw [if_pos hyes, if_neg]
        simpa [and_assoc] using hc

theorem inputText_eq_some (hm : m.InRange) (step : Nat) (value : String) :
    inputText m step value = some (m.inputText step value) := by
  unfold inputText Machine.inputText
  rw [active_eq_some hm]
  cases ha : m.active? step with
  | none => rfl
  | some s =>
      have hlt : step < m.inputs.length := by
        rw [hm.inputs]
        exact hm.active ha
      simp only [Option.bind_eq_bind, Option.bind_some, set?_of_lt hlt]
      by_cases hc : s.capture = .textInput
      · simp [hc]
      · simp [hc]

theorem captured_eq_some (hm : m.InRange) {step : Nat} {s : Step} (ha : m.active? step = some s) :
    captured m step s = some (m.captured? step s) := by
  have hlt := hm.active ha
  unfold captured Machine.captured?
  cases hc : s.capture with
  | starCount =>
      rw [getElem?_eq_some_getD (hm.stars ▸ hlt) 0]
      simp [Machine.selectedStars]
  | textInput =>
      rw [getElem?_eq_some_getD (hm.inputs ▸ hlt) ""]
      simp [Machine.enteredText]

section Host

variable {σ : Type} (host : Host σ)

theorem submit_eq_some (hm : m.InRange) (step : Nat) (h : σ) :
    submit host m step h = some (m.submit host step h) := by
  unfold submit Machine.submit
  rw [active_eq_some hm]
  cases ha : m.active? step with
  | none => rfl
  | some s =>
      have hlt : step < m.submitted.length := by
        rw [hm.submitted]
        exact hm.active ha
      simp only [Option.bind_eq_bind, Option.bind_some, captured_eq_some hm ha, set?_of_lt hlt]
      cases hc : m.captured? step s with
      | none => rfl
      | some value => rfl

/-- **On a machine in range every index an operation looks up is there.** -/
theorem run_eq_some (hm : m.InRange) (h : σ) (operation : Operation) :
    run host m h operation = some (operation.run host m h) := by
  cases operation with
  | selectStar step count => simp [run, Operation.run, selectStar_eq_some hm]
  | inputText step value => simp [run, Operation.run, inputText_eq_some hm]
  | submit step => exact submit_eq_some host hm step h
  | advance ms => rfl

theorem perform_eq_some {r : Run σ} (hr : r.machine.InRange) (c : Call σ) :
    perform host r c = some (r.perform host c) := by
  simp [perform, run_eq_some host hr, Run.perform]

theorem foldlM_perform_eq_some (calls : List (Call σ)) {r : Run σ} (hr : r.machine.InRange) :
    calls.foldlM (perform host) r = some (calls.foldl (Run.perform host) r) := by
  induction calls generalizing r with
  | nil => rfl
  | cons c calls ih =>
      rw [List.foldlM_cons, List.foldl_cons, perform_eq_some host hr]
      exact ih ((Run.outcome host r c).inRange hr).2

/-- **No run ever looks up an index that is out of range.** -/
theorem of_eq_some (manifest : Manifest) (h : σ) (calls : List (Call σ)) :
    of host manifest h calls = some (Run.of host manifest h calls) :=
  foldlM_perform_eq_some host calls (Machine.start_inRange manifest)

end Host

end Indexed

/-- **Every run of every manifest.** With any host and any calls, each step is submitted at most
once; as many events are filed as submissions are taken, and never more than there are steps; the
machine stands before a step that is there, its lists keep an entry for each step, and no index
that an operation or a question about the machine looks up is out of range. -/
theorem submissions_once_and_indices_in_range {σ : Type} (host : Host σ) (manifest : Manifest)
    (h : σ) (calls : List (Call σ)) :
    let r := Run.of host manifest h calls
    (∀ step, r.submissions.count step ≤ 1) ∧
      (∃ log, Run.of host.traced manifest (h, []) (calls.map Call.traced) =
          ⟨r.machine, (r.host, log), r.history⟩ ∧
        log.countP HostCall.isTrack = r.submissions.length) ∧
      r.submissions.length ≤ manifest.steps.length ∧
      (∀ index, r.machine.phase = .step index → index < manifest.steps.length) ∧
      r.machine.submitted.length = manifest.steps.length ∧
      r.machine.stars.length = manifest.steps.length ∧
      r.machine.inputs.length = manifest.steps.length ∧
      Indexed.of host manifest h calls = some r ∧
      (∀ step, Indexed.active r.machine step = some (r.machine.active? step)) ∧
      (∀ step, Indexed.isSubmitArmed r.machine step = some (r.machine.isSubmitArmed step)) ∧
      Indexed.activeStepId r.machine = some r.machine.activeStepId := by
  intro r
  have hs : r.Sound manifest := Run.of_sound h calls
  have hm := hs.inRange
  refine ⟨?_, of_traced host manifest h calls, ?_, ?_, ?_, ?_, ?_,
    Indexed.of_eq_some host manifest h calls, Indexed.active_eq_some hm,
    Indexed.isSubmitArmed_eq_some hm, Indexed.activeStepId_eq_some hm⟩
  · intro step
    rw [hs.count step]
    split
    · exact Nat.le_refl 1
    · exact Nat.zero_le 1
  · calc
      r.submissions.length = r.machine.submitted.count true := hs.total
      _ ≤ r.machine.submitted.length := List.count_le_length
      _ = manifest.steps.length := by rw [hm.submitted, hs.manifest_eq]
  · intro index hi
    rw [← hs.manifest_eq]
    exact hm.phase index hi
  · rw [hm.submitted, hs.manifest_eq]
  · rw [hm.stars, hs.manifest_eq]
  · rw [hm.inputs, hs.manifest_eq]

end VideoSurvey.Wizard
