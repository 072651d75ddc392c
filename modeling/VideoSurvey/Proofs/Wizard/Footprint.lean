import VideoSurvey.Proofs.Wizard.Completion

/-!
# What a call touches

Choosing stars, giving a text and submitting name a step. Such a call is refused unless the machine
stands before this step, and a refusal touches nothing: the machine stays as it is, and the host is
not called. What is taken goes into the entry of the named step, in the one list that the call is
there for; the clock stays, and only a submission goes on to another phase or calls the host
(`KeepsToStep`, `visit_cases`). So what is kept for a step stays through any calls that do not name
the step (`Run.kept_of_unnamed`).
-/

set_option autoImplicit false

namespace VideoSurvey.Wizard

open Overlay (Manifest Step)

/-- The step that an operation names. Moving time names none. -/
def Operation.step? : Operation → Option Nat
  | .selectStar step _ => some step
  | .inputText step _ => some step
  | .submit step => some step
  | .advance _ => none

theorem Operation.step?_eq_none {operation : Operation} (hstep : operation.step? = none) :
    ∃ ms, operation = .advance ms := by
  cases operation with
  | advance ms => exact ⟨ms, rfl⟩
  | _ => cases hstep

/-- The entry that an operation is there for has what the operation gives. -/
def Operation.Entered (m : Machine) : Operation → Prop
  | .selectStar step count => m.stars[step]? = some count
  | .inputText step value => m.inputs[step]? = some value
  | .submit step => m.submitted[step]? = some true
  | .advance _ => True

/-- What a machine keeps for a step. -/
def Machine.kept (m : Machine) (step : Nat) : Option Bool × Option Nat × Option String :=
  (m.submitted[step]?, m.stars[step]?, m.inputs[step]?)

/-- What a call that was taken has done to the machine and the host. -/
structure KeepsToStep {σ : Type} (operation : Operation) (step : Nat) (m m' : Machine)
    (h h' : σ) : Prop where
  /-- The machine stood before the step that is named. -/
  stands : m.phase = .step step
  entered : operation.Entered m'
  manifest : m'.manifest = m.manifest
  now : m'.now = m.now
  stars : ∀ j, (∀ count, operation ≠ .selectStar j count) → m'.stars[j]? = m.stars[j]?
  inputs : ∀ j, (∀ value, operation ≠ .inputText j value) → m'.inputs[j]? = m.inputs[j]?
  submitted : ∀ j, operation ≠ .submit j → m'.submitted[j]? = m.submitted[j]?
  /-- Only a submission goes on and calls the host. -/
  still : operation ≠ .submit step →
    m'.phase = m.phase ∧ m'.timer = m.timer ∧
      m'.acknowledgmentVisible = m.acknowledgmentVisible ∧ h' = h

/-! ## One call -/

section Taken

variable {σ : Type} {m : Machine} {step : Nat} {s : Step}

theorem selectStar_keepsToStep (hm : m.InRange) (ha : m.active? step = some s) (count : Nat)
    (h : σ) :
    KeepsToStep (.selectStar step count) step m { m with stars := m.stars.set step count } h
      h := by
  have hlt : step < m.stars.length := by
    rw [hm.stars]
    exact hm.active ha
  refine
    { stands := (Machine.active?_eq_some_iff.1 ha).1
      entered := List.getElem?_set_self hlt
      manifest := rfl
      now := rfl
      stars := ?_
      inputs := fun _ _ => rfl
      submitted := fun _ _ => rfl
      still := fun _ => ⟨rfl, rfl, rfl, rfl⟩ }
  -- at the index that is set, the call is one that chooses stars there
  intro j hj
  apply List.getElem?_set_ne
  rintro rfl
  exact hj count rfl

theorem inputText_keepsToStep (hm : m.InRange) (ha : m.active? step = some s) (value : String)
    (h : σ) :
    KeepsToStep (.inputText step value) step m { m with inputs := m.inputs.set step value } h
      h := by
  have hlt : step < m.inputs.length := by
    rw [hm.inputs]
    exact hm.active ha
  refine
    { stands := (Machine.active?_eq_some_iff.1 ha).1
      entered := List.getElem?_set_self hlt
      manifest := rfl
      now := rfl
      stars := fun _ _ => rfl
      inputs := ?_
      submitted := fun _ _ => rfl
      still := fun _ => ⟨rfl, rfl, rfl, rfl⟩ }
  intro j hj
  apply List.getElem?_set_ne
  rintro rfl
  exact hj value rfl

theorem submit_keepsToStep (hm : m.InRange) (ha : m.active? step = some s)
    (next : Overlay.Transition) (h h' : σ) :
    KeepsToStep (.submit step) step m
      ({ m with submitted := m.submitted.set step true }.enter next) h h' := by
  have hlt : step < m.submitted.length := by
    rw [hm.submitted]
    exact hm.active ha
  -- the transition starts from the machine with the mark, and leaves its lists and its clock
  obtain ⟨hmanifest, hsubmitted, hstars, hinputs, hnow⟩ :=
    Machine.enter_keeps { m with submitted := m.submitted.set step true } next
  refine
    { stands := (Machine.active?_eq_some_iff.1 ha).1
      entered := ?_
      manifest := hmanifest
      now := hnow
      stars := fun j _ => congrArg (·[j]?) hstars
      inputs := fun j _ => congrArg (·[j]?) hinputs
      submitted := ?_
      still := fun hne => absurd rfl hne }
  · exact (congrArg (·[step]?) hsubmitted).trans (List.getElem?_set_self hlt)
  · intro j hj
    rw [hsubmitted]
    apply List.getElem?_set_ne
    rintro rfl
    exact hj rfl

end Taken

section Host

variable {σ : Type} (host : Host σ)

/-- **A call that names a step changes nothing, or keeps to the step.** -/
theorem visit_cases {m : Machine} (hm : m.InRange) {operation : Operation} {step : Nat}
    (hstep : operation.step? = some step) (h : σ) :
    operation.run host m h = (false, m, h) ∨
      ∃ m' h', operation.run host m h = (true, m', h') ∧ KeepsToStep operation step m m' h h' := by
  cases operation with
  | selectStar i count =>
      obtain rfl := Option.some.inj hstep
      have hrun : (Operation.selectStar i count).run host m h =
        ((m.selectStar i count).1, (m.selectStar i count).2, h) := rfl
      rw [hrun]
      rcases m.selectStar_cases i count with e | ⟨s, ha, -, -, -, e⟩
      · rw [e]
        exact .inl rfl
      · rw [e]
        exact .inr ⟨_, h, rfl, selectStar_keepsToStep hm ha count h⟩
  | inputText i value =>
      obtain rfl := Option.some.inj hstep
      have hrun : (Operation.inputText i value).run host m h =
        ((m.inputText i value).1, (m.inputText i value).2, h) := rfl
      rw [hrun]
      rcases m.inputText_cases i value with e | ⟨s, ha, -, e⟩
      · rw [e]
        exact .inl rfl
      · rw [e]
        exact .inr ⟨_, h, rfl, inputText_keepsToStep hm ha value h⟩
  | submit i =>
      obtain rfl := Option.some.inj hstep
      rcases m.submit_cases host i h with e | ⟨s, value, ha, -, e⟩
      · exact .inl e
      · exact .inr ⟨_, _, e, submit_keepsToStep hm ha s.next h _⟩
  | advance ms => cases hstep

/-- What is kept for the other steps stays. -/
theorem KeepsToStep.kept {operation : Operation} {step j : Nat} {m m' : Machine} {h h' : σ}
    (hk : KeepsToStep operation step m m' h h') (hj : operation.step? ≠ some j) :
    m'.kept j = m.kept j := by
  -- whatever sets an entry of `j` names `j`
  have hstars : ∀ count, operation ≠ .selectStar j count := by
    rintro count rfl
    exact hj rfl
  have hinputs : ∀ value, operation ≠ .inputText j value := by
    rintro value rfl
    exact hj rfl
  have hsubmitted : operation ≠ .submit j := by
    rintro rfl
    exact hj rfl
  rw [Machine.kept, Machine.kept, hk.stars j hstars, hk.inputs j hinputs,
    hk.submitted j hsubmitted]

/-! ## A run -/

namespace Run

/-- One call that does not name a step. -/
theorem kept_perform {r : Run σ} (hr : r.machine.InRange) {c : Call σ} {j : Nat}
    (hj : c.operation.step? ≠ some j) : (r.perform host c).machine.kept j = r.machine.kept j := by
  show (c.operation.run host r.machine (c.before r.host)).2.1.kept j = r.machine.kept j
  cases hstep : c.operation.step? with
  | none =>
      -- only moving time names no step, and it leaves what the visitor did
      obtain ⟨ms, hms⟩ := Operation.step?_eq_none hstep
      have hsame := (r.machine.advance_sameAnswers host ms (c.before r.host)).1
      rw [hms]
      show (r.machine.advance host ms (c.before r.host)).1.kept j = r.machine.kept j
      rw [Machine.kept, Machine.kept, hsame.submitted, hsame.stars, hsame.inputs]
  | some step =>
      rcases visit_cases host hr hstep (c.before r.host) with e | ⟨m', h', e, hk⟩
      · rw [e]
      · rw [e]
        exact hk.kept hj

/-- **What is kept for a step stays until a call names the step.** -/
theorem kept_of_unnamed (manifest : Manifest) (h : σ) (calls more : List (Call σ)) {j : Nat}
    (hmore : ∀ c ∈ more, c.operation.step? ≠ some j) :
    (of host manifest h (calls ++ more)).machine.kept j =
      (of host manifest h calls).machine.kept j := by
  have hr : (of host manifest h calls).machine.InRange := (of_sound h calls).inRange
  rw [of_append]
  -- from any run in range, each further call leads to one in range again
  generalize of host manifest h calls = r at hr
  induction more generalizing r with
  | nil => rfl
  | cons c more ih =>
      obtain ⟨hc, hmore⟩ := List.forall_mem_cons.1 hmore
      have hnext : (r.perform host c).machine.InRange := ((outcome host r c).inRange hr).2
      exact (ih hmore (r.perform host c) hnext).trans (kept_perform host hr hc)

end Run

end Host

/-- **A call keeps to the step that it names.** After any calls on the machine of any manifest, with
any host, one that counts its calls among them: a call that is refused leaves the whole machine and
the host as they are; a call that is taken keeps to its step, and what is kept for the other steps
stays; and a call that names another step than the one the machine stands before is refused. What
is kept for any step stays through all further calls that do not name it. -/
theorem visits_keep_to_step {σ : Type} (host : Host σ) (manifest : Manifest) (h : σ)
    (calls : List (Call σ)) (operation : Operation) (step : Nat)
    (hstep : operation.step? = some step) (now : σ) :
    let m := (Run.of host manifest h calls).machine
    let after := operation.run host m now
    (after.1 = false → after.2 = (m, now)) ∧
      (after.1 = true → KeepsToStep operation step m after.2.1 now after.2.2 ∧
        ∀ j, j ≠ step → after.2.1.kept j = m.kept j) ∧
      (m.phase ≠ .step step → after.1 = false) ∧
      ∀ (more : List (Call σ)) (j : Nat), (∀ c ∈ more, c.operation.step? ≠ some j) →
        (Run.of host manifest h (calls ++ more)).machine.kept j = m.kept j := by
  intro m after
  have hm : m.InRange := (Run.of_sound h calls).inRange
  have hmore := fun (more : List (Call σ)) (j : Nat) =>
    Run.kept_of_unnamed host manifest h calls more (j := j)
  rcases visit_cases host hm hstep now with e | ⟨m', h', e, hk⟩
  · have hafter : after = (false, m, now) := e
    rw [hafter]
    exact ⟨fun _ => rfl, by rintro ⟨⟩, fun _ => rfl, hmore⟩
  · have hafter : after = (true, m', h') := e
    rw [hafter]
    refine ⟨by rintro ⟨⟩, ?_, fun hphase => absurd hk.stands hphase, hmore⟩
    intro _
    refine ⟨hk, ?_⟩
    intro j hj
    apply hk.kept
    rw [hstep]
    exact fun hsome => hj (Option.some.inj hsome).symm

/-- Of two questions the first is asked. Stars for the second are refused; the first is submitted
with four stars, and what is kept for the second stays. -/
theorem visits_keep_to_step_two_questions :
    let question (id : String) (next : Overlay.Transition) : Step :=
      { Step.blank with stepId := id, guard := .starSelected, capture := .starCount
                        maxStars := 5, next := next }
    let manifest : Manifest :=
      { callback := "done"
        initial := .step 0 "question-1"
        steps := [question "question-1" (.step 1 "question-2"), question "question-2" .thankYou]
        closing := ⟨"thank-you-step", 3000, 300, 8000⟩ }
    let r := Run.of recordingHost manifest Recording.start [⟨id, .selectStar 0 4⟩]
    (Operation.selectStar 1 2).run recordingHost r.machine r.host = (false, r.machine, r.host) ∧
      ∃ m' h', (Operation.submit 0).run recordingHost r.machine r.host = (true, m', h') ∧
        m'.phase = .step 1 ∧ m'.submitted[0]? = some true ∧ m'.kept 1 = r.machine.kept 1 := by
  intro question manifest r
  have hvisit (operation : Operation) (step : Nat) (hstep : operation.step? = some step) :=
    visits_keep_to_step recordingHost manifest Recording.start [⟨id, .selectStar 0 4⟩] operation
      step hstep r.host
  obtain ⟨hsame, -, hrefused, -⟩ := hvisit (.selectStar 1 2) 1 rfl
  obtain ⟨-, htaken, -⟩ := hvisit (.submit 0) 0 rfl
  obtain ⟨hk, hkept⟩ := htaken (by decide)
  constructor
  · have hfalse := hrefused (by decide)
    exact Prod.ext hfalse (hsame hfalse)
  · exact ⟨_, _, rfl, by decide, hk.entered, hkept 1 (by decide)⟩

end VideoSurvey.Wizard
