import VideoSurvey.Proofs.Wizard.Runs

/-!
# Submitted once, and never out of range

Two things hold of every run, whatever the manifest says: its transitions may lead back to a step,
to themselves or nowhere. A step is submitted at most once, so there are at most as many
submissions as steps and one event for each of them. And the machine stands before a step that is
there, with an entry for each step in its three lists (`Machine.InRange`).

The second fact is put to use where the operations are stated with every entry looked up in its
list, so that an index out of range would give no result.
-/

set_option autoImplicit false

namespace VideoSurvey.Wizard

open Overlay (Manifest Step)

/-- Each list has an entry for every step, and the machine stands before a step that is there. -/
structure Machine.InRange (m : Machine) : Prop where
  submitted : m.submitted.length = m.manifest.steps.length
  stars : m.stars.length = m.manifest.steps.length
  inputs : m.inputs.length = m.manifest.steps.length
  phase : ∀ index, m.phase = .step index → index < m.manifest.steps.length

namespace Machine

theorem InRange.enter {m : Machine} (hm : m.InRange) (t : Overlay.Transition) :
    (m.enter t).InRange := by
  obtain ⟨e1, e2, e3, e4, -⟩ := m.enter_keeps t
  refine ⟨by rw [e2, e1, hm.submitted], by rw [e3, e1, hm.stars], by rw [e4, e1, hm.inputs], ?_⟩
  intro index hi
  rw [e1]
  rcases m.enter_cases t with ⟨i, target, -, hlt, e⟩ | ⟨-, e⟩
  · rw [e] at hi
    obtain rfl := Phase.step.inj hi
    exact hlt
  · rw [e] at hi
    cases hi

theorem start_manifest (manifest : Manifest) : (start manifest).manifest = manifest :=
  (enter_keeps _ manifest.initial).1

theorem start_inRange (manifest : Manifest) : (start manifest).InRange := by
  obtain ⟨e1, e2, e3, e4, -⟩ := enter_keeps
    { manifest
      phase := .closed
      submitted := List.replicate manifest.steps.length false
      stars := List.replicate manifest.steps.length 0
      inputs := List.replicate manifest.steps.length ""
      now := 0
      timer := none
      acknowledgmentVisible := false } manifest.initial
  refine InRange.enter ⟨?_, ?_, ?_, ?_⟩ manifest.initial
  · exact List.length_replicate
  · exact List.length_replicate
  · exact List.length_replicate
  · rintro index ⟨⟩

theorem InRange.active {m : Machine} (hm : m.InRange) {step : Nat} {s : Step}
    (ha : m.active? step = some s) : step < m.manifest.steps.length :=
  hm.phase step (active?_eq_some_iff.1 ha).1

/-- A step that is active has an entry among the marks, and it is not set. -/
theorem InRange.mark_of_active {m : Machine} (hm : m.InRange) {step : Nat} {s : Step}
    (ha : m.active? step = some s) : m.submitted[step]? = some false := by
  have hlt : step < m.submitted.length := by
    rw [hm.submitted]
    exact hm.active ha
  have h := (active?_eq_some_iff.1 ha).2.1
  unfold isSubmitted at h
  rw [List.getD_eq_getElem?_getD, List.getElem?_eq_getElem hlt] at h
  rw [List.getElem?_eq_getElem hlt]
  exact congrArg some h

/-- Moving time keeps a machine in range. -/
theorem InRange.advance {m : Machine} (hm : m.InRange) {σ : Type} (host : Host σ) (ms : Nat)
    (h : σ) : (m.advance host ms h).1.InRange := by
  obtain ⟨hs, hp⟩ := m.advance_sameAnswers host ms h
  refine ⟨by rw [hs.submitted, hs.manifest, hm.submitted],
    by rw [hs.stars, hs.manifest, hm.stars], by rw [hs.inputs, hs.manifest, hm.inputs], ?_⟩
  intro index hi
  rw [hs.manifest]
  rcases hp with hp | hp | hp
  · exact hm.phase index (hp.symm.trans hi)
  · rw [hp] at hi
    cases hi
  · rw [hp] at hi
    cases hi

end Machine

/-! ## At most once -/

/-- What every run keeps: its manifest, its lists, and a mark at exactly the steps that were
submitted. -/
structure Run.Sound {σ : Type} (manifest : Manifest) (r : Run σ) : Prop where
  manifest_eq : r.machine.manifest = manifest
  inRange : r.machine.InRange
  count : ∀ step, r.submissions.count step = if r.machine.submitted[step]? = some true then 1 else 0
  total : r.submissions.length = r.machine.submitted.count true

namespace Run

variable {σ : Type} {host : Host σ} {manifest : Manifest}

theorem start_sound (h : σ) : Sound manifest (⟨Machine.start manifest, h, []⟩ : Run σ) := by
  have e : (Machine.start manifest).submitted = List.replicate manifest.steps.length false :=
    (Machine.enter_keeps _ manifest.initial).2.1
  refine ⟨Machine.start_manifest manifest, Machine.start_inRange manifest, ?_, ?_⟩
  · intro step
    have hne : ¬ (Machine.start manifest).submitted[step]? = some true := by
      rw [e, List.getElem?_replicate]
      split
      · rintro ⟨⟩
      · rintro ⟨⟩
    show 0 = if (Machine.start manifest).submitted[step]? = some true then 1 else 0
    rw [if_neg hne]
  · show 0 = (Machine.start manifest).submitted.count true
    rw [e, List.count_replicate]
    rfl

/-- A call leaves the manifest, and the lists and the phase in range. -/
theorem Outcome.inRange {r r' : Run σ} {c : Call σ} (ho : Outcome host r c r')
    (hm : r.machine.InRange) :
    r'.machine.manifest = r.machine.manifest ∧ r'.machine.InRange := by
  cases ho with
  | refused _ => exact ⟨rfl, hm⟩
  | starred step count s _ _ _ _ _ =>
      exact ⟨rfl, hm.submitted, (List.length_set ..).trans hm.stars, hm.inputs, hm.phase⟩
  | typed step text s _ _ _ =>
      exact ⟨rfl, hm.submitted, hm.stars, (List.length_set ..).trans hm.inputs, hm.phase⟩
  | submitted step s value _ _ _ =>
      refine ⟨(Machine.enter_keeps _ s.next).1, Machine.InRange.enter ?_ s.next⟩
      exact ⟨(List.length_set ..).trans hm.submitted, hm.stars, hm.inputs, hm.phase⟩
  | moved ms _ => exact ⟨(r.machine.advance_sameAnswers host ms _).1.manifest, hm.advance host ms _⟩

/-- A call that is not a submission, or is refused, submits no step and leaves the marks. -/
theorem Outcome.marks {r r' : Run σ} {c : Call σ} (ho : Outcome host r c r') :
    (∃ step s value, r.machine.active? step = some s ∧ r.machine.captured? step s = some value ∧
        r'.submissions = r.submissions ++ [step] ∧
        r'.machine.submitted = r.machine.submitted.set step true) ∨
      (r'.submissions = r.submissions ∧ r'.machine.submitted = r.machine.submitted) := by
  cases ho with
  | refused _ =>
      exact .inr ⟨submissions_append_of_none _ _ _ (Entry.submitted?_of_refused _ _), rfl⟩
  | starred step count s _ _ _ _ _ =>
      exact .inr ⟨submissions_append_of_none _ _ _ rfl, rfl⟩
  | typed step text s _ _ _ =>
      exact .inr ⟨submissions_append_of_none _ _ _ rfl, rfl⟩
  | submitted step s value _ ha hc =>
      refine .inl ⟨step, s, value, ha, hc, ?_, (Machine.enter_keeps _ s.next).2.1⟩
      rw [submissions_append]
      rfl
  | moved ms _ =>
      exact .inr ⟨submissions_append_of_none _ _ _ rfl,
        (r.machine.advance_sameAnswers host ms _).1.submitted⟩

/-- One call keeps a run sound. -/
theorem Sound.outcome {r r' : Run σ} {c : Call σ} (hr : Sound manifest r)
    (ho : Outcome host r c r') : Sound manifest r' := by
  obtain ⟨hman, hin⟩ := ho.inRange hr.inRange
  refine ⟨hman.trans hr.manifest_eq, hin, ?_, ?_⟩
  · intro step'
    rcases ho.marks with ⟨step, s, value, ha, -, es, em⟩ | ⟨es, em⟩
    · -- the step was unmarked, so it was not counted before and is counted once now
      have hmark := hr.inRange.mark_of_active ha
      rw [es, em, List.count_append, hr.count step', List.getElem?_set]
      by_cases hs : step = step'
      · subst hs
        have hlt := (List.getElem?_eq_some_iff.1 hmark).1
        rw [hmark, if_pos rfl, if_pos hlt]
        simp
      · rw [if_neg hs]
        simp [hs]
    · rw [es, em, hr.count step']
  · rcases ho.marks with ⟨step, s, value, ha, -, es, em⟩ | ⟨es, em⟩
    · obtain ⟨hlt, hfalse⟩ := List.getElem?_eq_some_iff.1 (hr.inRange.mark_of_active ha)
      rw [es, em, List.length_append, hr.total]
      unfold List.count
      -- one mark more, for the mark that is set was not set before
      rw [List.countP_set hlt, hfalse]
      simp
    · rw [es, em, hr.total]

/-- Every run is sound. -/
theorem of_sound (h : σ) (calls : List (Call σ)) : Sound manifest (of host manifest h calls) :=
  of_outcomes (start_sound h) fun _ _ _ _ hr ho => hr.outcome ho

end Run

end VideoSurvey.Wizard
