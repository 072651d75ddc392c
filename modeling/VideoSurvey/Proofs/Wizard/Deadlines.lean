import VideoSurvey.Proofs.Wizard.Completion
import VideoSurvey.Proofs.Wizard.HandBack

/-!
# The two deadlines of a run

`Run.MessageShownAt` says that the last of some calls, or the start, shows the closing message, and
when. From then on no visitor's call changes the machine (`Outcome.closing`), and every move of time
keeps to the deadlines that were fixed at that moment (`Deadlines.outcome`). So once time has moved,
the clock alone tells where the machine stands, and the clock is the time that was asked for
(`closing_by_the_clock`).
-/

set_option autoImplicit false

namespace VideoSurvey.Wizard

open Overlay (Manifest)

/-- How far a call asks to move time. -/
def Call.duration {σ : Type} (c : Call σ) : Nat :=
  match c.operation with
  | .advance ms => ms
  | _ => 0

namespace Run

variable {σ : Type} {host : Host σ} {manifest : Manifest}

/-- The closing message is shown by the last of these calls, or at the start if there is none, and
the clock stands at a time. -/
structure MessageShownAt (host : Host σ) (manifest : Manifest) (h : σ) (calls : List (Call σ))
    (t : Nat) : Prop where
  phase : (of host manifest h calls).machine.phase = .thankYou
  clock : (of host manifest h calls).machine.now = t
  entered : ∀ earlier c, calls = earlier ++ [c] →
    (of host manifest h earlier).machine.phase ≠ .thankYou

/-! ## The clock -/

/-- A history has moved time as far as the calls asked for. -/
theorem durations_foldl (calls : List (Call σ)) (r : Run σ) :
    (calls.foldl (perform host) r).history.map Entry.duration =
      r.history.map Entry.duration ++ calls.map Call.duration := by
  induction calls generalizing r with
  | nil => exact (List.append_nil _).symm
  | cons c calls ih =>
      have hone : (r.perform host c).history.map Entry.duration =
          r.history.map Entry.duration ++ [c.duration] := by
        unfold perform
        rw [List.map_append]
        rfl
      rw [List.foldl_cons, ih, hone, List.append_assoc]
      rfl

/-- **The clock of a run is the time that its calls asked for,** at most the latest. -/
theorem now_of (host : Host σ) (manifest : Manifest) (h : σ) (calls : List (Call σ)) :
    (of host manifest h calls).machine.now = min (calls.map Call.duration).sum latest := by
  have hclock : (of host manifest h calls).machine.now = elapsed (of host manifest h calls).history :=
    of_outcomes (P := fun r => r.machine.now = elapsed r.history)
      (Machine.enter_keeps _ manifest.initial).2.2.2.2 fun _ _ _ _ hr ho => ho.clock hr
  rw [hclock]
  unfold elapsed of
  rw [durations_foldl]
  rfl

/-! ## Showing the message -/

/-- A transition that shows the message fixes its deadlines by the clock. -/
theorem closingSince_enter {m : Machine} (hn : m.now ≤ latest) {t : Overlay.Transition}
    (hp : (m.enter t).phase = .thankYou) : (m.enter t).ClosingSince (m.enter t).now := by
  rcases m.enter_cases t with ⟨index, target, -, -, e⟩ | ⟨-, e⟩
  · rw [e] at hp
    cases hp
  · rw [e]
    exact Machine.closingSince_showThankYou hn

/-- A call that shows the message is a submission, and fixes the deadlines by the clock. -/
theorem Outcome.closingSince {r r' : Run σ} {c : Call σ} (ho : Outcome host r c r')
    (hn : r.machine.now ≤ latest) (hbefore : r.machine.phase ≠ .thankYou)
    (hp : r'.machine.phase = .thankYou) :
    (∃ step, c.operation = .submit step) ∧ r'.machine.ClosingSince r'.machine.now := by
  cases ho with
  | refused _ => exact absurd hp hbefore
  | starred step count s _ _ _ _ _ => exact absurd hp hbefore
  | typed step text s _ _ _ => exact absurd hp hbefore
  | submitted step s value operation _ _ =>
      exact ⟨⟨step, operation⟩, closingSince_enter
        (m := { r.machine with submitted := r.machine.submitted.set step true }) hn hp⟩
  | moved ms _ =>
      -- time leads away from the message, never to it
      rcases (r.machine.advance_sameAnswers host ms (c.before r.host)).2 with e | e | e
      · exact absurd (e.symm.trans hp) hbefore
      · cases e.symm.trans hp
      · cases e.symm.trans hp

/-- **The message is shown at the start or by a submission,** and its deadlines are fixed then. -/
theorem MessageShownAt.closingSince {h : σ} {calls : List (Call σ)} {t : Nat}
    (hs : MessageShownAt host manifest h calls t) :
    (calls = [] ∨ ∃ earlier c step, calls = earlier ++ [c] ∧ c.operation = .submit step) ∧
      (of host manifest h calls).machine.ClosingSince t := by
  obtain ⟨hphase, rfl, hentered⟩ := hs
  cases calls using List.reverseRecOn with
  | nil => exact ⟨.inl rfl, closingSince_enter (t := manifest.initial) (Nat.zero_le _) hphase⟩
  | append_singleton earlier c _ =>
      have hn : (of host manifest h earlier).machine.now ≤ latest := by
        rw [now_of]
        exact Nat.min_le_right _ _
      have hbefore := hentered earlier c rfl
      rw [of_append] at hphase ⊢
      obtain ⟨⟨step, operation⟩, hc⟩ :=
        (outcome host (of host manifest h earlier) c).closingSince hn hbefore hphase
      exact ⟨.inr ⟨earlier, c, step, rfl, operation⟩, hc⟩

/-! ## After the message -/

/-- Behind the steps a call moves time or changes nothing about the machine. -/
theorem Outcome.closing {r r' : Run σ} {c : Call σ} {t : Nat} (ho : Outcome host r c r')
    (hc : r.machine.ClosingSince t) :
    ((∀ ms, c.operation ≠ .advance ms) ∧ r'.machine = r.machine) ∨
      ∃ ms, c.operation = .advance ms ∧
        r'.machine = (r.machine.advance host ms (c.before r.host)).1 := by
  cases ho with
  | refused visitor => exact .inl ⟨visitor, rfl⟩
  | starred step count s _ active _ _ _ => cases (hc.active?_eq_none step).symm.trans active
  | typed step text s _ active _ => cases (hc.active?_eq_none step).symm.trans active
  | submitted step s value _ active _ => cases (hc.active?_eq_none step).symm.trans active
  | moved ms operation => exact .inr ⟨ms, operation, rfl⟩

/-- What holds behind the steps since the message was shown at a time: the machine keeps to the
deadlines, and once time has moved the message is shown only before its end. -/
structure Deadlines (t : Nat) (moved : Prop) (m : Machine) : Prop where
  since : m.ClosingSince t
  early : moved → m.phase = .thankYou → m.now < m.messageEnd t

/-- **One call keeps to the deadlines.** -/
theorem Deadlines.outcome {r r' : Run σ} {c : Call σ} {t : Nat} {moved : Prop}
    (hd : Deadlines t moved r.machine) (ho : Outcome host r c r') :
    Deadlines t (moved ∨ ∃ ms, c.operation = .advance ms) r'.machine := by
  rcases ho.closing hd.since with ⟨visitor, e⟩ | ⟨ms, -, e⟩
  · rw [e]
    refine ⟨hd.since, ?_⟩
    rintro (h | ⟨ms, h⟩)
    · exact hd.early h
    · exact absurd h (visitor ms)
  · rw [e]
    obtain ⟨hsince, hearly⟩ := hd.since.advance host ms (c.before r.host)
    refine ⟨hsince, fun _ hp => ?_⟩
    have hm := (r.machine.advance_sameAnswers host ms (c.before r.host)).1.manifest
    unfold Machine.messageEnd
    rw [hm]
    exact hearly hp

/-- **Any calls keep to the deadlines.** -/
theorem Deadlines.foldl {t : Nat} (calls : List (Call σ)) {moved : Prop} {r : Run σ}
    (hd : Deadlines t moved r.machine) :
    Deadlines t (moved ∨ ∃ c ∈ calls, ∃ ms, c.operation = .advance ms)
      (calls.foldl (perform host) r).machine := by
  induction calls generalizing moved r with
  | nil =>
      refine ⟨hd.since, ?_⟩
      rintro (h | ⟨c, hc, -⟩)
      · exact hd.early h
      · cases hc
  | cons c calls ih =>
      have hrest := ih (hd.outcome (Run.outcome host r c))
      refine ⟨hrest.since, fun h => hrest.early ?_⟩
      rcases h with h | ⟨c', hc', h⟩
      · exact .inl (.inl h)
      · rcases List.mem_cons.1 hc' with rfl | hc'
        · exact .inl (.inr h)
        · exact .inr ⟨c', hc', h⟩

/-- Where the clock stands between the deadlines, by the phase it tells. -/
theorem closingPhase_cases (duration delay t now : Nat) :
    (closingPhase duration delay t now = .thankYou ↔ now < later t duration) ∧
      (closingPhase duration delay t now = .dismissing ↔
        later t duration ≤ now ∧ now < later (later t duration) delay) ∧
      (closingPhase duration delay t now = .closed ↔ later (later t duration) delay ≤ now) := by
  have hle : later t duration ≤ later (later t duration) delay := le_later (later_le_latest _ _) _
  unfold closingPhase
  by_cases ha : now < later t duration
  · simp [ha]
    omega
  · by_cases hb : now < later (later t duration) delay
    · simp [ha, hb]
      omega
    · simp [ha, hb]
      omega

/-- **Once time has moved, the clock alone tells where the machine stands.** Say the closing message
is shown at a time `t`, at the start or by a submission. Whatever is called after that, with moves
of time of any length and at least one of them: the message is shown before its end, the overlay is
about to close from then on, and closed from the second deadline on. The clock is the time that all
calls asked for, and time stops at the latest. -/
theorem closing_by_the_clock (host : Host σ) (manifest : Manifest) (h : σ)
    (calls more : List (Call σ)) (t : Nat) (shown : MessageShownAt host manifest h calls t)
    (moved : ∃ c ∈ more, ∃ ms, c.operation = .advance ms) :
    let messageEnd := later t manifest.closing.durationMs
    let overlayEnd := later messageEnd manifest.closing.transitionDelayMs
    let m := (of host manifest h (calls ++ more)).machine
    (m.phase = .thankYou ↔ m.now < messageEnd) ∧
      (m.phase = .dismissing ↔ messageEnd ≤ m.now ∧ m.now < overlayEnd) ∧
      (m.phase = .closed ↔ overlayEnd ≤ m.now) ∧
      m.now = min ((calls ++ more).map Call.duration).sum latest := by
  intro messageEnd overlayEnd m
  have hfirst : Deadlines t False (of host manifest h calls).machine :=
    ⟨shown.closingSince.2, False.elim⟩
  have hd : Deadlines t (False ∨ ∃ c ∈ more, ∃ ms, c.operation = .advance ms) m := by
    show Deadlines t _ (of host manifest h (calls ++ more)).machine
    rw [of_append]
    exact hfirst.foldl more
  have hm : m.manifest = manifest := (of_sound h (calls ++ more)).manifest_eq
  have hphase := hd.since.phase_eq (hd.early (.inr moved))
  rw [hm] at hphase
  obtain ⟨hthank, hdismiss, hclosed⟩ := closingPhase_cases manifest.closing.durationMs
    manifest.closing.transitionDelayMs t m.now
  rw [hphase]
  exact ⟨hthank, hdismiss, hclosed, now_of host manifest h (calls ++ more)⟩

/-- A message that is shown at one second for three seconds is gone after three seconds and a bit,
and the overlay is still there. -/
theorem closing_by_the_clock_between :
    let manifest : Manifest :=
      { callback := "done"
        initial := .step 0 "question-1"
        steps := [{ Overlay.Step.blank with stepId := "question-1" }]
        closing := ⟨"thank-you-step", 3000, 400, 0⟩ }
    let calls : List (Call Recording) := [⟨id, .advance 1000⟩, ⟨id, .submit 0⟩]
    let more : List (Call Recording) := [⟨id, .advance 2000⟩, ⟨id, .submit 0⟩, ⟨id, .advance 1200⟩]
    let m := (of recordingHost manifest Recording.start (calls ++ more)).machine
    MessageShownAt recordingHost manifest Recording.start calls 1000 ∧ m.now = 4200 ∧
      m.phase = .dismissing := by
  intro manifest calls more m
  have hshown : MessageShownAt recordingHost manifest Recording.start calls 1000 := by
    refine ⟨rfl, by decide, ?_⟩
    intro earlier c he
    have hearlier : earlier = [⟨id, .advance 1000⟩] := by
      simpa [calls] using (congrArg List.dropLast he).symm
    rw [hearlier]
    decide
  have hmoved : ∃ c ∈ more, ∃ ms, c.operation = .advance ms :=
    ⟨⟨id, .advance 2000⟩, List.mem_cons_self, 2000, rfl⟩
  obtain ⟨-, hdismissing, -, hnow⟩ :=
    closing_by_the_clock recordingHost manifest Recording.start calls more 1000 hshown hmoved
  have hclock : m.now = 4200 := hnow.trans rfl
  refine ⟨hshown, hclock, hdismissing.2 ?_⟩
  show 4000 ≤ m.now ∧ m.now < 4400
  omega

end Run

end VideoSurvey.Wizard
