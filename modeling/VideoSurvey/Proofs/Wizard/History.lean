import VideoSurvey.Proofs.Wizard.Runs
import Mathlib.Algebra.GroupWithZero.Nat
import Mathlib.Data.List.DropRight

/-!
# What a history says

The history of a run says which answers were taken last, which steps were submitted at which
playback time, how far time was moved, and what happened since the last submission. Each of these
is a function of the history alone, with a lemma for one more entry.
-/

set_option autoImplicit false

namespace VideoSurvey.Wizard

/-! ## Answers -/

/-- The stars that an entry chose for a step, if that was taken. -/
def Entry.stars? (step : Nat) (e : Entry) : Option Nat :=
  match e.operation with
  | .selectStar s count => if e.taken = true ∧ s = step then some count else none
  | _ => none

/-- The text that an entry gave for a step, if that was taken. -/
def Entry.text? (step : Nat) (e : Entry) : Option String :=
  match e.operation with
  | .inputText s text => if e.taken = true ∧ s = step then some text else none
  | _ => none

/-- The last stars that were taken for a step. -/
def chosen? (history : List Entry) (step : Nat) : Option Nat :=
  history.reverse.findSome? (Entry.stars? step)

/-- The last text that was taken for a step. -/
def typed? (history : List Entry) (step : Nat) : Option String :=
  history.reverse.findSome? (Entry.text? step)

theorem chosen?_append (history : List Entry) (e : Entry) (step : Nat) :
    chosen? (history ++ [e]) step = (e.stars? step).or (chosen? history step) := by
  unfold chosen?
  rw [List.reverse_append]
  show List.findSome? _ (e :: history.reverse) = _
  rw [List.findSome?_cons]
  cases e.stars? step with
  | none => rfl
  | some count => rfl

theorem typed?_append (history : List Entry) (e : Entry) (step : Nat) :
    typed? (history ++ [e]) step = (e.text? step).or (typed? history step) := by
  unfold typed?
  rw [List.reverse_append]
  show List.findSome? _ (e :: history.reverse) = _
  rw [List.findSome?_cons]
  cases e.text? step with
  | none => rfl
  | some text => rfl

theorem chosen?_append_of_none {e : Entry} {step : Nat} (h : e.stars? step = none)
    (history : List Entry) : chosen? (history ++ [e]) step = chosen? history step := by
  rw [chosen?_append, h, Option.none_or]

theorem typed?_append_of_none {e : Entry} {step : Nat} (h : e.text? step = none)
    (history : List Entry) : typed? (history ++ [e]) step = typed? history step := by
  rw [typed?_append, h, Option.none_or]

/-- Stars that were taken may be taken again, but not back. -/
theorem chosen?_append_of_some {history : List Entry} {step count : Nat}
    (h : chosen? history step = some count) (e : Entry) :
    ∃ count', chosen? (history ++ [e]) step = some count' := by
  rw [chosen?_append, h]
  cases e.stars? step with
  | none => exact ⟨count, rfl⟩
  | some count' => exact ⟨count', rfl⟩

theorem Entry.stars?_of_refused (operation : Operation) (offset : Int) (step : Nat) :
    Entry.stars? step ⟨operation, offset, false⟩ = none := by
  cases operation with
  | selectStar s count => simp [stars?]
  | _ => rfl

theorem Entry.text?_of_refused (operation : Operation) (offset : Int) (step : Nat) :
    Entry.text? step ⟨operation, offset, false⟩ = none := by
  cases operation with
  | inputText s text => simp [text?]
  | _ => rfl

/-! ## Submissions -/

/-- The steps that were submitted, each with the playback time at that moment. -/
def filings (history : List Entry) : List (Nat × Int) :=
  history.filterMap fun e => e.submitted?.map fun step => (step, e.offset)

theorem filings_append (history : List Entry) (e : Entry) :
    filings (history ++ [e]) =
      filings history ++ (e.submitted?.map fun step => (step, e.offset)).toList := by
  unfold filings
  rw [List.filterMap_append]
  cases h : e.submitted? with
  | none => simp [h]
  | some step => simp [h]

theorem filings_steps {σ : Type} (r : Run σ) :
    (filings r.history).map Prod.fst = r.submissions := by
  unfold filings Run.submissions
  rw [List.map_filterMap]
  congr 1
  funext e
  cases h : e.submitted? with
  | none => rfl
  | some step => rfl

/-- The history up to the last submission. -/
def untilSubmission (history : List Entry) : List Entry :=
  history.rdropWhile fun e => e.submitted?.isNone

/-- The history since the last submission. -/
def sinceSubmission (history : List Entry) : List Entry :=
  history.rtakeWhile fun e => e.submitted?.isNone

theorem untilSubmission_append_of_none {e : Entry} (h : e.submitted? = none)
    (history : List Entry) : untilSubmission (history ++ [e]) = untilSubmission history :=
  List.rdropWhile_concat_pos _ _ _ (by rw [h]; rfl)

theorem untilSubmission_append_of_some {e : Entry} {step : Nat} (h : e.submitted? = some step)
    (history : List Entry) : untilSubmission (history ++ [e]) = history ++ [e] :=
  List.rdropWhile_concat_neg _ _ _ (by rw [h]; exact Bool.false_ne_true)

theorem sinceSubmission_append_of_none {e : Entry} (h : e.submitted? = none)
    (history : List Entry) : sinceSubmission (history ++ [e]) = sinceSubmission history ++ [e] :=
  List.rtakeWhile_concat_pos _ _ _ (by rw [h]; rfl)

theorem sinceSubmission_append_of_some {e : Entry} {step : Nat} (h : e.submitted? = some step)
    (history : List Entry) : sinceSubmission (history ++ [e]) = [] :=
  List.rtakeWhile_concat_neg _ _ _ (by rw [h]; exact Bool.false_ne_true)

/-! ## Time -/

/-- How far an entry asked to move time. -/
def Entry.duration (e : Entry) : Nat :=
  match e.operation with
  | .advance ms => ms
  | _ => 0

/-- Whether an entry asked to move time. -/
def Entry.isAdvance (e : Entry) : Bool :=
  match e.operation with
  | .advance _ => true
  | _ => false

/-- The time that a history has moved, at most the latest. -/
def elapsed (history : List Entry) : Nat := min ((history.map Entry.duration).sum) latest

theorem elapsed_append (history : List Entry) (e : Entry) :
    elapsed (history ++ [e]) = later (elapsed history) e.duration := by
  unfold elapsed later
  rw [List.map_append, List.sum_append]
  simp only [List.map_cons, List.map_nil, List.sum_cons, List.sum_nil]
  omega

theorem elapsed_le_latest (history : List Entry) : elapsed history ≤ latest := Nat.min_le_right _ _

theorem elapsed_append_of_duration {e : Entry} (h : e.duration = 0) (history : List Entry) :
    elapsed (history ++ [e]) = elapsed history := by
  -- a move by nothing stays at the latest time too
  have hle := elapsed_le_latest history
  rw [elapsed_append, h]
  unfold later
  omega

theorem Entry.duration_of_visitor {operation : Operation} (h : ∀ ms, operation ≠ .advance ms)
    (offset : Int) (taken : Bool) : Entry.duration ⟨operation, offset, taken⟩ = 0 := by
  cases operation with
  | advance ms => exact absurd rfl (h ms)
  | _ => rfl

theorem Entry.isAdvance_of_visitor {operation : Operation} (h : ∀ ms, operation ≠ .advance ms)
    (offset : Int) (taken : Bool) : Entry.isAdvance ⟨operation, offset, taken⟩ = false := by
  cases operation with
  | advance ms => exact absurd rfl (h ms)
  | _ => rfl

/-- The time at which the closing message is shown when no step is left: the time of the last
submission, or the beginning. -/
def shownAt (history : List Entry) : Nat := elapsed (untilSubmission history)

end VideoSurvey.Wizard
