/-!
# Stretches

A text is cut at every occurrence of a character into the stretches between them. There is always
at least one stretch, and the stretches of a text go on with those behind any separator
(`stretches_append_cons`).
-/

set_option autoImplicit false

namespace VideoSurvey.Text

/-- The stretches between the occurrences of a character. -/
def stretches (c : Char) : List Char → List (List Char)
  | [] => [[]]
  | x :: r => if x = c then [] :: stretches c r else (stretches c r).modifyHead (x :: ·)

theorem stretches_ne_nil (c : Char) (s : List Char) : stretches c s ≠ [] := by
  induction s with
  | nil => simp [stretches]
  | cons x r ih =>
      by_cases h : x = c
      · simp [stretches, h]
      · cases hr : stretches c r with
        | nil => exact absurd hr ih
        | cons a t => simp [stretches, h, hr]

/-- A separator keeps the stretches in front of it and those behind it apart. -/
theorem stretches_append_cons (c : Char) (s t : List Char) :
    stretches c (s ++ c :: t) = stretches c s ++ stretches c t := by
  induction s with
  | nil => simp [stretches]
  | cons x s ih =>
      by_cases hx : x = c
      · simp [stretches, hx, ih]
      · obtain ⟨a, r, hr⟩ := List.exists_cons_of_ne_nil (stretches_ne_nil c s)
        simp [stretches, hx, ih, hr]

/-- The last stretch is empty only behind a separator. -/
theorem getLast?_stretches {c : Char} {s : List Char} (h : (stretches c s).getLast? = some []) :
    s = [] ∨ s.getLast? = some c := by
  induction s with
  | nil => exact .inl rfl
  | cons x r ih =>
      obtain ⟨a, t, hr⟩ := List.exists_cons_of_ne_nil (stretches_ne_nil c r)
      rw [hr] at ih
      by_cases hx : x = c
      · -- the stretches of the rest come behind an empty one
        simp only [stretches, if_pos hx, hr, List.getLast?_cons_cons] at h
        rcases ih h with rfl | hlast
        · simp [hx]
        · simp [List.getLast?_cons, hlast]
      · simp only [stretches, if_neg hx, hr, List.modifyHead_cons] at h
        cases t with
        | nil => cases h
        | cons b t =>
            rcases ih h with rfl | hlast
            · cases hr
            · simp [List.getLast?_cons, hlast]

end VideoSurvey.Text
