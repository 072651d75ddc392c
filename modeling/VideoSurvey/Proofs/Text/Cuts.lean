import VideoSurvey.Proofs.Text.Occurrences

/-!
# Texts cut at their quotation marks

Markup is read here from one quotation mark to the next. `valuesFrom` lists what follows the
quotation marks whose front has some property, so with the property of ending with `name=` it lists
the values of an attribute (`map_behind_eq_valuesFrom`). A mark of this kind is told by what stands
in front of its last character, and so by the ends of texts: `EndsIn` is a property that is told by
some heads at the end of a text. Escaping does not change it, and a tag that is opened behind a text
hides the text from it.
-/

set_option autoImplicit false

namespace VideoSurvey.Text

open Entity (escape escapeChar IsPlain)

variable {p : List Char → Bool} {heads : List Char → Prop} {front s t a v q r : List Char}
  {c : Char}

/-! ## Values behind quotation marks -/

/-- What follows each quotation mark whose front has a property, up to the next quotation mark. The
front of a quotation mark goes back to the one before it, and to a text given here if there is
none. -/
def valuesFrom (p : List Char → Bool) : List Char → List Char → List (List Char)
  | _, [] => []
  | front, c :: r =>
      if c = '"' then
        (if p front = true then [r.takeWhile (· ≠ '"')] else []) ++ valuesFrom p [] r
      else valuesFrom p (front ++ [c]) r

/-- The number of quotation marks whose front has a property. -/
def hits (p : List Char → Bool) (front s : List Char) : Nat := (valuesFrom p front s).length

/-- What stands behind the last quotation mark. -/
def lastCut : List Char → List Char → List Char
  | front, [] => front
  | front, c :: r => if c = '"' then lastCut [] r else lastCut (front ++ [c]) r

theorem hits_quote (p : List Char → Bool) (front r : List Char) :
    hits p front ('"' :: r) = (if p front = true then 1 else 0) + hits p [] r := by
  rw [hits, valuesFrom, if_pos rfl, List.length_append]
  split
  · rfl
  · rfl

/-- Any other character joins the front. -/
theorem hits_of_ne (hc : c ≠ '"') (p : List Char → Bool) (front r : List Char) :
    hits p front (c :: r) = hits p (front ++ [c]) r := by
  rw [hits, valuesFrom, if_neg hc]
  rfl

theorem hits_append (p : List Char → Bool) (front s r : List Char) :
    hits p front (s ++ r) = hits p front s + hits p (lastCut front s) r := by
  induction s generalizing front with
  | nil => exact (Nat.zero_add _).symm
  | cons c s ih =>
      by_cases hc : c = '"'
      · subst hc
        rw [List.cons_append, hits_quote, hits_quote, ih, Nat.add_assoc]
        rfl
      · rw [List.cons_append, hits_of_ne hc, hits_of_ne hc, lastCut, if_neg hc, ih]

theorem lastCut_append (front s r : List Char) :
    lastCut front (s ++ r) = lastCut (lastCut front s) r := by
  induction s generalizing front with
  | nil => rfl
  | cons c s ih =>
      rw [List.cons_append, lastCut, lastCut]
      split
      · exact ih []
      · exact ih (front ++ [c])

/-- A quotation mark hides what stands in front of the text. -/
theorem lastCut_of_mem (hs : '"' ∈ s) (front : List Char) : lastCut front s = lastCut [] s := by
  induction s generalizing front with
  | nil => cases hs
  | cons c s ih =>
      by_cases hc : c = '"'
      · rw [lastCut, lastCut, if_pos hc, if_pos hc]
      · have hs := (List.mem_cons.1 hs).resolve_left (Ne.symm hc)
        rw [lastCut, lastCut, if_neg hc, if_neg hc, ih hs, ih hs ([] ++ [c])]

/-- A text without quotation marks joins the front. -/
theorem lastCut_of_not_mem (hs : '"' ∉ s) (front : List Char) : lastCut front s = front ++ s := by
  induction s generalizing front with
  | nil => exact (List.append_nil front).symm
  | cons c s ih =>
      obtain ⟨hc, hs⟩ := not_or.1 (mt List.mem_cons.2 hs)
      rw [lastCut, if_neg (Ne.symm hc), ih hs, List.append_assoc]
      rfl

theorem hits_of_not_mem (hs : '"' ∉ s) (p : List Char → Bool) (front : List Char) :
    hits p front s = 0 := by
  induction s generalizing front with
  | nil => rfl
  | cons c s ih =>
      obtain ⟨hc, hs⟩ := not_or.1 (mt List.mem_cons.2 hs)
      rw [hits_of_ne (Ne.symm hc)]
      exact ih hs (front ++ [c])

theorem hits_append_of_not_mem (hs : '"' ∉ s) (p : List Char → Bool) (front r : List Char) :
    hits p front (s ++ r) = hits p (front ++ s) r := by
  rw [hits_append, hits_of_not_mem hs, lastCut_of_not_mem hs, Nat.zero_add]

theorem takeWhile_quote (hv : '"' ∉ v) (r : List Char) :
    (v ++ '"' :: r).takeWhile (· ≠ '"') = v := by
  have hplain : ∀ c ∈ v, decide (c ≠ '"') = true := by
    intro c hc
    rw [decide_eq_true_eq]
    rintro rfl
    exact hv hc
  rw [List.takeWhile_append_of_pos hplain]
  simp

/-- **The value behind a quotation mark** comes after those behind the marks in front of it. -/
theorem getElem?_valuesFrom (hs : p (lastCut front s) = true) (hv : '"' ∉ v) (r : List Char) :
    (valuesFrom p front (s ++ '"' :: (v ++ '"' :: r)))[hits p front s]? = some v := by
  induction s generalizing front with
  | nil =>
      have hfront : p front = true := hs
      rw [List.nil_append, valuesFrom, if_pos rfl, if_pos hfront, takeWhile_quote hv]
      rfl
  | cons c s ih =>
      by_cases hc : c = '"'
      · subst hc
        have ih := @ih [] hs
        rw [hits_quote, List.cons_append, valuesFrom, if_pos rfl]
        split
        · rw [Nat.add_comm]
          exact ih
        · rw [Nat.zero_add]
          exact ih
      · rw [lastCut, if_neg hc] at hs
        rw [List.cons_append, valuesFrom, if_neg hc, hits_of_ne hc]
        exact ih hs

/-- The same with the marks told by all of them and by those behind the value. -/
theorem getElem?_valuesFrom_of_hits {n : Nat} (hs : p (lastCut front s) = true) (hv : '"' ∉ v)
    (hn : hits p front (s ++ '"' :: (v ++ '"' :: r)) = n + 1 + hits p [] (v ++ '"' :: r)) :
    (valuesFrom p front (s ++ '"' :: (v ++ '"' :: r)))[n]? = some v := by
  have hsplit : hits p front (s ++ '"' :: (v ++ '"' :: r)) =
      hits p front s + (1 + hits p [] (v ++ '"' :: r)) := by
    rw [hits_append, hits_quote, if_pos hs]
  obtain rfl : n = hits p front s := by omega
  exact getElem?_valuesFrom hs hv r

/-- A stronger property has no more quotation marks. -/
theorem hits_le {p' : List Char → Bool} (h : ∀ s, p s = true → p' s = true)
    (front s : List Char) : hits p front s ≤ hits p' front s := by
  induction s generalizing front with
  | nil => exact Nat.le_refl 0
  | cons c s ih =>
      by_cases hc : c = '"'
      · subst hc
        have ih := ih []
        rw [hits_quote, hits_quote]
        by_cases hp : p front = true
        · rw [if_pos hp, if_pos (h front hp)]
          omega
        · rw [if_neg hp]
          omega
      · rw [hits_of_ne hc, hits_of_ne hc]
        exact ih (front ++ [c])

/-! ## Marks that end with a quotation mark -/

theorem behind_concat (hs : c ∉ s) (q : List Char) :
    behind (q ++ [c]) (s ++ [c]) = if q <:+ s then [[]] else [] := by
  have hcount := occurrences_concat hs q
  unfold occurrences at hcount
  split
  · rename_i hq
    rw [if_pos hq] at hcount
    obtain ⟨x, hx⟩ := List.length_eq_one_iff.1 hcount
    -- the only occurrence is the one at the end
    obtain ⟨u, rfl⟩ := hq
    have hlast := getLast?_behind_append_self (List.append_ne_nil_of_right_ne_nil q
      (List.cons_ne_nil c [])) u
    rw [← List.append_assoc, hx] at hlast
    obtain rfl : x = [] := Option.some.inj hlast
    exact hx
  · rename_i hq
    rw [if_neg hq] at hcount
    exact List.length_eq_zero_iff.1 hcount

/-- **The values behind a mark that ends with a quotation mark** are those behind the quotation
marks whose front ends with the rest of the mark. -/
theorem map_behind_eq_valuesFrom (hq : '"' ∉ q) (hfront : '"' ∉ front) (s : List Char) :
    (behind (q ++ ['"']) (front ++ s)).map (·.takeWhile (· ≠ '"')) =
      valuesFrom (fun front => decide (q <:+ front)) front s := by
  induction s generalizing front with
  | nil =>
      have hmem : '"' ∈ q ++ ['"'] := List.mem_append_right _ List.mem_cons_self
      have hnone := occurrences_eq_zero_of_not_mem hmem hfront
      unfold occurrences at hnone
      rw [List.append_nil, List.length_eq_zero_iff.1 hnone]
      rfl
  | cons c s ih =>
      by_cases hc : c = '"'
      · subst hc
        have hclear : Clear (q ++ ['"']) (front ++ ['"']) := by
          refine clear_concat ?_ front
          rw [List.dropLast_concat]
          exact hq
        have ih := @ih [] List.not_mem_nil
        rw [List.nil_append] at ih
        rw [List.append_cons front, behind_append hclear, behind_concat hfront, List.map_append, ih,
          valuesFrom, if_pos rfl]
        simp only [decide_eq_true_eq]
        split
        · rfl
        · rfl
      · have hfront : '"' ∉ front ++ [c] := by
          rw [List.mem_append, List.mem_singleton, not_or]
          exact ⟨hfront, Ne.symm hc⟩
        rw [valuesFrom, if_neg hc, ← ih hfront, List.append_assoc]
        rfl

theorem occurrences_eq_hits (hq : '"' ∉ q) (s : List Char) :
    occurrences (q ++ ['"']) s = hits (fun front => decide (q <:+ front)) [] s := by
  have hvalues := map_behind_eq_valuesFrom hq List.not_mem_nil s
  rw [List.nil_append] at hvalues
  unfold hits occurrences
  rw [← hvalues, List.length_map]

/-! ## Properties of the end of a text -/

/-- A property that is told by the end of a text: one of some heads is there. Escaping leaves the
heads alone. -/
structure EndsIn (p : List Char → Bool) (heads : List Char → Prop) : Prop where
  iff : ∀ s, p s = true ↔ ∃ q, heads q ∧ q <:+ s
  plain : ∀ q, heads q → IsPlain q ∧ q ≠ []

theorem endsIn_suffix (hq : IsPlain q) (hne : q ≠ []) :
    EndsIn (fun s => decide (q <:+ s)) (· = q) where
  iff s := by
    rw [decide_eq_true_eq]
    constructor
    · intro h
      exact ⟨q, rfl, h⟩
    · rintro ⟨_, rfl, h⟩
      exact h
  plain _ h := h ▸ ⟨hq, hne⟩

namespace EndsIn

variable (h : EndsIn p heads)

include h

theorem eq_of_iff (hiff : ∀ q, heads q → (q <:+ s ↔ q <:+ t)) : p s = p t := by
  rw [Bool.eq_iff_iff, h.iff, h.iff]
  constructor
  · rintro ⟨q, hq, hs⟩
    exact ⟨q, hq, (hiff q hq).1 hs⟩
  · rintro ⟨q, hq, ht⟩
    exact ⟨q, hq, (hiff q hq).2 ht⟩

theorem escape_eq (t : List Char) : p (escape t) = p t :=
  h.eq_of_iff fun q hq => Entity.suffix_escape (h.plain q hq).1 t

theorem not_mem (hc : escapeChar c ≠ [c]) (hq : heads q) : c ∉ q :=
  fun hmem => hc ((h.plain q hq).1 c hmem).1

theorem nil : p [] = false := by
  rw [Bool.eq_false_iff, Ne, h.iff]
  rintro ⟨q, hq, hs⟩
  exact (h.plain q hq).2 (List.suffix_nil.1 hs)

/-- A text without a character of the heads ends with none of them. -/
theorem of_not_mem (hmem : ∀ q, heads q → c ∈ q) (hs : c ∉ s) : p s = false := by
  rw [Bool.eq_false_iff, Ne, h.iff]
  rintro ⟨q, hq, hsuffix⟩
  exact hs (hsuffix.subset (hmem q hq))

theorem escape_of_not_mem (hmem : ∀ q, heads q → c ∈ q) (hs : c ∉ s) : p (escape s) = false :=
  (h.escape_eq s).trans (h.of_not_mem hmem hs)

/-- A tag that is opened hides what stands in front of it. -/
theorem append_eq (ha : '<' ∈ a) (front : List Char) : p (front ++ a) = p a := by
  refine h.eq_of_iff fun q hq => ?_
  have hless : '<' ∉ q := h.not_mem (by decide) hq
  constructor
  · intro hsuffix
    rcases List.suffix_or_suffix_of_suffix hsuffix (List.suffix_append front a) with hin | hout
    · exact hin
    · exact absurd (hout.subset ha) hless
  · intro hsuffix
    exact hsuffix.trans (List.suffix_append front a)

/-- A head at the end of a text is behind its last quotation mark. -/
theorem lastCut_eq_true (hq : heads q) (hs : q <:+ s) (front : List Char) :
    p (lastCut front s) = true := by
  obtain ⟨u, rfl⟩ := hs
  rw [lastCut_append, lastCut_of_not_mem (h.not_mem (by decide) hq), h.iff]
  exact ⟨q, hq, List.suffix_append _ q⟩

end EndsIn

end VideoSurvey.Text
