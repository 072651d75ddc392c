import Mathlib.Algebra.GroupWithZero.Nat
import Mathlib.Data.List.Infix
import Mathlib.Data.List.DropRight
import VideoSurvey.Text.Entity

/-!
# Occurrences of a mark

`behind mark s` lists what follows the occurrences of a mark in a text. When two texts are put
together the occurrences in both are those in each, unless one begins in the first and goes on in
the second. A first text that is `Clear` of the mark rules that out, and so does a character
between the two that the mark has at most as its last.

The marks here are parts of markup, and the texts between them are escaped: an escaped text holds
no character of markup (`not_mem_escape`), and an attribute's name at its end is one at the end of
the text itself (`suffix_escape`).
-/

set_option autoImplicit false

namespace VideoSurvey.Text

/-- What follows each occurrence of a mark, in the order of the text. -/
def behind (mark : List Char) : List Char → List (List Char)
  | [] => []
  | c :: r =>
      if mark <+: c :: r then (c :: r).drop mark.length :: behind mark r else behind mark r

/-- How often a mark occurs. -/
def occurrences (mark s : List Char) : Nat := (behind mark s).length

/-- No occurrence of a mark begins in the text and goes on behind it. -/
def Clear (mark s : List Char) : Prop := ∀ x ∈ s.tails, x <+: mark → x = [] ∨ x = mark

instance (mark s : List Char) : Decidable (Clear mark s) :=
  List.decidableBAll (fun x => x <+: mark → x = [] ∨ x = mark) s.tails

/-- A literal has the characters it is written with. They are found without taking it apart into
bytes. -/
theorem toList_of_eq_ofList {s : String} {l : List Char} (h : s = String.ofList l) :
    s.toList = l := by
  rw [h, String.toList_ofList]

variable {mark a b s : List Char} {c : Char}

/-! ## Texts put together -/

theorem Clear.of_cons (h : Clear mark (c :: s)) : Clear mark s := by
  intro x hx
  refine h x ?_
  rw [List.tails]
  exact List.mem_cons_of_mem _ hx

/-- In front of a clear text nothing is added to what the mark needs. -/
theorem Clear.prefix_append_iff (h : Clear mark (c :: s)) (b : List Char) :
    mark <+: c :: s ++ b ↔ mark <+: c :: s := by
  constructor
  · intro hm
    rcases List.prefix_or_prefix_of_prefix hm (List.prefix_append (c :: s) b) with hm | hs
    · exact hm
    · rcases h (c :: s) ((List.mem_tails _ _).2 (List.suffix_refl _)) hs with hnil | heq
      · cases hnil
      · rw [heq]
  · intro hm
    exact hm.trans (List.prefix_append _ _)

/-- **Behind a clear text the occurrences are counted anew.** -/
theorem behind_append (h : Clear mark a) (b : List Char) :
    behind mark (a ++ b) = (behind mark a).map (· ++ b) ++ behind mark b := by
  induction a with
  | nil => rfl
  | cons c a ih =>
      have hiff := h.prefix_append_iff b
      rw [List.cons_append] at hiff ⊢
      rw [behind, behind, ih h.of_cons]
      by_cases hm : mark <+: c :: a
      · have hdrop : (c :: (a ++ b)).drop mark.length = (c :: a).drop mark.length ++ b :=
          List.drop_append_of_le_length hm.length_le
        rw [if_pos hm, if_pos (hiff.2 hm), hdrop, List.map_cons, List.cons_append]
      · rw [if_neg hm, if_neg (mt hiff.1 hm)]

theorem occurrences_append (h : Clear mark a) (b : List Char) :
    occurrences mark (a ++ b) = occurrences mark a + occurrences mark b := by
  unfold occurrences
  rw [behind_append h, List.length_append, List.length_map]

/-- A character that the mark has at most as its last clears the text. -/
theorem clear_concat (hc : c ∉ mark.dropLast) (s : List Char) : Clear mark (s ++ [c]) := by
  intro x hx hm
  obtain ⟨rest, hrest⟩ := hm
  rcases List.eq_nil_or_concat x with rfl | ⟨y, d, rfl⟩
  · exact .inl rfl
  · right
    obtain ⟨front, hfront⟩ := (List.mem_tails _ _).1 hx
    rw [List.concat_eq_append, ← List.append_assoc] at hfront
    obtain ⟨-, hd⟩ := List.append_inj' hfront rfl
    obtain rfl : d = c := by simpa using hd
    -- were there more of the mark, its part before the last character would hold this one
    cases rest with
    | nil => rw [← hrest, List.append_nil]
    | cons e rest =>
        refine absurd ?_ hc
        rw [← hrest, List.dropLast_append_cons]
        simp

/-- A character that the mark does not begin with adds no occurrence. -/
theorem behind_cons_of_ne (h : mark.head? ≠ some c) (hne : mark ≠ []) (s : List Char) :
    behind mark (c :: s) = behind mark s := by
  have hm : ¬ mark <+: c :: s := by
    intro hm
    cases mark with
    | nil => exact hne rfl
    | cons d mark =>
        obtain ⟨rfl, -⟩ := List.cons_prefix_cons.1 hm
        exact h rfl
  rw [behind, if_neg hm]

/-- **A character that the mark has at most as its last keeps two texts apart.** It is counted
with both of them. -/
theorem occurrences_append_cons (hc : c ∉ mark.dropLast) (hlen : 2 ≤ mark.length)
    (a b : List Char) :
    occurrences mark (a ++ c :: b) =
      occurrences mark (a ++ [c]) + occurrences mark (c :: b) := by
  have hhead : mark.head? ≠ some c := by
    intro hhead
    cases mark with
    | nil => cases hhead
    | cons d mark =>
        obtain rfl := Option.some.inj hhead
        cases mark with
        | nil => simp at hlen
        | cons e mark => exact hc List.mem_cons_self
  have hne : mark ≠ [] := by
    rintro rfl
    simp at hlen
  rw [show a ++ c :: b = a ++ [c] ++ b by simp, occurrences_append (clear_concat hc a)]
  unfold occurrences
  rw [behind_cons_of_ne hhead hne b]

/-- A character that the mark does not have keeps two texts apart, and adds nothing. -/
theorem occurrences_append_of_not_mem (hc : c ∉ mark) (hne : mark ≠ []) (a b : List Char) :
    occurrences mark (a ++ c :: b) = occurrences mark a + occurrences mark b := by
  have hhead : mark.head? ≠ some c := fun hhead => hc (List.mem_of_head? hhead)
  induction a with
  | nil =>
      unfold occurrences
      rw [List.nil_append, behind_cons_of_ne hhead hne, behind, List.length_nil, Nat.zero_add]
  | cons d a ih =>
      have hiff : mark <+: d :: (a ++ c :: b) ↔ mark <+: d :: a := by
        constructor
        · intro hm
          rcases List.prefix_or_prefix_of_prefix hm
            (show d :: a ++ [c] <+: d :: (a ++ c :: b) from ⟨b, by simp⟩) with hm | hm
          · rcases List.prefix_concat_iff.1 hm with rfl | hm
            · exact absurd (by simp) hc
            · exact hm
          · exact absurd (hm.subset (by simp)) hc
        · intro hm
          exact hm.trans (List.prefix_append (d :: a) (c :: b))
      unfold occurrences at ih ⊢
      rw [List.cons_append, behind, behind, if_congr hiff rfl rfl]
      split
      · rw [List.length_cons, List.length_cons, ih]
        omega
      · exact ih

theorem occurrences_cons_of_not_mem (hc : c ∉ mark) (hne : mark ≠ []) (s : List Char) :
    occurrences mark (c :: s) = occurrences mark s := by
  unfold occurrences
  rw [behind_cons_of_ne (fun hhead => hc (List.mem_of_head? hhead)) hne]

theorem occurrences_concat_of_not_mem (hc : c ∉ mark) (hne : mark ≠ []) (s : List Char) :
    occurrences mark (s ++ [c]) = occurrences mark s :=
  occurrences_append_of_not_mem hc hne s []

/-- Parts behind one such character each are counted one by one. -/
theorem occurrences_flatMap_cons (hc : c ∉ mark) (hne : mark ≠ []) (front : List Char)
    (parts : List (List Char)) (back : List Char) :
    occurrences mark (front ++ (parts.flatMap (c :: ·) ++ c :: back)) =
      occurrences mark front + ((parts.map (occurrences mark)).sum + occurrences mark back) := by
  induction parts generalizing front with
  | nil =>
      rw [List.map_nil, List.sum_nil, Nat.zero_add]
      exact occurrences_append_of_not_mem hc hne front back
  | cons part parts ih =>
      rw [List.flatMap_cons, List.cons_append, List.cons_append, List.append_assoc,
        occurrences_append_of_not_mem hc hne, ih, List.map_cons, List.sum_cons, Nat.add_assoc]

/-- Characters that the mark does not have can be dropped from both ends. -/
theorem occurrences_dropWhile {p : Char → Bool} (hp : ∀ c ∈ mark, p c = false) (hne : mark ≠ [])
    (s : List Char) : occurrences mark (s.dropWhile p) = occurrences mark s := by
  induction s with
  | nil => rfl
  | cons c s ih =>
      rw [List.dropWhile_cons]
      split
      · rename_i hc
        have hnot : c ∉ mark := by
          intro hmem
          rw [hp c hmem] at hc
          cases hc
        rw [ih, occurrences_cons_of_not_mem hnot hne]
      · rfl

theorem occurrences_rdropWhile {p : Char → Bool} (hp : ∀ c ∈ mark, p c = false) (hne : mark ≠ [])
    (s : List Char) : occurrences mark (s.rdropWhile p) = occurrences mark s := by
  induction s using List.reverseRecOn with
  | nil => rfl
  | append_singleton s c ih =>
      by_cases hc : p c = true
      · have hnot : c ∉ mark := by
          intro hmem
          rw [hp c hmem] at hc
          cases hc
        rw [List.rdropWhile_concat_pos p s c hc, ih, occurrences_concat_of_not_mem hnot hne]
      · rw [List.rdropWhile_concat_neg p s c hc]

/-! ## Single texts -/

/-- A mark with a character that a text lacks does not occur in it. -/
theorem occurrences_eq_zero_of_not_mem (hc : c ∈ mark) (hs : c ∉ s) : occurrences mark s = 0 := by
  induction s with
  | nil => rfl
  | cons d s ih =>
      have hm : ¬ mark <+: d :: s := fun hm => hs (hm.subset hc)
      unfold occurrences at ih ⊢
      rw [behind, if_neg hm]
      exact ih fun h => hs (List.mem_cons_of_mem d h)

/-- A text without the first character of a mark is clear of it. -/
theorem clear_of_head_not_mem (hd : c ∉ s) (m : List Char) : Clear (c :: m) s := by
  intro x hx hm
  cases x with
  | nil => exact .inl rfl
  | cons d x =>
      obtain ⟨rfl, -⟩ := List.cons_prefix_cons.1 hm
      exact absurd (((List.mem_tails _ _).1 hx).subset List.mem_cons_self) hd

theorem behind_eq_nil_of_length_lt (h : s.length < mark.length) : behind mark s = [] := by
  induction s with
  | nil => rfl
  | cons c s ih =>
      have hm : ¬ mark <+: c :: s := fun hm => absurd hm.length_le (Nat.not_le.2 h)
      rw [behind, if_neg hm]
      exact ih (Nat.lt_trans (Nat.lt_succ_self _) h)

/-- A mark at the end of a text is its last occurrence. -/
theorem getLast?_behind_append_self (hne : mark ≠ []) (s : List Char) :
    (behind mark (s ++ mark)).getLast? = some [] := by
  induction s with
  | nil =>
      cases mark with
      | nil => exact absurd rfl hne
      | cons c mark =>
          rw [List.nil_append, behind, if_pos (List.prefix_refl _),
            behind_eq_nil_of_length_lt (Nat.lt_succ_self _), List.drop_length]
          rfl
  | cons c s ih =>
      rw [List.cons_append, behind]
      split
      · rw [List.getLast?_cons, ih]
        rfl
      · exact ih

/-- **What follows a mark at the end of a clear text.** The occurrences before it are passed
over. -/
theorem getElem?_behind_append (h : Clear mark a) (hne : mark ≠ []) (hm : mark <:+ a)
    (b : List Char) : (behind mark (a ++ b))[occurrences mark a - 1]? = some b := by
  obtain ⟨s, rfl⟩ := hm
  have hlast := getLast?_behind_append_self hne s
  have hpos : 0 < occurrences mark (s ++ mark) := by
    unfold occurrences
    rw [List.length_pos_iff]
    intro hnil
    rw [hnil] at hlast
    cases hlast
  rw [behind_append h, List.getElem?_append_left, List.getElem?_map]
  · unfold occurrences
    rw [← List.getLast?_eq_getElem?, hlast]
    rfl
  · rw [List.length_map]
    exact Nat.sub_lt hpos Nat.one_pos

theorem concat_prefix_concat_iff (hs : c ∉ s) {q : List Char} :
    q ++ [c] <+: s ++ [c] ↔ q = s := by
  constructor
  · rintro ⟨rest, hrest⟩
    rcases List.eq_nil_or_concat rest with rfl | ⟨front, d, rfl⟩
    · exact (List.append_inj' (by rw [← hrest, List.append_nil]) rfl).1
    · -- the character would stand inside the text
      rw [List.concat_eq_append, ← List.append_assoc] at hrest
      obtain ⟨hfront, -⟩ := List.append_inj' hrest rfl
      refine absurd ?_ hs
      rw [← hfront]
      simp
  · rintro rfl
    exact List.prefix_refl _

/-- **A mark whose last character a text lacks** occurs where the text ends with the rest of the
mark and that character follows. -/
theorem occurrences_concat (hs : c ∉ s) (q : List Char) :
    occurrences (q ++ [c]) (s ++ [c]) = if q <:+ s then 1 else 0 := by
  induction s with
  | nil =>
      have hiff : q ++ [c] <+: [c] ↔ q = [] := concat_prefix_concat_iff List.not_mem_nil
      unfold occurrences
      rw [List.nil_append, behind, if_congr hiff rfl rfl]
      by_cases hq : q = []
      · simp [hq, behind]
      · simp [hq, behind]
  | cons d s ih =>
      have ih := ih fun h => hs (List.mem_cons_of_mem d h)
      have hiff := concat_prefix_concat_iff hs (q := q)
      unfold occurrences at ih ⊢
      rw [List.cons_append, behind, ← List.cons_append, if_congr hiff rfl rfl]
      by_cases hq : q = d :: s
      · -- the whole text is too long to be the end of what is left
        have hshort : ¬ q <:+ s := by
          intro hsuffix
          have hle := hsuffix.length_le
          rw [hq, List.length_cons] at hle
          omega
        rw [if_pos hq, List.length_cons, ih, if_neg hshort, if_pos (hq ▸ List.suffix_refl _)]
      · rw [if_neg hq, ih, if_congr (List.suffix_cons_iff.trans (or_iff_right hq)) rfl rfl]

/-! ## Escaped texts -/

namespace Entity

/-- An escaped text holds no character of markup. -/
theorem not_mem_escape (s : List Char) :
    '"' ∉ escape s ∧ '<' ∉ escape s ∧ '>' ∉ escape s ∧ '\'' ∉ escape s ∧ '/' ∉ escape s := by
  have hchar (d : Char) : '"' ∉ escapeChar d ∧ '<' ∉ escapeChar d ∧ '>' ∉ escapeChar d ∧
      '\'' ∉ escapeChar d ∧ '/' ∉ escapeChar d := by
    unfold escapeChar
    split
    all_goals try decide
    rename_i h1 h2 h3 h4 h5 h6
    simp only [List.mem_singleton]
    exact ⟨Ne.symm h4, Ne.symm h2, Ne.symm h3, Ne.symm h5, Ne.symm h6⟩
  unfold escape
  simp only [List.mem_flatMap, not_exists, not_and]
  exact ⟨fun d _ => (hchar d).1, fun d _ => (hchar d).2.1, fun d _ => (hchar d).2.2.1,
    fun d _ => (hchar d).2.2.2.1, fun d _ => (hchar d).2.2.2.2⟩

theorem escape_append (s t : List Char) : escape (s ++ t) = escape s ++ escape t :=
  List.flatMap_append

/-- A text that escaping leaves alone and that ends no entity. -/
def IsPlain (q : List Char) : Prop := ∀ c ∈ q, escapeChar c = [c] ∧ c ≠ ';'

instance (q : List Char) : Decidable (IsPlain q) :=
  List.decidableBAll (fun c => escapeChar c = [c] ∧ c ≠ ';') q

theorem escape_of_isPlain {q : List Char} (h : IsPlain q) : escape q = q := by
  induction q with
  | nil => rfl
  | cons c q ih =>
      show escapeChar c ++ escape q = c :: q
      rw [(h c List.mem_cons_self).1, ih fun d hd => h d (List.mem_cons_of_mem c hd)]
      rfl

/-- A class of characters without those that are escaped and without the semicolon. -/
theorem isPlain_of_class {p : Char → Bool}
    (hp : ['&', '<', '>', '"', '\'', '/', ';'].any p = false) {c : Char} (h : p c = true) :
    escapeChar c = [c] ∧ c ≠ ';' := by
  have hne : ∀ d ∈ ['&', '<', '>', '"', '\'', '/', ';'], c ≠ d := by
    rintro d hd rfl
    exact List.any_eq_false.1 hp c hd h
  refine ⟨?_, hne ';' (by decide)⟩
  unfold escapeChar
  split
  case h_7 => rfl
  all_goals exact absurd rfl (hne _ (by decide))

/-- An entity ends with a semicolon. -/
theorem escapeChar_cases (c : Char) :
    escapeChar c = [c] ∨ ∃ front, escapeChar c = front ++ [';'] := by
  unfold escapeChar
  split
  case h_7 => exact .inl rfl
  all_goals right
  · exact ⟨"&amp".toList, by decide⟩
  · exact ⟨"&lt".toList, by decide⟩
  · exact ⟨"&gt".toList, by decide⟩
  · exact ⟨"&quot".toList, by decide⟩
  · exact ⟨"&#x27".toList, by decide⟩
  · exact ⟨"&#x2F".toList, by decide⟩

/-- **A plain text is the end of an escaped text when it is the end of the text itself.** By
induction from the end: an entity in front of it would end with a semicolon. -/
theorem suffix_escape {q : List Char} (h : IsPlain q) (s : List Char) :
    q <:+ escape s ↔ q <:+ s := by
  constructor
  · induction q using List.reverseRecOn generalizing s with
    | nil =>
        intro _
        exact List.nil_suffix
    | append_singleton q c ih =>
        rintro ⟨front, hfront⟩
        have hq : IsPlain q := fun d hd => h d (List.mem_append_left _ hd)
        obtain ⟨-, hc⟩ := h c (by simp)
        rcases List.eq_nil_or_concat s with rfl | ⟨s, d, rfl⟩
        · simp [escape] at hfront
        · rw [List.concat_eq_append, escape_append, ← List.append_assoc,
            show escape [d] = escapeChar d by simp [escape]] at hfront
          rw [List.concat_eq_append]
          rcases escapeChar_cases d with hd | ⟨entity, hd⟩
          · -- the last character stands for itself, and the rest is the end of what is before it
            rw [hd] at hfront
            obtain ⟨hrest, hcd⟩ := List.append_inj' hfront rfl
            obtain rfl : c = d := by simpa using hcd
            obtain ⟨u, hu⟩ := ih hq s ⟨front, hrest⟩
            exact ⟨u, by rw [← hu, List.append_assoc]⟩
          · -- the plain text would end with a semicolon
            rw [hd, ← List.append_assoc] at hfront
            obtain ⟨-, hcd⟩ := List.append_inj' hfront rfl
            exact absurd (by simpa using hcd) hc
  · rintro ⟨front, rfl⟩
    rw [escape_append, escape_of_isPlain h]
    exact List.suffix_append _ _

end Entity

end VideoSurvey.Text
