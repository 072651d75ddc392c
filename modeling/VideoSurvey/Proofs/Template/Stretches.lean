import Mathlib.Algebra.GroupWithZero.Nat
import VideoSurvey.Proofs.Template.Filling
import VideoSurvey.Proofs.Text.Occurrences

/-!
# What a filled template is made of

A filled template is a list of stretches: texts of the template and values at its places
(`fill_eq_chars`). The occurrences of a mark in it are those in its texts and those in its values,
each with the one character behind it (`occurrences_chars`), as long as no text and no value can
begin a mark that goes on behind it (`Apart`).
-/

set_option autoImplicit false

namespace VideoSurvey.Template

open Text (Clear occurrences occurrences_append occurrences_append_cons)

/-- A stretch of a filled template. -/
inductive Stretch where
  /-- A text of the template. -/
  | text (s : List Char)
  /-- The value at a place. -/
  | value (s : List Char)
deriving Repr

/-- The characters of a stretch. -/
def Stretch.chars : Stretch → List Char
  | .text s => s
  | .value s => s

/-- The characters of several stretches. -/
def chars (ps : List Stretch) : List Char := ps.flatMap Stretch.chars

mutual

/-- The stretches of one part. -/
def nodeStretches (escapes : Bool) (scope : Scope) : Node → List Stretch
  | .text text => [.text text]
  | .emit operand filters =>
      [.value (emitted escapes filters (throughFilters filters (valueOf scope operand)))]
  | .choose path whenTrue whenFalse =>
      if (lookup? scope path).any isTruthy then stretches escapes scope whenTrue
      else stretches escapes scope whenFalse
  | .each name path body =>
      ((items? ((lookup? scope path).getD .null)).getD []).flatMap fun v =>
        stretches escapes ((name, v) :: scope) body

/-- The stretches of a template. -/
def stretches (escapes : Bool) (scope : Scope) : List Node → List Stretch
  | [] => []
  | node :: r => nodeStretches escapes scope node ++ stretches escapes scope r

end

@[simp] theorem chars_nil : chars [] = [] := rfl

@[simp] theorem chars_cons (p : Stretch) (ps : List Stretch) :
    chars (p :: ps) = p.chars ++ chars ps := rfl

@[simp] theorem chars_append (ps qs : List Stretch) : chars (ps ++ qs) = chars ps ++ chars qs :=
  List.flatMap_append

mutual

theorem fillNode_eq_chars (escapes : Bool) (scope : Scope) (node : Node) :
    fillNode escapes scope node = chars (nodeStretches escapes scope node) := by
  cases node with
  | text text =>
      rw [fillNode, nodeStretches]
      exact (List.append_nil _).symm
  | emit operand filters =>
      rw [fillNode, nodeStretches]
      exact (List.append_nil _).symm
  | choose path whenTrue whenFalse =>
      rw [fillNode, nodeStretches]
      by_cases hp : (lookup? scope path).any isTruthy = true
      · rw [if_pos hp, if_pos hp, fill_eq_chars]
      · rw [if_neg hp, if_neg hp, fill_eq_chars]
  | each name path body =>
      rw [fillNode, nodeStretches, chars, List.flatMap_assoc]
      congr 1
      funext v
      exact fill_eq_chars escapes ((name, v) :: scope) body

/-- **A filled template is put together from its stretches.** -/
theorem fill_eq_chars (escapes : Bool) (scope : Scope) (nodes : List Node) :
    fill escapes scope nodes = chars (stretches escapes scope nodes) := by
  cases nodes with
  | nil => rw [fill, stretches, chars_nil]
  | cons node r =>
      rw [fill, stretches, chars_append, fillNode_eq_chars, fill_eq_chars escapes scope r]

end

theorem stretches_append (escapes : Bool) (scope : Scope) (nodes more : List Node) :
    stretches escapes scope (nodes ++ more) =
      stretches escapes scope nodes ++ stretches escapes scope more := by
  induction nodes with
  | nil => rfl
  | cons node nodes ih =>
      rw [List.cons_append, stretches, stretches, ih, List.append_assoc]

theorem fill_text (escapes : Bool) (scope : Scope) (s : List Char) (r : List Node) :
    fill escapes scope (.text s :: r) = s ++ fill escapes scope r := rfl

theorem fill_append (escapes : Bool) (scope : Scope) (nodes more : List Node) :
    fill escapes scope (nodes ++ more) =
      fill escapes scope nodes ++ fill escapes scope more := by
  rw [fill_eq_chars, fill_eq_chars, fill_eq_chars, stretches_append, chars_append]

@[simp] theorem stretches_nil (escapes : Bool) (scope : Scope) :
    stretches escapes scope [] = [] := rfl

@[simp] theorem stretches_text (escapes : Bool) (scope : Scope) (s : List Char) (r : List Node) :
    stretches escapes scope (.text s :: r) = .text s :: stretches escapes scope r := rfl

@[simp] theorem stretches_emit (escapes : Bool) (scope : Scope) (operand : Operand)
    (filters : List Filter) (r : List Node) :
    stretches escapes scope (.emit operand filters :: r) =
      .value (emitted escapes filters (throughFilters filters (valueOf scope operand))) ::
        stretches escapes scope r := rfl

/-! ## Texts and places -/

/-- The texts among the stretches. -/
def texts : List Stretch → List (List Char)
  | [] => []
  | .text s :: r => s :: texts r
  | .value _ :: r => texts r

/-- The character that begins the text which follows, if a text follows. -/
def opening : List Stretch → List Char
  | .text (c :: _) :: _ => [c]
  | _ => []

/-- The values among the stretches, each with the character behind it. -/
def places : List Stretch → List (List Char × List Char)
  | [] => []
  | .text _ :: r => places r
  | .value s :: r => (s, opening r) :: places r

theorem texts_append (ps qs : List Stretch) : texts (ps ++ qs) = texts ps ++ texts qs := by
  induction ps with
  | nil => rfl
  | cons p ps ih =>
      cases p with
      | text s => rw [List.cons_append, texts, texts, ih, List.cons_append]
      | value s => rw [List.cons_append, texts, texts, ih]

/-- Only the next stretch is looked at. -/
theorem opening_cons (p : Stretch) (ps : List Stretch) : opening (p :: ps) = opening [p] := by
  cases p with
  | text s =>
      cases s with
      | nil => rfl
      | cons c s => rfl
  | value s => rfl

theorem length_opening (ps : List Stretch) : (opening ps).length ≤ 1 := by
  unfold opening
  split
  · exact Nat.le_refl 1
  · exact Nat.zero_le 1

/-- At most one character is told of what stands behind a value. -/
theorem length_behind {ps : List Stretch} {v : List Char × List Char} (h : v ∈ places ps) :
    v.2.length ≤ 1 := by
  induction ps with
  | nil => cases h
  | cons p ps ih =>
      cases p with
      | text s => exact ih h
      | value s =>
          rcases List.mem_cons.1 h with rfl | h
          · exact length_opening ps
          · exact ih h

/-- Stretches behind a text are not seen by the values before it. -/
theorem places_append_text (ps : List Stretch) (c : Char) (s : List Char) (qs : List Stretch) :
    places (ps ++ .text (c :: s) :: qs) = places (ps ++ [.text (c :: s)]) ++ places qs := by
  induction ps with
  | nil => rfl
  | cons p ps ih =>
      cases p with
      | text t => exact ih
      | value v =>
          rw [List.cons_append, List.cons_append, places, places, ih, List.cons_append]
          cases ps with
          | nil => rfl
          | cons p ps =>
              rw [List.cons_append, List.cons_append, opening_cons p (ps ++ _ :: qs),
                opening_cons p (ps ++ [_])]

/-- A choice of a text or nothing emits nothing. -/
@[simp] theorem places_choose (escapes : Bool) (scope : Scope) (path : Path) (s : List Char)
    (r : List Node) :
    places (stretches escapes scope (.choose path [.text s] [] :: r)) =
      places (stretches escapes scope r) := by
  rw [stretches, nodeStretches]
  split
  · rfl
  · rfl

/-- A part that ends with a text can be repeated. -/
theorem places_flatMap {α : Type} (items : List α) (part : α → List Stretch) {s : List Char}
    (hs : s ≠ []) (h : ∀ a ∈ items, ∃ ps, part a = ps ++ [.text s]) (qs : List Stretch) :
    places (items.flatMap part ++ qs) =
      (items.flatMap fun a => places (part a)) ++ places qs := by
  obtain ⟨c, s, rfl⟩ := List.exists_cons_of_ne_nil hs
  induction items with
  | nil => rfl
  | cons a items ih =>
      obtain ⟨ps, hps⟩ := h a List.mem_cons_self
      rw [List.flatMap_cons, List.flatMap_cons, List.append_assoc, List.append_assoc,
        ← ih fun b hb => h b (List.mem_cons_of_mem a hb), hps, List.append_assoc]
      exact places_append_text ps c s _

/-- Values that are repeated behind one text each. -/
theorem places_flatMap_value {α : Type} (items : List α) (value : α → List Char) (c : Char)
    (s : List Char) (qs : List Stretch) :
    places ((items.flatMap fun a => [.text (c :: s), .value (value a)]) ++ .text (c :: s) :: qs) =
      (items.map fun a => (value a, [c])) ++ places qs := by
  induction items with
  | nil => rfl
  | cons a items ih =>
      -- behind the value stands the text of the next item, or the one behind all items
      have hopening : opening ((items.flatMap fun a => [.text (c :: s), .value (value a)]) ++
          .text (c :: s) :: qs) = [c] := by
        cases items with
        | nil => rfl
        | cons b items => rfl
      have hitem (rest : List Stretch) :
          places ([.text (c :: s), .value (value a)] ++ rest) =
            (value a, opening rest) :: places rest := rfl
      rw [List.flatMap_cons, List.append_assoc, hitem, hopening, ih]
      rfl

/-- A character of a filled template stands in one of its texts or in one of its values. -/
theorem mem_chars {c : Char} {ps : List Stretch} :
    c ∈ chars ps ↔ (∃ s ∈ texts ps, c ∈ s) ∨ ∃ v ∈ places ps, c ∈ v.1 := by
  induction ps with
  | nil => simp [texts, places]
  | cons p ps ih =>
      rw [chars_cons, List.mem_append, ih]
      cases p with
      | text s =>
          rw [texts, places, List.exists_mem_cons_iff, or_assoc]
          rfl
      | value s =>
          rw [texts, places, List.exists_mem_cons_iff, or_left_comm]
          rfl

/-! ### The first characters of texts -/

theorem lines_eq_cons {s : String} {c : Char} {l : List Char} (h : s = String.ofList (c :: l))
    (r : List String) : ∃ t, lines (s :: r) = c :: t := by
  subst h
  cases r with
  | nil => exact ⟨l, by simp [lines]⟩
  | cons s' r => exact ⟨l ++ '\n' :: lines (s' :: r), by simp [lines]⟩

/-- Lines that begin with an empty one begin with a line break. -/
theorem lines_empty_cons (s : String) (r : List String) :
    lines ("" :: s :: r) = '\n' :: lines (s :: r) := by
  simp [lines]

theorem lines_break : lines ["", ""] = ['\n'] := by
  simp [lines]

/-- Lines begin with the first character of the first of them. -/
theorem opening_lines {s : String} {c : Char} {l : List Char} (h : s = String.ofList (c :: l))
    (r : List String) (ps : List Stretch) : opening (.text (lines (s :: r)) :: ps) = [c] := by
  obtain ⟨t, ht⟩ := lines_eq_cons h r
  rw [ht]
  rfl

/-- If that is empty, they begin with a line break. -/
theorem opening_lines_empty (s : String) (r : List String) (ps : List Stretch) :
    opening (.text (lines ("" :: s :: r)) :: ps) = ['\n'] := by
  rw [lines_empty_cons]
  rfl

/-! ## Occurrences -/

/-- No mark begins in a text or a value and goes on behind it: texts are clear, and so are the
values, or the character behind them ends the mark's reach. -/
structure Apart (mark : List Char) (ps : List Stretch) : Prop where
  texts : ∀ s ∈ texts ps, Clear mark s
  places : ∀ v ∈ places ps, Clear mark v.1 ∨ ∃ c, v.2 = [c] ∧ c ∉ mark.dropLast

/-- A single character is no mark. -/
theorem occurrences_opening {mark : List Char} (hlen : 2 ≤ mark.length) (ps : List Stretch) :
    occurrences mark (opening ps) = 0 := by
  unfold occurrences
  rw [Text.behind_eq_nil_of_length_lt, List.length_nil]
  unfold opening
  split
  · exact hlen
  · exact Nat.lt_of_lt_of_le (by decide) hlen

/-- **The occurrences of a mark in a filled template are those in its texts and in its values.** -/
theorem occurrences_chars {mark : List Char} (hlen : 2 ≤ mark.length) {ps : List Stretch}
    (h : Apart mark ps) :
    occurrences mark (chars ps) =
      ((texts ps).map (occurrences mark)).sum +
        ((places ps).map fun v => occurrences mark (v.1 ++ v.2)).sum := by
  induction ps with
  | nil => rfl
  | cons p ps ih =>
      cases p with
      | text s =>
          have ih := ih ⟨fun t ht => h.texts t (List.mem_cons_of_mem s ht), h.places⟩
          rw [chars_cons, texts, places, List.map_cons, List.sum_cons, Nat.add_assoc, ← ih]
          exact occurrences_append (h.texts s List.mem_cons_self) _
      | value s =>
          have ih := ih ⟨h.texts, fun v hv => h.places v (List.mem_cons_of_mem _ hv)⟩
          have hvalue : occurrences mark (s ++ chars ps) =
              occurrences mark (s ++ opening ps) + occurrences mark (chars ps) := by
            rcases h.places _ List.mem_cons_self with hclear | ⟨c, hc, hmem⟩
            · rw [occurrences_append hclear, occurrences_append hclear,
                occurrences_opening hlen, Nat.add_zero]
            · -- the text behind the value begins with the character that keeps the two apart
              have hc : opening ps = [c] := hc
              unfold opening at hc
              split at hc
              · rename_i d t r
                obtain rfl := List.singleton_inj.1 hc
                exact occurrences_append_cons hmem hlen s _
              · cases hc
          rw [chars_cons, texts, places, List.map_cons, List.sum_cons, Nat.add_left_comm, ← ih]
          exact hvalue

/-! ## The texts of a template -/

mutual

/-- The texts in one part, whatever is chosen and repeated. -/
def nodeTexts : Node → List (List Char)
  | .text text => [text]
  | .emit _ _ => []
  | .choose _ whenTrue whenFalse => allTexts whenTrue ++ allTexts whenFalse
  | .each _ _ body => allTexts body

/-- The texts in a template, whatever is chosen and repeated. -/
def allTexts : List Node → List (List Char)
  | [] => []
  | node :: r => nodeTexts node ++ allTexts r

end

mutual

theorem mem_nodeTexts {escapes : Bool} {scope : Scope} {node : Node} {s : List Char}
    (h : s ∈ texts (nodeStretches escapes scope node)) : s ∈ nodeTexts node := by
  cases node with
  | text text => exact h
  | emit operand filters => cases h
  | choose path whenTrue whenFalse =>
      rw [nodeStretches] at h
      rw [nodeTexts, List.mem_append]
      split at h
      · exact .inl (mem_allTexts h)
      · exact .inr (mem_allTexts h)
  | each name path body =>
      rw [nodeStretches] at h
      rw [nodeTexts]
      generalize (items? ((lookup? scope path).getD .null)).getD [] = items at h
      induction items with
      | nil => cases h
      | cons v items ih =>
          rw [List.flatMap_cons, texts_append, List.mem_append] at h
          rcases h with h | h
          · exact mem_allTexts h
          · exact ih h

/-- The texts that are filled in are texts of the template. -/
theorem mem_allTexts {escapes : Bool} {scope : Scope} {nodes : List Node} {s : List Char}
    (h : s ∈ texts (stretches escapes scope nodes)) : s ∈ allTexts nodes := by
  cases nodes with
  | nil => exact h
  | cons node r =>
      rw [stretches, texts_append, List.mem_append] at h
      rw [allTexts, List.mem_append]
      rcases h with h | h
      · exact .inl (mem_nodeTexts h)
      · exact .inr (mem_allTexts h)

end

/-- The texts that are filled in once each, whatever is chosen and repeated. -/
def outerTexts : List Node → List (List Char)
  | [] => []
  | .text s :: r => s :: outerTexts r
  | _ :: r => outerTexts r

/-- The texts inside choices and repetitions. -/
def innerTexts : List Node → List (List Char)
  | [] => []
  | .text _ :: r => innerTexts r
  | node :: r => nodeTexts node ++ innerTexts r

theorem mem_allTexts_of_outer {nodes : List Node} {s : List Char} (h : s ∈ outerTexts nodes) :
    s ∈ allTexts nodes := by
  induction nodes with
  | nil => exact h
  | cons node r ih =>
      rw [allTexts]
      cases node with
      | text t =>
          rcases List.mem_cons.1 h with rfl | h
          · exact List.mem_append_left _ List.mem_cons_self
          · exact List.mem_append_right _ (ih h)
      | _ => exact List.mem_append_right _ (ih h)

theorem mem_allTexts_of_inner {nodes : List Node} {s : List Char} (h : s ∈ innerTexts nodes) :
    s ∈ allTexts nodes := by
  induction nodes with
  | nil => exact h
  | cons node r ih =>
      rw [allTexts]
      cases node with
      | text t => exact List.mem_append_right _ (ih h)
      | _ => exact (List.mem_append.1 h).elim (List.mem_append_left _) fun h =>
          List.mem_append_right _ (ih h)

/-- What does not occur inside choices and repetitions occurs as often as in the texts around
them. -/
theorem sum_texts {f : List Char → Nat} {nodes : List Node} (h : ∀ s ∈ innerTexts nodes, f s = 0)
    (escapes : Bool) (scope : Scope) :
    ((texts (stretches escapes scope nodes)).map f).sum = ((outerTexts nodes).map f).sum := by
  induction nodes with
  | nil => rfl
  | cons node r ih =>
      have hinner (hnode : innerTexts (node :: r) = nodeTexts node ++ innerTexts r)
          (houter : outerTexts (node :: r) = outerTexts r) :
          ((texts (stretches escapes scope (node :: r))).map f).sum =
            ((outerTexts (node :: r)).map f).sum := by
        have hzero : ((texts (nodeStretches escapes scope node)).map f).sum = 0 := by
          rw [List.sum_eq_zero_iff_forall_eq_nat, List.forall_mem_map]
          intro s hs
          exact h s (hnode ▸ List.mem_append_left _ (mem_nodeTexts hs))
        rw [stretches, texts_append, List.map_append, List.sum_append, hzero, Nat.zero_add, houter]
        exact ih fun s hs => h s (hnode ▸ List.mem_append_right _ hs)
      cases node with
      | text s =>
          rw [stretches_text, texts, outerTexts, List.map_cons, List.map_cons, List.sum_cons,
            List.sum_cons, ih h]
      | emit operand filters => exact hinner rfl rfl
      | choose path whenTrue whenFalse => exact hinner rfl rfl
      | each name path body => exact hinner rfl rfl

/-- **The occurrences of a mark in a filled template,** told by the template's own texts and by its
values. -/
theorem occurrences_fill {mark : List Char} (hlen : 2 ≤ mark.length) {nodes : List Node}
    (hclear : ∀ s ∈ allTexts nodes, Clear mark s)
    (hinner : ∀ s ∈ innerTexts nodes, occurrences mark s = 0) {escapes : Bool} {scope : Scope}
    (hplaces : ∀ v ∈ places (stretches escapes scope nodes),
      Clear mark v.1 ∨ ∃ c, v.2 = [c] ∧ c ∉ mark.dropLast) :
    occurrences mark (fill escapes scope nodes) =
      ((outerTexts nodes).map (occurrences mark)).sum +
        ((places (stretches escapes scope nodes)).map fun v =>
          occurrences mark (v.1 ++ v.2)).sum := by
  rw [fill_eq_chars, occurrences_chars hlen ⟨fun s hs => hclear s (mem_allTexts hs), hplaces⟩,
    sum_texts hinner]

/-- A character that neither the texts of a template nor the values have is not in the filled
template. -/
theorem not_mem_fill {c : Char} {nodes : List Node} {escapes : Bool} {scope : Scope}
    (htexts : ∀ s ∈ allTexts nodes, c ∉ s)
    (hvalues : ∀ v ∈ places (stretches escapes scope nodes), c ∉ v.1) :
    c ∉ fill escapes scope nodes := by
  rw [fill_eq_chars, mem_chars]
  rintro (⟨s, hs, hc⟩ | ⟨v, hv, hc⟩)
  · exact htexts s (mem_allTexts hs) hc
  · exact hvalues v hv hc

/-- A mark that is in none of a template's texts occurs in its values only. -/
theorem occurrences_fill_of_quiet {mark : List Char} (hlen : 2 ≤ mark.length) {nodes : List Node}
    (hquiet : ∀ s ∈ allTexts nodes, Clear mark s ∧ occurrences mark s = 0) {escapes : Bool}
    {scope : Scope}
    (hplaces : ∀ v ∈ places (stretches escapes scope nodes),
      Clear mark v.1 ∨ ∃ c, v.2 = [c] ∧ c ∉ mark.dropLast) :
    occurrences mark (fill escapes scope nodes) =
      ((places (stretches escapes scope nodes)).map fun v =>
        occurrences mark (v.1 ++ v.2)).sum := by
  have hzero : ((outerTexts nodes).map (occurrences mark)).sum = 0 := by
    rw [List.sum_eq_zero_iff_forall_eq_nat, List.forall_mem_map]
    exact fun s hs => (hquiet s (mem_allTexts_of_outer hs)).2
  rw [occurrences_fill hlen (fun s hs => (hquiet s hs).1)
    (fun s hs => (hquiet s (mem_allTexts_of_inner hs)).2) hplaces, hzero, Nat.zero_add]

end VideoSurvey.Template
