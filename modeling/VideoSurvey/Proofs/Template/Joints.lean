import VideoSurvey.Proofs.Template.Guards
import VideoSurvey.Proofs.Text.Cuts

/-!
# Fronts of quotation marks in a filled template

A text of a template that begins with a quotation mark ends an attribute, and what stands in front
of it is made with the values before (`joints`). The front of every other quotation mark is told by
the template alone when a tag is opened in it (`Shielded`). So the quotation marks whose front ends
with some head are those in the template's own texts and those behind such joints (`hits_fill`).
-/

set_option autoImplicit false

namespace VideoSurvey.Template

open Text (EndsIn hits hits_append hits_append_of_not_mem hits_of_not_mem hits_quote lastCut)

variable {p : List Char → Bool} {heads : List Char → Prop} {front s t : List Char}

/-! ## Single texts -/

/-- A text without quotation marks, or one that opens a tag in front of the first of them. -/
def Shielded (t : List Char) : Prop := '"' ∉ t ∨ '<' ∈ t.takeWhile (· ≠ '"')

instance (t : List Char) : Decidable (Shielded t) := by
  unfold Shielded
  infer_instance

theorem exists_of_quote_mem (h : '"' ∈ t) :
    ∃ r, t = t.takeWhile (· ≠ '"') ++ '"' :: r ∧ '"' ∉ t.takeWhile (· ≠ '"') := by
  obtain ⟨a, r, rfl, ha⟩ := List.eq_append_cons_of_mem h
  rw [Text.takeWhile_quote ha]
  exact ⟨r, rfl, ha⟩

/-- What stands in front of a shielded text adds nothing. -/
theorem Shielded.hits_eq (ht : Shielded t) (h : EndsIn p heads) (front : List Char) :
    hits p front t = hits p [] t := by
  by_cases hquote : '"' ∈ t
  · have hless := ht.resolve_left (not_not.2 hquote)
    obtain ⟨r, hr, hplain⟩ := exists_of_quote_mem hquote
    rw [hr, hits_append_of_not_mem hplain, hits_append_of_not_mem hplain, hits_quote, hits_quote,
      h.append_eq hless, List.nil_append]
  · rw [hits_of_not_mem hquote, hits_of_not_mem hquote]

/-- A quotation mark at the beginning of a text has only what stands in front as its front. -/
theorem hits_of_head (ht : t.head? = some '"') (h : EndsIn p heads) (front : List Char) :
    hits p front t = (if p front = true then 1 else 0) + hits p [] t := by
  obtain ⟨r, rfl⟩ : ∃ r, t = '"' :: r := by
    cases t with
    | nil => cases ht
    | cons c r => exact ⟨r, by rw [Option.some.inj ht]⟩
  rw [hits_quote, hits_quote, h.nil, if_neg Bool.false_ne_true, Nat.zero_add]

/-! ## Joints -/

/-- What stands in front of the texts that begin with a quotation mark, back to the last quotation
mark before, with some text in front of all. -/
def joints : List Char → List Stretch → List (List Char)
  | _, [] => []
  | front, .value v :: r => joints (front ++ v) r
  | front, .text t :: r =>
      if t.head? = some '"' then front :: joints (lastCut [] t) r else joints (lastCut front t) r

/-- **The quotation marks of several stretches** are those in their texts and those behind their
joints. -/
theorem hits_chars (h : EndsIn p heads) {ps : List Stretch}
    (htexts : ∀ t ∈ texts ps, t.head? = some '"' ∨ Shielded t)
    (hvalues : ∀ v ∈ values ps, '"' ∉ v) (front : List Char) :
    hits p front (chars ps) =
      ((texts ps).map (hits p [])).sum + (joints front ps).countP p := by
  induction ps generalizing front with
  | nil => rfl
  | cons part r ih =>
      cases part with
      | value v =>
          obtain ⟨hv, hvalues⟩ := List.forall_mem_cons.1 hvalues
          rw [chars_cons, texts, joints, ← ih htexts hvalues]
          exact hits_append_of_not_mem hv p front _
      | text t =>
          obtain ⟨ht, htexts⟩ := List.forall_mem_cons.1 htexts
          have hsplit : hits p front (chars (.text t :: r)) =
              hits p front t + hits p (lastCut front t) (chars r) := hits_append p front t _
          rw [hsplit, ih htexts hvalues, texts, joints, List.map_cons, List.sum_cons]
          by_cases hhead : t.head? = some '"'
          · have hmem := List.mem_of_head? hhead
            rw [if_pos hhead, hits_of_head hhead h, Text.lastCut_of_mem hmem, List.countP_cons]
            omega
          · have hshielded := ht.resolve_left hhead
            rw [if_neg hhead, hshielded.hits_eq h]
            omega

/-- **The quotation marks of a filled template** whose front ends with some head are those in its
own texts and those behind its joints. -/
theorem hits_fill (h : EndsIn p heads) {nodes : List Node} {escapes : Bool} {scope : Scope}
    (htexts : ∀ t ∈ allTexts nodes, t.head? = some '"' ∨ Shielded t)
    (hinner : ∀ t ∈ innerTexts nodes, hits p [] t = 0)
    (hvalues : ∀ v ∈ values (stretches escapes scope nodes), '"' ∉ v) :
    hits p [] (fill escapes scope nodes) =
      ((outerTexts nodes).map (hits p [])).sum +
        (joints [] (stretches escapes scope nodes)).countP p := by
  rw [fill_eq_chars, hits_chars h (fun t ht => htexts t (mem_allTexts ht)) hvalues,
    sum_texts hinner]

/-- A template is filled up to one of its texts, and from there on. -/
theorem fill_eq_of_take {nodes : List Node} {n : Nat} {s : List Char}
    (hs : nodes.take n = nodes.take (n - 1) ++ [.text s]) (escapes : Bool) (scope : Scope) :
    fill escapes scope nodes =
      fill escapes scope (nodes.take (n - 1)) ++ s ++ fill escapes scope (nodes.drop n) := by
  have hlast : fill escapes scope [.text s] = s := List.append_nil s
  conv_lhs => rw [← List.take_append_drop n nodes, hs, fill_append, fill_append, hlast]

/-- A place behind a mark: the parts of a template in front of it end with a head and a quotation
mark, and no text from there on has a quotation mark with a head in front. -/
structure IsPlace (p : List Char → Bool) (q : List Char) (nodes : List Node) (n : Nat) : Prop where
  front : ∃ s, nodes.take n = nodes.take (n - 1) ++ [.text s] ∧ q ++ ['"'] <:+ s
  shielded : ∀ t ∈ allTexts (nodes.drop n), t.head? = some '"' ∨ Shielded t
  inner : ∀ t ∈ innerTexts (nodes.drop n), hits p [] t = 0
  outer : ((outerTexts (nodes.drop n)).map (hits p [])).sum = 0

section Place

variable {q : List Char} {nodes : List Node} {n : Nat} (hp : IsPlace p q nodes n)
  (h : EndsIn p heads) {escapes : Bool} {scope : Scope}
  (hvalues : ∀ v ∈ values (stretches escapes scope nodes), '"' ∉ v)

include hp h hvalues

/-- From a place on, the marks of the template are those behind its joints. -/
theorem IsPlace.hits_drop : hits p [] (fill escapes scope (nodes.drop n)) =
    (joints [] (stretches escapes scope (nodes.drop n))).countP p := by
  have hdrop : ∀ v ∈ values (stretches escapes scope (nodes.drop n)), '"' ∉ v := by
    intro v hv
    apply hvalues v
    rw [← List.take_append_drop n nodes, stretches_append, values_append]
    exact List.mem_append_right _ hv
  rw [hits_fill h hp.shielded hp.inner hdrop, hp.outer, Nat.zero_add]

/-- **The value at a place** is told by the marks of the template and the joints from there on. -/
theorem IsPlace.getElem? (hq : heads q) {v r : List Char}
    (hback : fill escapes scope (nodes.drop n) = v ++ '"' :: r) (hv : '"' ∉ v) {k : Nat}
    (hk : hits p [] (fill escapes scope nodes) =
      k + 1 + (joints [] (stretches escapes scope (nodes.drop n))).countP p) :
    (Text.valuesFrom p [] (fill escapes scope nodes))[k]? = some v := by
  have hrest := hp.hits_drop h hvalues
  obtain ⟨s, hs, u, rfl⟩ := hp.front
  have hfill : fill escapes scope nodes =
      fill escapes scope (nodes.take (n - 1)) ++ (u ++ q) ++ '"' :: (v ++ '"' :: r) := by
    rw [fill_eq_of_take hs, hback]
    simp only [List.append_assoc, List.cons_append, List.nil_append]
  rw [← hrest, hback, hfill] at hk
  rw [hfill]
  refine Text.getElem?_valuesFrom_of_hits ?_ hv hk
  exact h.lastCut_eq_true hq ((List.suffix_append u q).trans (List.suffix_append _ _)) []

end Place

/-! ### Joints one by one -/

section Joint

variable (r : List Stretch)

theorem joints_of_head (ht : t.head? = some '"') (front : List Char) :
    joints front (.text t :: r) = front :: joints (lastCut [] t) r := if_pos ht

/-- A text with a quotation mark inside does not look at what stands in front of it. -/
theorem joints_of_mem (ht : t.head? ≠ some '"') (hmem : '"' ∈ t) (front : List Char) :
    joints front (.text t :: r) = joints (lastCut [] t) r := by
  rw [joints, if_neg ht, Text.lastCut_of_mem hmem]

end Joint

/-- A part is repeated behind texts that it does not look at, and leaves one such text behind. -/
theorem joints_flatMap {α : Type} (items : List α) (part : α → List Stretch)
    (joint : α → List (List Char)) (back : List Char) (qs : List Stretch)
    (hpart : ∀ a ∈ items, ∀ front r,
      joints front (part a ++ r) = joint a ++ joints back r)
    (hqs : ∀ front, joints front qs = joints [] qs) (front : List Char) :
    joints front (items.flatMap part ++ qs) = items.flatMap joint ++ joints [] qs := by
  induction items generalizing front with
  | nil => exact hqs front
  | cons a items ih =>
      have hitems := ih (fun b hb => hpart b (List.mem_cons_of_mem a hb)) back
      rw [List.flatMap_cons, List.flatMap_cons, List.append_assoc, List.append_assoc,
        hpart a List.mem_cons_self, hitems]

end VideoSurvey.Template
