import VideoSurvey.Proofs.Template.Stretches

/-!
# Marks with a quotation mark inside

A mark with a quotation mark before its end can begin in one text of a template, take a whole value
in and end in the next text, although the value has no quotation mark. The text behind a value rules
that out when it cannot go on with what is left of the mark (`Blocks`), and the text in front of it
when no part of the mark at its end has a quotation mark (`Brief`). Both are told by the template
alone (`guards`), and then the occurrences of the mark in a filled template are those in its texts
(`occurrences_fill_of_guards`).
-/

set_option autoImplicit false

namespace VideoSurvey.Text

variable {front rest s t u v : List Char}

/-- The mark with a text in front of its first quotation mark and a text behind it. -/
def quotedMark (front rest : List Char) : List Char := front ++ '"' :: rest

/-- A text with which the mark cannot go on from its first quotation mark or before it, unless the
whole mark is in the text. -/
def Blocks (front rest t : List Char) : Prop :=
  ∀ s ∈ front.tails, s ≠ front → ¬ quotedMark s rest <+: t ∧ ¬ t <+: quotedMark s rest

instance (front rest t : List Char) : Decidable (Blocks front rest t) :=
  List.decidableBAll (fun s => s ≠ front → ¬ quotedMark s rest <+: t ∧ ¬ t <+: quotedMark s rest)
    front.tails

/-- What is at the end of the text of a mark that goes on behind it has no quotation mark. -/
def Brief (mark s : List Char) : Prop := ∀ x ∈ s.tails, x <+: mark → '"' ∈ x → x = mark

instance (mark s : List Char) : Decidable (Brief mark s) :=
  List.decidableBAll (fun x => x <+: mark → '"' ∈ x → x = mark) s.tails

theorem quote_mem_quotedMark (front rest : List Char) : '"' ∈ quotedMark front rest :=
  List.mem_append_right _ List.mem_cons_self

/-- A part of the mark without a quotation mark is a part of its front. -/
theorem exists_front_of_append {y : List Char} (hu : '"' ∉ u) (h : quotedMark front rest = u ++ y) :
    ∃ s, front = u ++ s ∧ y = quotedMark s rest := by
  rcases List.append_eq_append_iff.1 h with ⟨s, hs, hrest⟩ | ⟨s, hs, hy⟩
  · cases s with
    | nil =>
        refine ⟨[], ?_, ?_⟩
        · rw [hs, List.append_nil, List.append_nil]
        · exact hrest.symm
    | cons c s =>
        obtain ⟨rfl, -⟩ := List.cons.inj hrest
        refine absurd ?_ hu
        rw [hs]
        simp
  · exact ⟨s, hs, hy⟩

/-- **No mark goes from a text without quotation marks into a text that blocks it.** -/
theorem Blocks.not_prefix (hb : Blocks front rest t) (hu : '"' ∉ u) (hne : u ≠ [])
    (r : List Char) : ¬ quotedMark front rest <+: u ++ (t ++ r) := by
  intro hm
  rcases List.prefix_or_prefix_of_prefix hm (List.prefix_append u (t ++ r)) with hin | ⟨y, hy⟩
  -- the mark would be all in the first text
  · exact hu (hin.subset (quote_mem_quotedMark front rest))
  · obtain ⟨s, hs, rfl⟩ := exists_front_of_append hu hy.symm
    have hproper : s ≠ front := by
      intro hself
      rw [hself] at hs
      exact hne (List.self_eq_append_left.1 hs)
    obtain ⟨hshort, hlong⟩ := hb s ((List.mem_tails _ _).2 ⟨u, hs.symm⟩) hproper
    rw [← hy] at hm
    have hrest := (List.prefix_append_right_inj u).1 hm
    rcases List.prefix_or_prefix_of_prefix hrest (List.prefix_append t r) with h | h
    · exact hshort h
    · exact hlong h

/-- A text without quotation marks adds nothing in front of a text that blocks the mark. -/
theorem occurrences_append_of_blocks (hb : Blocks front rest t) (hv : '"' ∉ v) (r : List Char) :
    occurrences (quotedMark front rest) (v ++ (t ++ r)) =
      occurrences (quotedMark front rest) (t ++ r) := by
  -- the mark would have to begin at one of its characters
  induction v with
  | nil => rfl
  | cons c v ih =>
      have hm := hb.not_prefix hv (List.cons_ne_nil c v) r
      have ih := ih fun h => hv (List.mem_cons_of_mem c h)
      rw [List.cons_append] at hm ⊢
      unfold occurrences at ih ⊢
      rw [behind, if_neg hm, ih]

/-- **Around a text without quotation marks the occurrences are counted apart.** -/
theorem occurrences_around (hs : Brief (quotedMark front rest) s) (hv : '"' ∉ v)
    (hb : Blocks front rest t) (r : List Char) :
    occurrences (quotedMark front rest) (s ++ (v ++ (t ++ r))) =
      occurrences (quotedMark front rest) s + occurrences (quotedMark front rest) (t ++ r) := by
  induction s with
  | nil =>
      rw [List.nil_append, occurrences_append_of_blocks hb hv]
      exact (Nat.zero_add _).symm
  | cons c s ih =>
      have hrest : Brief (quotedMark front rest) s := by
        intro x hx
        refine hs x ?_
        rw [List.tails]
        exact List.mem_cons_of_mem _ hx
      have hiff : quotedMark front rest <+: c :: (s ++ (v ++ (t ++ r))) ↔
          quotedMark front rest <+: c :: s := by
        constructor
        · intro hm
          rcases List.prefix_or_prefix_of_prefix hm (List.prefix_append (c :: s) _) with hin | hin
          · exact hin
          · by_cases hquote : '"' ∈ c :: s
            · rw [hs (c :: s) ((List.mem_tails _ _).2 (List.suffix_refl _)) hin hquote]
            -- the mark would go on over both texts
            · refine absurd ?_ (hb.not_prefix (u := c :: s ++ v) ?_ (List.cons_ne_nil c _) r)
              · rw [List.append_assoc]
                exact hm
              · rw [List.mem_append, not_or]
                exact ⟨hquote, hv⟩
        · intro hm
          exact hm.trans (List.prefix_append (c :: s) _)
      unfold occurrences at ih ⊢
      rw [List.cons_append, behind, behind, if_congr hiff rfl rfl]
      split
      · rw [List.length_cons, List.length_cons, ih hrest, Nat.add_right_comm]
      · exact ih hrest

end VideoSurvey.Text

namespace VideoSurvey.Template

open Text (Clear Brief Blocks occurrences quotedMark)

/-! ## Guarded stretches -/

/-- The values among the stretches. -/
def values : List Stretch → List (List Char)
  | [] => []
  | .text _ :: r => values r
  | .value v :: r => v :: values r

theorem values_append (ps qs : List Stretch) : values (ps ++ qs) = values ps ++ values qs := by
  induction ps with
  | nil => rfl
  | cons p ps ih =>
      cases p with
      | text s => exact ih
      | value v => exact congrArg (v :: ·) ih

theorem values_eq_places (ps : List Stretch) : values ps = (places ps).map Prod.fst := by
  induction ps with
  | nil => rfl
  | cons p ps ih =>
      cases p with
      | text s => exact ih
      | value v => exact congrArg (v :: ·) ih

/-- Values have no quotation mark and stand in front of texts that block the mark. A text is clear
of it, or it is brief and a value follows. -/
def Guarded (front rest : List Char) : List Stretch → Prop
  | [] => True
  | .text s :: r =>
      (Clear (quotedMark front rest) s ∨
        Brief (quotedMark front rest) s ∧ ∃ v r', r = .value v :: r') ∧ Guarded front rest r
  | .value v :: r =>
      '"' ∉ v ∧ (∃ t r', r = .text t :: r' ∧ Blocks front rest t) ∧ Guarded front rest r

section Guarded

variable {front rest : List Char}

theorem Guarded.append {ps qs : List Stretch} (hps : Guarded front rest ps)
    (hqs : Guarded front rest qs) : Guarded front rest (ps ++ qs) := by
  induction ps with
  | nil => exact hqs
  | cons p ps ih =>
      cases p with
      | text s =>
          obtain ⟨hs, hps⟩ := hps
          refine ⟨?_, ih hps⟩
          rcases hs with hclear | ⟨hbrief, v, r, rfl⟩
          · exact .inl hclear
          · exact .inr ⟨hbrief, v, _, rfl⟩
      | value v =>
          obtain ⟨hv, ⟨t, r, rfl, hb⟩, hps⟩ := hps
          exact ⟨hv, ⟨t, _, rfl, hb⟩, ih hps⟩

/-- **The occurrences of the mark in guarded stretches are those in their texts.** -/
theorem Guarded.occurrences {ps : List Stretch} (h : Guarded front rest ps) :
    occurrences (quotedMark front rest) (chars ps) =
      ((texts ps).map (occurrences (quotedMark front rest))).sum := by
  induction ps with
  | nil => rfl
  | cons p ps ih =>
      cases p with
      | text s =>
          obtain ⟨hs, hps⟩ := h
          rw [chars_cons, texts, List.map_cons, List.sum_cons, ← ih hps]
          rcases hs with hclear | ⟨hbrief, v, r, rfl⟩
          · exact Text.occurrences_append hclear _
          · obtain ⟨hv, ⟨t, r, rfl, hb⟩, -⟩ := hps
            rw [chars_cons, chars_cons]
            exact (Text.occurrences_around hbrief hv hb _).trans
              (congrArg _ (Text.occurrences_append_of_blocks hb hv _).symm)
      | value v =>
          obtain ⟨hv, ⟨t, r, rfl, hb⟩, hps⟩ := h
          rw [texts, ← ih hps, chars_cons, chars_cons]
          exact Text.occurrences_append_of_blocks hb hv _

end Guarded

/-! ## Guarded templates -/

/-- A value follows. -/
def startsWithEmit : List Node → Bool
  | .emit _ _ :: _ => true
  | _ => false

/-- A text follows that blocks the mark. -/
def startsWithBlock (front rest : List Char) : List Node → Bool
  | .text t :: _ => decide (Blocks front rest t)
  | _ => false

mutual

/-- One part guards its values, with the parts behind it. -/
def nodeGuards (front rest : List Char) (behind : List Node) : Node → Bool
  | .text s =>
      decide (Clear (quotedMark front rest) s) ||
        decide (Brief (quotedMark front rest) s) && startsWithEmit behind
  | .emit _ _ => startsWithBlock front rest behind
  | .choose _ whenTrue whenFalse => guards front rest whenTrue && guards front rest whenFalse
  | .each _ _ body => guards front rest body

/-- The texts of a template guard its values, whatever is chosen and repeated. -/
def guards (front rest : List Char) : List Node → Bool
  | [] => true
  | node :: r => nodeGuards front rest r node && guards front rest r

end

section Guards

variable {front rest : List Char} {escapes : Bool}

mutual

/-- In front of guarded stretches a part that guards its values is filled with guarded ones. -/
theorem guarded_of_nodeGuards {scope : Scope} {node : Node} {behind : List Node}
    (h : nodeGuards front rest behind node = true)
    (hv : ∀ v ∈ values (nodeStretches escapes scope node), '"' ∉ v)
    (hbehind : Guarded front rest (stretches escapes scope behind)) :
    Guarded front rest
      (nodeStretches escapes scope node ++ stretches escapes scope behind) := by
  cases node with
  | text s =>
      rw [nodeGuards, Bool.or_eq_true, Bool.and_eq_true, decide_eq_true_eq,
        decide_eq_true_eq] at h
      refine ⟨?_, hbehind⟩
      rcases h with hclear | ⟨hbrief, hemit⟩
      · exact .inl hclear
      · refine .inr ⟨hbrief, ?_⟩
        unfold startsWithEmit at hemit
        split at hemit
        · exact ⟨_, _, rfl⟩
        · cases hemit
  | emit operand filters =>
      rw [nodeGuards] at h
      refine ⟨hv _ List.mem_cons_self, ?_, hbehind⟩
      unfold startsWithBlock at h
      split at h
      · exact ⟨_, _, rfl, of_decide_eq_true h⟩
      · cases h
  | choose path whenTrue whenFalse =>
      rw [nodeGuards, Bool.and_eq_true] at h
      refine Guarded.append ?_ hbehind
      rw [nodeStretches] at hv ⊢
      -- both branches guard their values, whichever is taken
      by_cases hp : (lookup? scope path).any isTruthy = true
      · rw [if_pos hp] at hv ⊢
        exact guarded_of_guards h.1 hv
      · rw [if_neg hp] at hv ⊢
        exact guarded_of_guards h.2 hv
  | each name path body =>
      rw [nodeGuards] at h
      refine Guarded.append ?_ hbehind
      rw [nodeStretches] at hv ⊢
      generalize (items? ((lookup? scope path).getD .null)).getD [] = items at hv ⊢
      -- the body is guarded for each item
      induction items with
      | nil => trivial
      | cons item items ih =>
          rw [List.flatMap_cons] at hv ⊢
          rw [values_append, List.forall_mem_append] at hv
          exact (guarded_of_guards h hv.1).append (ih hv.2)

/-- A template that guards its values is filled with guarded stretches. -/
theorem guarded_of_guards {scope : Scope} {nodes : List Node} (h : guards front rest nodes = true)
    (hv : ∀ v ∈ values (stretches escapes scope nodes), '"' ∉ v) :
    Guarded front rest (stretches escapes scope nodes) := by
  cases nodes with
  | nil => trivial
  | cons node r =>
      rw [guards, Bool.and_eq_true] at h
      rw [stretches, values_append, List.forall_mem_append] at hv
      rw [stretches]
      exact guarded_of_nodeGuards h.1 hv.1 (guarded_of_guards h.2 hv.2)

end

/-- **The occurrences of the mark in a template that guards its values** are those in its own
texts. -/
theorem occurrences_fill_of_guards {scope : Scope} {nodes : List Node}
    (h : guards front rest nodes = true)
    (hinner : ∀ s ∈ innerTexts nodes, occurrences (quotedMark front rest) s = 0)
    (hv : ∀ v ∈ values (stretches escapes scope nodes), '"' ∉ v) :
    occurrences (quotedMark front rest) (fill escapes scope nodes) =
      ((outerTexts nodes).map (occurrences (quotedMark front rest))).sum := by
  rw [fill_eq_chars, (guarded_of_guards h hv).occurrences, sum_texts hinner]

end Guards

/-! ## Choices that are made -/

/-- The conditions of a template's choices. -/
def conditions : List Node → List Path
  | [] => []
  | .choose path _ _ :: r => path :: conditions r
  | _ :: r => conditions r

/-- A template whose choices between a text and nothing are made: what is chosen and the texts
around it are one text. -/
def decided (chosen : Bool) : List Node → List Node
  | .text s :: .choose _ [.text t] [] :: .text u :: r =>
      .text (s ++ ((if chosen then t else []) ++ u)) :: decided chosen r
  | node :: r => node :: decided chosen r
  | [] => []

section Decided

variable {chosen : Bool} {escapes : Bool} {scope : Scope}

theorem values_decided (nodes : List Node) :
    values (stretches escapes scope (decided chosen nodes)) =
      values (stretches escapes scope nodes) := by
  induction nodes using decided.induct with
  | case1 s path t u r ih =>
      rw [decided, stretches_text, stretches_text, stretches, stretches_text, nodeStretches]
      by_cases hp : (lookup? scope path).any isTruthy = true
      · rw [if_pos hp]
        exact ih
      · rw [if_neg hp]
        exact ih
  | case2 node r hother ih =>
      rw [decided, stretches, stretches, values_append, values_append, ih]
      exact hother
  | case3 => rfl

/-- A template and what its choices make of it are filled alike. -/
theorem fill_decided {nodes : List Node}
    (h : ∀ path ∈ conditions nodes, (lookup? scope path).any isTruthy = chosen) :
    fill escapes scope (decided chosen nodes) = fill escapes scope nodes := by
  induction nodes using decided.induct with
  | case1 s path t u r ih =>
      have hchosen : (lookup? scope path).any isTruthy = chosen := h path List.mem_cons_self
      have ih := ih fun path hpath => h path (List.mem_cons_of_mem _ hpath)
      rw [decided, fill, fill, fill, fill, ih]
      simp only [fillNode, fill, hchosen, List.append_assoc]
      cases chosen with
      | true => simp
      | false => simp
  | case2 node r hother ih =>
      rw [decided, fill, fill, ih]
      · intro path hpath
        refine h path ?_
        cases node with
        | choose _ _ _ => exact List.mem_cons_of_mem _ hpath
        | _ => exact hpath
      · exact hother
  | case3 => rfl

end Decided

end VideoSurvey.Template
