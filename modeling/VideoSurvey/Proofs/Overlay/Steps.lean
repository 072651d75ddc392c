import VideoSurvey.Proofs.Overlay.StepMarks

/-!
# The card of a question and its step

The markup of a card and the step that the wizard takes with it are made apart from each other, and
the script joins them by ids, by the number of a star and by the id of the next card. Here is what
the two agree on (`Agrees`), whatever strings the question has: the element of the card and its
submit control bear the ids of the step, the control leads to the next card of the step and says
whether it is the last one, and the stars are those that the step counts. A string of the question
that ends like the name of one of these attributes makes its mark once more and no other value.
-/

set_option autoImplicit false

namespace VideoSurvey.Overlay

open Survey (Answer ResolvedQuestion)
open Template (fill fill_text lines)
open Text (hits hits_append hits_quote isBlankChar lastCut occurrences toList_of_eq_ofList)
open Text.Entity (escape not_mem_escape)

namespace Pages

/-! ## The element of a card -/

/-- The class that an element has when it is shown at first, behind another class. -/
def activeClass (chosen : Bool) : List Char := if chosen then activeFront else []

/-- An element with an id, a class and the class of what is shown at first if it is. -/
def OpensCard (markup : List Char) (id : String) (chosen : Bool) : Prop :=
  ∃ r, markup = "<div id=\"".toList ++ (id.toList ++ ("\" class=\"survey-feedback-step".toList ++
    (activeClass chosen ++ '"' :: r)))

theorem shownPage_open (chosen : Bool) (answer : Answer) :
    ∃ t more, shownPage chosen answer = .text (lines ["<div id=\""]) ::
      place ["step", "step_id"] :: .text (lines ["\" class=\"survey-feedback-step"] ++
        ((if chosen then lines [" active"] else []) ++ t)) :: more ∧ t.head? = some '"' := by
  cases answer with
  | starRating =>
      refine ⟨_, _, rfl, ?_⟩
      simp (disch := exact rfl) only [lines, List.map_cons, List.map_nil, toList_of_eq_ofList]
      rfl
  | text placeholder =>
      refine ⟨_, _, rfl, ?_⟩
      simp (disch := exact rfl) only [lines, List.map_cons, List.map_nil, toList_of_eq_ofList]
      rfl

theorem lines_singleton (s : String) : lines [s] = s.toList := by
  simp [lines]

/-- **The element of a card** bears the id of the step, and is shown at first when the question is
the first one. -/
theorem card_opens (total maxStars : Nat) (q : ResolvedQuestion) :
    OpensCard (card total maxStars q).markup (card total maxStars q).step.stepId
      (decide (q.position = 1)) := by
  obtain ⟨t, more, hnodes, ht⟩ := shownPage_open (decide (q.position = 1)) q.answer
  obtain ⟨r, rfl⟩ := List.head?_eq_some_iff.1 ht
  have hactive : (if decide (q.position = 1) = true then lines [" active"] else []) =
      activeClass (decide (q.position = 1)) := by
    rw [lines_singleton]
    rfl
  refine ⟨r ++ fill true (stepScope q (Step.ofQuestion q total maxStars) total) more, ?_⟩
  rw [card_markup_eq_shown, hnodes, fill_text, fill_place rfl, fill_text, hactive,
    lines_singleton, lines_singleton, (escape_ids q total maxStars).1]
  simp only [List.append_assoc, List.cons_append]
  rfl

/-! ## The submit control -/

/-- The label of a control that leads to the next card or to the closing one. -/
def labelOf (next : Transition) : String :=
  if next = .thankYou then "SUBMIT FEEDBACK" else "NEXT"

/-- The label is that of the last question when the next card is the closing one. -/
theorem submitLabel_eq {q : ResolvedQuestion} {total : Nat} (hpos : 1 ≤ q.position)
    (htotal : q.position ≤ total) (maxStars : Nat) :
    submitLabel q.position total = labelOf (Step.ofQuestion q total maxStars).next := by
  unfold submitLabel labelOf
  rw [Step.ofQuestion_next]
  refine if_congr ?_ rfl rfl
  unfold Transition.after
  constructor
  · intro hlast
    exact if_neg (by omega)
  · intro hnext
    by_contra hlast
    -- behind a question that is not the last one there is another
    rw [if_pos (by omega)] at hnext
    cases hnext

theorem escape_submitLabel (position total : Nat) :
    escape (submitLabel position total).toList = (submitLabel position total).toList := by
  unfold submitLabel
  split
  · exact Text.Entity.escape_of_isPlain (by decide)
  · exact Text.Entity.escape_of_isPlain (by decide)

/-- A text that neither opens nor closes a tag. -/
def Untagged (s : List Char) : Prop := ∀ c ∈ s, c ≠ '<' ∧ c ≠ '>'

/-- A text of blank characters. -/
def Blanks (s : List Char) : Prop := ∀ c ∈ s, isBlankChar c = true

instance (s : List Char) : Decidable (Untagged s) := List.decidableBAll _ s

instance (s : List Char) : Decidable (Blanks s) := List.decidableBAll _ s

theorem untagged_append {s t : List Char} : Untagged (s ++ t) ↔ Untagged s ∧ Untagged t :=
  List.forall_mem_append

theorem untagged_escape (t : List Char) : Untagged (escape t) := by
  obtain ⟨-, hless, hgreater, -⟩ := not_mem_escape t
  intro c hc
  constructor
  · rintro rfl
    exact hless hc
  · rintro rfl
    exact hgreater hc

/-- An element whose id stands behind so many marks of an id, and whose text is a label between
blanks. -/
def HasControl (markup : List Char) (marks : Nat) (id label : String) : Prop :=
  ∃ front blank attributes before after back,
    markup = front ++ ("<div".toList ++ blank ++ idHead) ++
      '"' :: (id.toList ++ '"' :: (attributes ++ '>' :: (before ++ label.toList ++ after ++
        '<' :: back))) ∧
    hits endsInId [] (front ++ ("<div".toList ++ blank ++ idHead)) = marks ∧
    blank ≠ [] ∧ Blanks (blank ++ before ++ after) ∧ Untagged attributes

/-- A page has the attributes of its submit control around the strings of the question, and its
label between blanks. -/
theorem shownPage_control (chosen : Bool) (answer : Answer) :
    (∃ s blank, (shownPage chosen answer).take (submitPlace answer) =
        (shownPage chosen answer).take (submitPlace answer - 1) ++ [.text s] ∧
      "<div".toList ++ blank ++ idHead ++ ['"'] <:+ s ∧ blank ≠ [] ∧ Blanks blank) ∧
    ∃ first second third fourth last, (shownPage chosen answer).drop (submitPlace answer) =
        [place ["step", "submit_id"], .text first, place ["step", "track_id"], .text second,
          place ["step", "track_name"], .text third, place ["step", "next_step"], .text fourth,
          place ["step", "label"], .text last] ∧
      first.head? = some '"' ∧ '>' ∈ fourth ∧ '<' ∈ last ∧
      Untagged (first ++ second ++ third ++ fourth.takeWhile (· ≠ '>')) ∧
      Blanks ((fourth.dropWhile (· ≠ '>')).tail ++ last.takeWhile (· ≠ '<')) := by
  cases answer with
  | starRating =>
      refine ⟨⟨_, "\n      ".toList, rfl, ?_⟩, _, _, _, _, _, rfl, ?_⟩
      all_goals
        simp (disch := exact rfl) only [lines, List.map_cons, List.map_nil, toList_of_eq_ofList,
          idHead_eq]
        decide +kernel
  | text placeholder =>
      refine ⟨⟨_, "\n          ".toList, rfl, ?_⟩, _, _, _, _, _, rfl, ?_⟩
      all_goals
        simp (disch := exact rfl) only [lines, List.map_cons, List.map_nil, toList_of_eq_ofList,
          idHead_eq]
        decide +kernel

theorem eq_cut {c : Char} {s : List Char} (h : c ∈ s) :
    s = s.takeWhile (· ≠ c) ++ c :: (s.dropWhile (· ≠ c)).tail := by
  obtain ⟨a, b, rfl, ha⟩ := List.eq_append_cons_of_mem h
  have hplain : ∀ x ∈ a, decide (x ≠ c) = true := by
    intro x hx
    rw [decide_eq_true_eq]
    rintro rfl
    exact ha hx
  rw [List.takeWhile_append_of_pos hplain, List.dropWhile_append_of_pos hplain]
  simp

/-- What is filled in from the id of a submit control on. -/
theorem fill_control (q : ResolvedQuestion) (total maxStars : Nat)
    {first second third fourth last : List Char} (hfourth : '>' ∈ fourth) (hlast : '<' ∈ last) :
    fill true (stepScope q (Step.ofQuestion q total maxStars) total)
        [place ["step", "submit_id"], .text ('"' :: first), place ["step", "track_id"],
          .text second, place ["step", "track_name"], .text third, place ["step", "next_step"],
          .text fourth, place ["step", "label"], .text last] =
      (Step.ofQuestion q total maxStars).submitId.toList ++ '"' ::
        ((first ++ escape q.trackId.toList ++ second ++ escape q.trackName.toList ++ third ++
            escape (Step.ofQuestion q total maxStars).next.targetId.toList ++
            fourth.takeWhile (· ≠ '>')) ++
          '>' :: ((fourth.dropWhile (· ≠ '>')).tail ++ (submitLabel q.position total).toList ++
            last.takeWhile (· ≠ '<') ++ '<' :: (last.dropWhile (· ≠ '<')).tail)) := by
  conv_lhs => rw [eq_cut hfourth, eq_cut hlast]
  rw [fill_place rfl, fill_text, fill_place rfl, fill_text, fill_place rfl, fill_text,
    fill_place rfl, fill_text, fill_place rfl, fill_text, (escape_ids q total maxStars).2,
    escape_submitLabel, Template.fill]
  simp only [List.append_assoc, List.cons_append, List.append_nil]

/-- A blank with `id=` behind it makes the mark of an id with the quotation mark that follows. -/
theorem endsInId_lastCut {blank : List Char} (hne : blank ≠ []) (hblank : Blanks blank)
    (front : List Char) : endsInId (lastCut [] (front ++ (blank ++ idHead))) = true := by
  obtain ⟨b, c, rfl⟩ := (List.eq_nil_or_concat' blank).resolve_left hne
  have hc : isBlankChar c = true := hblank c (List.mem_append_right _ List.mem_cons_self)
  have hsuffix : c :: idHead <:+ front ++ (b ++ [c] ++ idHead) := by
    refine ⟨front ++ b, ?_⟩
    simp only [List.append_assoc, List.cons_append, List.nil_append]
  exact endsIn_id.lastCut_eq_true ⟨c, hc, rfl⟩ hsuffix []

/-- **The submit control of a card** bears the id of the step, behind the mark that the placeholder
makes, and its text is the label. -/
theorem card_control (total maxStars : Nat) (q : ResolvedQuestion) :
    HasControl (card total maxStars q).markup (1 + endings endsInId [placeholderOf q.answer])
      (card total maxStars q).step.submitId (submitLabel q.position total) := by
  have hplace := (isPlace_submit_next (decide (q.position = 1)) q.answer).1
  obtain ⟨⟨_, blank, htake, ⟨u, rfl⟩, hne, hblank⟩, first, second, third, fourth, last, hdrop,
    hfirst, hfourth, hlast, huntagged, hblanks⟩ :=
    shownPage_control (decide (q.position = 1)) q.answer
  obtain ⟨first, rfl⟩ := List.head?_eq_some_iff.1 hfirst
  let scope := stepScope q (Step.ofQuestion q total maxStars) total
  let nodes := shownPage (decide (q.position = 1)) q.answer
  let front := fill true scope (nodes.take (submitPlace q.answer - 1)) ++ u
  have hmarkup : (card total maxStars q).markup = front ++ ("<div".toList ++ blank ++ idHead) ++
      '"' :: fill true scope (nodes.drop (submitPlace q.answer)) := by
    rw [card_markup_eq_shown, Template.fill_eq_of_take htake]
    simp only [front, nodes, scope, List.append_assoc, List.cons_append, List.nil_append]
  -- the mark of this id is behind that of the step, and in front of those in the control
  have hmarks : hits endsInId [] (front ++ ("<div".toList ++ blank ++ idHead)) =
      1 + endings endsInId [placeholderOf q.answer] := by
    have hends := endsInId_lastCut hne hblank (front ++ "<div".toList)
    have hrest := hplace.hits_drop endsIn_id (shownPage_values _ q
      (Step.ofQuestion q total maxStars) total)
    have hhits := hits_card_id total maxStars q
    rw [List.append_assoc front, ← List.append_assoc "<div".toList] at hends
    rw [hmarkup, hits_append, hits_quote, if_pos hends, hrest, countP_submit_joints,
      endings_questionTexts] at hhits
    omega
  rw [hdrop, fill_control q total maxStars hfourth hlast] at hmarkup
  refine ⟨front, blank, _, _, _, _, hmarkup, hmarks, hne, ?_, ?_⟩
  · intro c hc
    rw [List.append_assoc] at hc
    exact (List.mem_append.1 hc).elim (hblank c) (hblanks c)
  · simp only [untagged_append] at huntagged ⊢
    obtain ⟨⟨⟨hfirst, hsecond⟩, hthird⟩, hfourth⟩ := huntagged
    have hfirst : Untagged first := (List.forall_mem_cons.1 hfirst).2
    exact ⟨⟨⟨⟨⟨⟨hfirst, untagged_escape _⟩, hsecond⟩, untagged_escape _⟩, hthird⟩,
      untagged_escape _⟩, hfourth⟩

/-! ## Agreement -/

/-- What the markup of a card and its step agree on. A string of the question that ends like a mark
makes the mark once more. -/
structure Agrees (q : ResolvedQuestion) (c : Card) : Prop where
  opening : OpensCard c.markup c.step.stepId (decide (q.position = 1))
  shown : occurrences activeMark c.markup = if q.position = 1 then 1 else 0
  control : HasControl c.markup (1 + endings endsInId [placeholderOf q.answer]) c.step.submitId
    (labelOf c.step.next)
  id_count : (idValues c.markup).length = 2 + endings endsInId (questionTexts q)
  step_id : (idValues c.markup)[0]? = some c.step.stepId.toList
  submit_id : (idValues c.markup)[1 + endings endsInId [placeholderOf q.answer]]? =
    some c.step.submitId.toList
  next_count : (attributeValues nextMark c.markup).length = 1 + endings endsInNext (questionTexts q)
  next : (attributeValues nextMark c.markup)[endings endsInNext (questionTexts q)]? =
    some c.step.next.targetId.toList
  stars : ∀ k, occurrences (starMark k) c.markup =
    (if q.answer = .starRating ∧ 1 ≤ k ∧ k ≤ c.step.maxStars then 1 else 0) +
      endings (endsInStar k) (questionTexts q)

theorem idValues_length (markup : List Char) :
    (idValues markup).length = hits endsInId [] markup := List.length_map _

theorem attributeValues_nextMark_length (markup : List Char) :
    (attributeValues nextMark markup).length = hits endsInNext [] markup := by
  rw [attributeValues_eq_valuesFrom]
  exact List.length_map _

/-- A question without stars has a step without stars. -/
theorem star_numbers_iff (q : ResolvedQuestion) (total maxStars k : Nat) :
    (1 ≤ k ∧ k ≤ (Step.ofQuestion q total maxStars).maxStars) ↔
      q.answer = .starRating ∧ 1 ≤ k ∧ k ≤ (Step.ofQuestion q total maxStars).maxStars := by
  constructor
  · intro h
    refine ⟨?_, h⟩
    cases hanswer : q.answer with
    | starRating => rfl
    | text placeholder =>
        have hzero : (Step.ofQuestion q total maxStars).maxStars = 0 := by
          simp only [Step.ofQuestion, hanswer]
        omega
  · exact And.right

theorem card_agrees {q : ResolvedQuestion} {total : Nat} (hpos : 1 ≤ q.position)
    (htotal : q.position ≤ total) (maxStars : Nat) : Agrees q (card total maxStars q) where
  opening := card_opens total maxStars q
  shown := occurrences_active_card total maxStars q
  control := by
    have hcontrol := card_control total maxStars q
    rw [submitLabel_eq hpos htotal maxStars] at hcontrol
    exact hcontrol
  id_count := (idValues_length _).trans (hits_card_id total maxStars q)
  step_id := idValues_step total maxStars q
  submit_id := idValues_submit total maxStars q
  next_count := (attributeValues_nextMark_length _).trans (hits_card_next total maxStars q)
  next := attributeValues_next total maxStars q
  stars k := by
    rw [occurrences_star]
    exact congrArg (· + _) (if_congr (star_numbers_iff q total maxStars k) rfl rfl)

theorem endings_eq_zero {p : List Char → Bool} {texts : List String}
    (h : ∀ t ∈ texts, p t.toList = false) : endings p texts = 0 := by
  rw [endings, List.countP_eq_zero]
  intro t ht
  rw [h t ht]
  exact Bool.false_ne_true

namespace Agrees

variable {q : ResolvedQuestion} {c : Card} (h : Agrees q c)

include h

/-- Where no string ends like the mark of an id, the ids are those of the step. -/
theorem idValues_eq (hnone : ∀ t ∈ questionTexts q, endsInId t.toList = false) :
    idValues c.markup = [c.step.stepId.toList, c.step.submitId.toList] := by
  have hplaceholder : endings endsInId [placeholderOf q.answer] = 0 :=
    endings_eq_zero fun t ht => hnone t (List.mem_cons.2 (.inl (List.mem_singleton.1 ht)))
  have hlength := h.id_count
  have hsubmit := h.submit_id
  rw [endings_eq_zero hnone] at hlength
  rw [hplaceholder] at hsubmit
  obtain ⟨first, second, heq⟩ := List.length_eq_two.1 hlength
  have hstep := h.step_id
  rw [heq] at hstep hsubmit ⊢
  rw [Option.some.inj hstep, Option.some.inj hsubmit]

/-- Where no string ends like the mark of the next card, its id is that of the step. -/
theorem attributeValues_eq (hnone : ∀ t ∈ questionTexts q, endsInNext t.toList = false) :
    attributeValues nextMark c.markup = [c.step.next.targetId.toList] := by
  have hlength := h.next_count
  have hnext := h.next
  rw [endings_eq_zero hnone] at hlength hnext
  obtain ⟨value, heq⟩ := List.length_eq_one_iff.1 hlength
  rw [heq] at hnext ⊢
  rw [Option.some.inj hnext]

end Agrees

end Pages

open Pages

/-- **The markup of a question and its step agree,** whatever strings the question has, at every
place among any number of questions and with any number of stars. Where no string of the question
ends like a mark, the ids and the next card in the markup are those of the step and no others. -/
theorem markup_agrees_with_step (q : ResolvedQuestion) (total maxStars : Nat)
    (hpos : 1 ≤ q.position) (htotal : q.position ≤ total) :
    ∃ c, Card.of templates total maxStars q = .ok c ∧
      c.step = Step.ofQuestion q total maxStars ∧ Agrees q c ∧
      ((∀ t ∈ questionTexts q, endsInId t.toList = false) →
        idValues c.markup = [c.step.stepId.toList, c.step.submitId.toList]) ∧
      ((∀ t ∈ questionTexts q, endsInNext t.toList = false) →
        attributeValues nextMark c.markup = [c.step.next.targetId.toList]) := by
  have hagrees := card_agrees hpos htotal maxStars
  -- the card is the one that the built-in templates make
  exact ⟨_, card_of total maxStars q, rfl, hagrees, hagrees.idValues_eq,
    hagrees.attributeValues_eq⟩

/-- Strings that look like a tag with an id and like the class of a star, in the second card of
three. -/
theorem markup_agrees_with_step_hostile :
    let q : ResolvedQuestion := ⟨2, "<div id=\"x\">", "starBtn2", "a\" id=\"b", .starRating⟩
    ∃ c, Card.of templates 3 5 q = .ok c ∧
      idValues c.markup = ["question-2".toList, "survey-submit-2".toList] ∧
      attributeValues nextMark c.markup = ["question-3".toList] ∧
      HasControl c.markup 1 "survey-submit-2" "NEXT" ∧
      occurrences (starMark 2) c.markup = 2 ∧ occurrences (starMark 5) c.markup = 1 ∧
      occurrences (starMark 6) c.markup = 0 ∧ occurrences activeMark c.markup = 0 := by
  intro q
  obtain ⟨c, hc, hstep, hagrees, hids, hnext⟩ :=
    markup_agrees_with_step q 3 5 (by decide) (by decide)
  have hstars := hagrees.stars
  have hcontrol := hagrees.control
  have hstepId : (Step.ofQuestion q 3 5).stepId = "question-2" := by decide +kernel
  have hsubmitId : (Step.ofQuestion q 3 5).submitId = "survey-submit-2" := by decide +kernel
  have htarget : (Step.ofQuestion q 3 5).next.targetId = "question-3" := by decide +kernel
  rw [hstep] at hids hnext hstars hcontrol
  rw [hstepId, hsubmitId] at hids
  rw [htarget] at hnext
  rw [hsubmitId] at hcontrol
  refine ⟨c, hc, hids (by decide +kernel), hnext (by decide +kernel), hcontrol, ?_, ?_, ?_,
    hagrees.shown⟩
  · rw [hstars]
    decide +kernel
  · rw [hstars]
    decide +kernel
  · rw [hstars]
    decide +kernel

/-- Strings that end like the marks make each of them once more, and a star where there is none. -/
theorem marks_behind_strings :
    let q : ResolvedQuestion := ⟨1, "Why?", "a id=", "data-next-step=", .text "starBtn3"⟩
    ∃ c, Card.of templates 1 5 q = .ok c ∧ 1 ≤ q.position ∧ q.position ≤ 1 ∧
      (idValues c.markup).length = 3 ∧ (attributeValues nextMark c.markup).length = 2 ∧
      occurrences (starMark 3) c.markup = 1 := by
  intro q
  have hagrees : Agrees q (card 1 5 q) := card_agrees (by decide) (by decide) 5
  refine ⟨_, card_of 1 5 q, by decide, by decide, ?_, ?_, ?_⟩
  · rw [hagrees.id_count]
    decide +kernel
  · rw [hagrees.next_count]
    decide +kernel
  · rw [hagrees.stars]
    decide +kernel

end VideoSurvey.Overlay
