import VideoSurvey.Proofs.Overlay.Fragments

/-!
# The fragment that is shown at first

One fragment of a document is marked as active: the card of the first question, or the closing card
when there are no questions. The mark has a quotation mark inside, and a value can end like its
front; but the texts of the pages guard their values against it, so that the mark is in the text of
one fragment and nowhere else (`occurrences_active_documentText`).
-/

set_option autoImplicit false

namespace VideoSurvey.Overlay.Pages

open Survey (Definition Resolved ResolvedQuestion ThankYou)
open Template (Scope Path fill places stretches values guards decided conditions outerTexts
  innerTexts lines)
open Text (Clear occurrences quotedMark toList_of_eq_ofList)
open Text.Entity (not_mem_escape)

/-- What is in the fragment that is shown at first, in front of the kind of its step. -/
def activeMark : List Char := " active\" data-step-kind=\"".toList

/-- The mark in front of its first quotation mark. -/
def activeFront : List Char := " active".toList

/-- The mark behind its first quotation mark. -/
def activeRest : List Char := " data-step-kind=\"".toList

theorem activeFront_eq : activeFront = [' ', 'a', 'c', 't', 'i', 'v', 'e'] :=
  toList_of_eq_ofList rfl

theorem activeRest_eq : activeRest =
    [' ', 'd', 'a', 't', 'a', '-', 's', 't', 'e', 'p', '-', 'k', 'i', 'n', 'd', '=', '"'] :=
  toList_of_eq_ofList rfl

theorem activeMark_eq : activeMark = quotedMark activeFront activeRest := by
  rw [activeFront_eq, activeRest_eq]
  exact toList_of_eq_ofList rfl

/-- Whatever is chosen, the page of a fragment guards its values, and it has the mark when the
choice is to show it. -/
theorem decided_page {part : Part} (hdocument : part ≠ .document) (hstyle : part ≠ .stylesheet)
    (chosen : Bool) :
    guards activeFront activeRest (decided chosen (page part)) = true ∧
      (∀ s ∈ innerTexts (decided chosen (page part)),
        occurrences (quotedMark activeFront activeRest) s = 0) ∧
      ((outerTexts (decided chosen (page part))).map
        (occurrences (quotedMark activeFront activeRest))).sum = if chosen then 1 else 0 := by
  cases part with
  | document => exact absurd rfl hdocument
  | stylesheet => exact absurd rfl hstyle
  | starStep =>
      simp (disch := exact rfl) only [page, starStep, lines, List.map_cons, List.map_nil,
        toList_of_eq_ofList, activeFront_eq, activeRest_eq]
      cases chosen <;> decide +kernel
  | textStep =>
      simp (disch := exact rfl) only [page, textStep, lines, List.map_cons, List.map_nil,
        toList_of_eq_ofList, activeFront_eq, activeRest_eq]
      cases chosen <;> decide +kernel
  | thankYou =>
      simp (disch := exact rfl) only [page, thankYou, lines, List.map_cons, List.map_nil,
        toList_of_eq_ofList, activeFront_eq, activeRest_eq]
      cases chosen <;> decide +kernel

theorem document_guards :
    (guards activeFront activeRest (document.take 17) = true ∧
        (∀ s ∈ innerTexts (document.take 17),
          occurrences (quotedMark activeFront activeRest) s = 0) ∧
        ((outerTexts (document.take 17)).map
          (occurrences (quotedMark activeFront activeRest))).sum = 0) ∧
      (guards activeFront activeRest (document.drop 22) = true ∧
        (∀ s ∈ innerTexts (document.drop 22),
          occurrences (quotedMark activeFront activeRest) s = 0) ∧
        ((outerTexts (document.drop 22)).map
          (occurrences (quotedMark activeFront activeRest))).sum = 0) ∧
      Clear (quotedMark activeFront activeRest) bridge ∧
        occurrences (quotedMark activeFront activeRest) bridge = 0 := by
  simp (disch := exact rfl) only [document, bridge, List.take_succ_cons, List.take_zero,
    List.drop_succ_cons, List.drop_zero, lines, List.map_cons, List.map_nil, toList_of_eq_ofList,
    activeFront_eq, activeRest_eq]
  decide +kernel

set_option maxRecDepth 100000 in
theorem script_inactive : occurrences (quotedMark activeFront activeRest) script = 0 := by
  simp (disch := exact rfl) only [script, scriptLines, lines, List.map_cons, List.map_nil,
    toList_of_eq_ofList, activeFront_eq, activeRest_eq]
  decide +kernel

/-! ## One fragment -/

/-- A page with harmless values has the mark when its choice is to show it. -/
theorem occurrences_active_page {part : Part} (hdocument : part ≠ .document)
    (hstyle : part ≠ .stylesheet) {scope : Scope} {chosen : Bool}
    (hchosen : ∀ path ∈ conditions (page part),
      (Template.lookup? scope path).any Template.isTruthy = chosen)
    (hharmless : ∀ v ∈ places (stretches true scope (page part)), Harmless v.1) :
    occurrences activeMark (fill true scope (page part)) = if chosen then 1 else 0 := by
  obtain ⟨hguards, hinner, houter⟩ := decided_page hdocument hstyle chosen
  have hvalues : ∀ v ∈ values (stretches true scope (decided chosen (page part))), '"' ∉ v := by
    rw [Template.values_decided, Template.values_eq_places, List.forall_mem_map]
    intro v hv
    exact (hharmless v hv).no_markup.2
  rw [activeMark_eq, ← Template.fill_decided hchosen,
    Template.occurrences_fill_of_guards hguards hinner hvalues, houter]

/-- The only choice in a card is whether it is shown at first. -/
theorem card_chosen (total maxStars : Nat) (q : ResolvedQuestion) :
    ∀ path ∈ conditions (page (partOf q.answer)),
      (Template.lookup? (stepScope q (Step.ofQuestion q total maxStars) total) path).any
        Template.isTruthy = decide (q.position = 1) := by
  have hconditions : conditions (page (partOf q.answer)) = [["step", "active"]] := by
    cases q.answer with
    | starRating => rfl
    | text placeholder => rfl
  rw [hconditions, List.forall_mem_singleton]
  rfl

theorem occurrences_active_card (total maxStars : Nat) (q : ResolvedQuestion) :
    occurrences activeMark (card total maxStars q).markup = if q.position = 1 then 1 else 0 := by
  obtain ⟨hdocument, hstyle⟩ := partOf_ne q.answer
  unfold card
  rw [occurrences_active_page hdocument hstyle (card_chosen total maxStars q)
    (card_harmless q _ total)]
  exact if_congr decide_eq_true_iff rfl rfl

theorem occurrences_active_thankYou (survey : Resolved) :
    occurrences activeMark (thankYouText survey) =
      if Transition.initial (stepsOf survey).length = .thankYou then 1 else 0 := by
  let isInitial : Bool := Transition.initial (stepsOf survey).length = .thankYou
  have hchosen : ∀ path ∈ conditions (page .thankYou),
      (Template.lookup? (thankYouScope survey.thankYou isInitial) path).any
        Template.isTruthy = isInitial := by
    rw [show conditions (page .thankYou) = [["thank_you", "active"]] from rfl,
      List.forall_mem_singleton]
    rfl
  have hpage := occurrences_active_page (show Part.thankYou ≠ .document by decide) (by decide)
    hchosen (thankYou_harmless survey.thankYou isInitial)
  exact hpage.trans (if_congr decide_eq_true_iff rfl rfl)

/-- **A fragment has the mark when its id is that of the first fragment to show.** -/
theorem occurrences_active_fragment (survey : Resolved) : ∀ f ∈ fragments survey,
    occurrences activeMark f.2 =
      if f.1 = (Transition.initial (stepsOf survey).length).targetId then 1 else 0 := by
  unfold fragments
  rw [List.forall_mem_append, List.forall_mem_map, List.forall_mem_singleton]
  refine ⟨?_, ?_⟩
  · intro q hq
    have hinitial : Transition.initial (stepsOf survey).length = .step 0 (stepId 1) := by
      have hpos := List.length_pos_of_mem hq
      rw [stepsOf_length]
      exact if_neg (Nat.ne_of_gt hpos)
    have hid : (card survey.questions.length survey.maxStars q).step.stepId = stepId q.position :=
      (Step.ofQuestion_ids q _ _).1
    rw [occurrences_active_card, hinitial]
    -- ids are told apart by their numbers
    refine if_congr ?_ rfl rfl
    show q.position = 1 ↔ (card survey.questions.length survey.maxStars q).step.stepId = stepId 1
    rw [hid]
    constructor
    · intro hposition
      rw [hposition]
    · exact numbered_inj
  · rw [occurrences_active_thankYou]
    refine if_congr ?_ rfl rfl
    constructor
    · intro hinitial
      rw [hinitial]
      rfl
    · intro hid
      unfold Transition.initial at hid ⊢
      by_cases hlength : (stepsOf survey).length = 0
      · exact if_pos hlength
      · rw [if_neg hlength] at hid
        exact absurd hid.symm (front_ne_thankYouStepId List.mem_cons_self _)

/-! ## The document -/

/-- The first fragment to show is one of the fragments. -/
theorem initial_mem_ids {d : Definition} {survey : Resolved} (h : d.resolve = .ok survey) :
    (Transition.initial (stepsOf survey).length).targetId ∈ (fragments survey).map Prod.fst := by
  rw [fragments_ids, List.mem_append, List.mem_singleton]
  unfold Transition.initial
  by_cases hlength : (stepsOf survey).length = 0
  · rw [if_pos hlength]
    exact .inr rfl
  · rw [if_neg hlength]
    have hpos : 0 < (stepsOf survey).length := Nat.pos_of_ne_zero hlength
    refine .inl (List.mem_map.2 ⟨(stepsOf survey)[0], List.getElem_mem hpos, ?_⟩)
    exact stepsOf_stepId h hpos

theorem sum_ite_eq_count (ids : List String) (id : String) :
    (ids.map fun other => if other = id then 1 else 0).sum = ids.count id := by
  induction ids with
  | nil => rfl
  | cons other ids ih =>
      rw [List.map_cons, List.sum_cons, ih, List.count_cons, Nat.add_comm]
      simp only [beq_iff_eq]

/-- **The mark of the fragment that is shown at first is in the document once.** -/
theorem occurrences_active_documentText {d : Definition} {survey : Resolved}
    (h : d.resolve = .ok survey) {settings : Settings}
    (hquote : NoQuote survey.theme settings.zIndex) :
    occurrences activeMark (documentText survey settings) = 1 := by
  obtain ⟨⟨hhead, hheadInner, hheadOuter⟩, ⟨hfoot, hfootInner, hfootOuter⟩, hclear, hbridge⟩ :=
    document_guards
  have hbreak : '\n' ∉ activeMark := by
    rw [activeMark_eq, activeFront_eq, activeRest_eq]
    decide
  have hne : activeMark ≠ [] := by
    rw [activeMark_eq, activeFront_eq]
    rintro ⟨⟩
  have hheadText : occurrences activeMark (headText survey settings) = 0 := by
    rw [activeMark_eq]
    refine (Template.occurrences_fill_of_guards hhead hheadInner ?_).trans hheadOuter
    rw [Template.values_eq_places, headText_places]
    simp [headPlaces, not_mem_escape, no_quote_stylesheet hquote]
  have hfootText : occurrences activeMark (footText survey settings) = 0 := by
    rw [activeMark_eq]
    refine (Template.occurrences_fill_of_guards hfoot hfootInner ?_).trans hfootOuter
    rw [Template.values_eq_places, footText_places]
    simp [not_mem_escape]
  -- the first fragment to show is there, and no other has its id
  have hfragments : ((fragments survey).map fun f => occurrences activeMark f.2).sum = 1 := by
    rw [List.map_congr_left (occurrences_active_fragment survey)]
    have hcount := sum_ite_eq_count ((fragments survey).map Prod.fst)
      (Transition.initial (stepsOf survey).length).targetId
    rw [List.map_map, List.count_eq_one_of_mem (fragments_nodup h) (initial_mem_ids h)] at hcount
    exact hcount
  rw [← activeMark_eq] at hclear hbridge
  rw [occurrences_documentText_fragments survey settings hbreak hne hclear hbridge
    (activeMark_eq ▸ script_inactive), hheadText, hfragments, hfootText]

/-- A document shows one of its fragments at first: its fragments stand in it in order, each an
element with an id of its own, and the mark is in it once, in the fragment with that id. -/
structure ShowsFirst (survey : Resolved) (initial : String) (html : List Char) : Prop where
  parts : ∃ front back, html = front ++ ((fragments survey).flatMap fun f => '\n' :: f.2) ++ back
  opening : ∀ f ∈ fragments survey, ∃ r, f.2 = "<div id=\"".toList ++ (f.1.toList ++ '"' :: r)
  ids : ((fragments survey).map Prod.fst).Nodup
  initial_mem : initial ∈ (fragments survey).map Prod.fst
  inside : ∀ f ∈ fragments survey, occurrences activeMark f.2 = if f.1 = initial then 1 else 0
  once : occurrences activeMark html = 1

theorem documentText_showsFirst {d : Definition} {survey : Resolved} (h : d.resolve = .ok survey)
    {settings : Settings} (hquote : NoQuote survey.theme settings.zIndex) :
    ShowsFirst survey (Transition.initial (stepsOf survey).length).targetId
      (documentText survey settings) where
  parts := ⟨_, _, documentText_eq_fragments survey settings⟩
  opening := fragments_open survey
  ids := fragments_nodup h
  initial_mem := initial_mem_ids h
  inside := occurrences_active_fragment survey
  once := occurrences_active_documentText h hquote

end VideoSurvey.Overlay.Pages
