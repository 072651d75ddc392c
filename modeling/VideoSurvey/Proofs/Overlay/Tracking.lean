import VideoSurvey.Proofs.Overlay.Activity

/-!
# Tracking ids in the document

The card of a question holds the question's tracking id in an attribute. A text in another attribute
that ends with the attribute's name and an equals sign makes its mark again, as with the attributes
that hold the data; the tracking ids are the values behind the other marks, in the order of the
questions (`documentText_tracks`).
-/

set_option autoImplicit false

namespace VideoSurvey.Overlay

open Survey (Definition Resolved ResolvedQuestion ThankYou)
open Template (Scope places stretches fill allTexts innerTexts outerTexts lines)
open Text (Clear occurrences toList_of_eq_ofList)
open Text.Entity (escape not_mem_escape)

namespace Pages

/-! ## The mark -/

/-- The name of the attribute with the tracking id and the equals sign behind it. -/
def trackHead : List Char := "data-track-id=".toList

/-- What stands in front of a tracking id. -/
def trackMark : List Char := trackHead ++ ['"']

/-- How many of some texts make the mark when a quotation mark follows them. -/
def trackEndings (texts : List String) : Nat := (texts.map fun t => ending trackHead t.toList).sum

theorem trackHead_eq : trackHead =
    ['d', 'a', 't', 'a', '-', 't', 'r', 'a', 'c', 'k', '-', 'i', 'd', '='] :=
  toList_of_eq_ofList rfl

theorem trackHead_isHead : IsHead trackHead := by
  rw [trackHead_eq]
  refine ⟨by decide, by decide, ?_, by decide⟩
  simp only [List.forall_mem_cons, List.not_mem_nil, IsEmpty.forall_iff, implies_true]
  decide

theorem length_trackMark : 2 ≤ trackMark.length := trackHead_isHead.length_mark

theorem trackMark_ne_nil : trackMark ≠ [] := IsHead.mark_ne_nil

theorem trackMark_apart {v : List Char × List Char} (h : Closed v) :
    Clear trackMark v.1 ∨ ∃ c, v.2 = [c] ∧ c ∉ trackMark.dropLast := trackHead_isHead.apart h

/-- A value in quotation marks makes the mark when it ends like it. -/
theorem occurrences_track_quoted (t : List Char) :
    occurrences trackMark (escape t ++ ['"']) = ending trackHead t :=
  trackHead_isHead.occurrences_escape_quoted t

theorem trackEndings_append (texts more : List String) :
    trackEndings (texts ++ more) = trackEndings texts + trackEndings more := by
  unfold trackEndings
  rw [List.map_append, List.sum_append]

/-! ## The texts of the pages -/

/-- The page of a question has the mark once, and the closing page does not have it. -/
theorem track_page {part : Part} (hdocument : part ≠ .document) (hstyle : part ≠ .stylesheet) :
    (∀ s ∈ allTexts (page part), Clear trackMark s) ∧
      (∀ s ∈ innerTexts (page part), occurrences trackMark s = 0) ∧
      ((outerTexts (page part)).map (occurrences trackMark)).sum =
        if part = .thankYou then 0 else 1 := by
  cases part with
  | document => exact absurd rfl hdocument
  | stylesheet => exact absurd rfl hstyle
  | starStep =>
      simp (disch := exact rfl) only [page, starStep, lines, List.map_cons, List.map_nil,
        toList_of_eq_ofList, trackMark, trackHead_eq]
      decide +kernel
  | textStep =>
      simp (disch := exact rfl) only [page, textStep, lines, List.map_cons, List.map_nil,
        toList_of_eq_ofList, trackMark, trackHead_eq]
      decide +kernel
  | thankYou =>
      simp (disch := exact rfl) only [page, thankYou, lines, List.map_cons, List.map_nil,
        toList_of_eq_ofList, trackMark, trackHead_eq]
      decide +kernel

theorem track_document :
    ((∀ s ∈ allTexts (document.take 17), Clear trackMark s) ∧
        (∀ s ∈ innerTexts (document.take 17), occurrences trackMark s = 0) ∧
        ((outerTexts (document.take 17)).map (occurrences trackMark)).sum = 0) ∧
      ((∀ s ∈ allTexts (document.drop 22), Clear trackMark s) ∧
        (∀ s ∈ innerTexts (document.drop 22), occurrences trackMark s = 0) ∧
        ((outerTexts (document.drop 22)).map (occurrences trackMark)).sum = 0) ∧
      Clear trackMark bridge ∧ occurrences trackMark bridge = 0 := by
  simp (disch := exact rfl) only [document, bridge, List.take_succ_cons, List.take_zero,
    List.drop_succ_cons, List.drop_zero, lines, List.map_cons, List.map_nil, toList_of_eq_ofList,
    trackMark, trackHead_eq]
  decide +kernel

set_option maxRecDepth 100000 in
theorem script_untracked : occurrences trackMark script = 0 := by
  simp (disch := exact rfl) only [script, scriptLines, lines, List.map_cons, List.map_nil,
    toList_of_eq_ofList, trackMark, trackHead_eq]
  decide +kernel

/-! ## In front of a tracking id -/

/-- How many parts of a card stand in front of the tracking id. -/
def trackFront : Survey.Answer → Nat
  | .starRating => 17
  | .text _ => 15

/-- The parts in front of it end with the mark, and those from it on do not have it. -/
theorem track_front (answer : Survey.Answer) :
    (∃ s, (page (partOf answer)).take (trackFront answer) =
        (page (partOf answer)).take (trackFront answer - 1) ++ [.text s] ∧ trackMark <:+ s) ∧
      (∀ s ∈ allTexts ((page (partOf answer)).drop (trackFront answer)), Clear trackMark s) ∧
      (∀ s ∈ innerTexts ((page (partOf answer)).drop (trackFront answer)),
        occurrences trackMark s = 0) ∧
      ((outerTexts ((page (partOf answer)).drop (trackFront answer))).map
        (occurrences trackMark)).sum = 0 := by
  cases answer with
  | starRating =>
      refine ⟨⟨_, rfl, ?_⟩, ?_⟩
      all_goals
        simp (disch := exact rfl) only [partOf, page, starStep, trackFront, List.drop_succ_cons,
          List.drop_zero, lines, List.map_cons, List.map_nil, toList_of_eq_ofList, trackMark,
          trackHead_eq]
        decide +kernel
  | text placeholder =>
      refine ⟨⟨_, rfl, ?_⟩, ?_⟩
      all_goals
        simp (disch := exact rfl) only [partOf, page, textStep, trackFront, List.drop_succ_cons,
          List.drop_zero, lines, List.map_cons, List.map_nil, toList_of_eq_ofList, trackMark,
          trackHead_eq]
        decide +kernel

section Card

variable (total maxStars : Nat) (q : ResolvedQuestion)

/-- The values of a card from the tracking id on. -/
theorem track_behind_places (step : Step) :
    places (stretches true (stepScope q step total)
        ((page (partOf q.answer)).drop (trackFront q.answer))) =
      [(escape q.trackId.toList, ['"']), (escape q.trackName.toList, ['"']),
        (escape step.next.targetId.toList, ['"']),
        (escape (submitLabel q.position total).toList, ['\n'])] := by
  cases q.answer with
  | starRating =>
      simp (disch := exact rfl) only [partOf, page, starStep, trackFront, List.drop_succ_cons,
        List.drop_zero, place, Template.stretches_text, Template.stretches_emit,
        Template.stretches_nil, places, Template.opening_lines, Template.opening_lines_empty]
      rfl
  | text placeholder =>
      simp (disch := exact rfl) only [partOf, page, textStep, trackFront, List.drop_succ_cons,
        List.drop_zero, place, Template.stretches_text, Template.stretches_emit,
        Template.stretches_nil, places, Template.opening_lines, Template.opening_lines_empty]
      rfl

/-- A card up to the tracking id. -/
def cardFront : List Char :=
  fill true (stepScope q (Step.ofQuestion q total maxStars) total)
    ((page (partOf q.answer)).take (trackFront q.answer))

/-- A card from the tracking id on. -/
def cardBack : List Char :=
  fill true (stepScope q (Step.ofQuestion q total maxStars) total)
    ((page (partOf q.answer)).drop (trackFront q.answer))

theorem card_markup_eq : (card total maxStars q).markup =
    cardFront total maxStars q ++ cardBack total maxStars q := by
  unfold cardFront cardBack
  rw [← Template.fill_append, List.take_append_drop]
  rfl

theorem mark_suffix_cardFront : trackMark <:+ cardFront total maxStars q := by
  obtain ⟨⟨s, hs, hmark⟩, -⟩ := track_front q.answer
  unfold cardFront
  rw [hs, Template.fill_append, fill, fill, List.append_nil]
  exact hmark.trans (List.suffix_append _ s)

theorem cardBack_eq : ∃ r, cardBack total maxStars q = escape q.trackId.toList ++ '"' :: r := by
  have hshape : ∃ s l r more, s = String.ofList ('"' :: l) ∧
      (page (partOf q.answer)).drop (trackFront q.answer) =
        place ["step", "track_id"] :: .text (lines (s :: r)) :: more := by
    cases q.answer with
    | starRating => exact ⟨"\"", [], _, _, rfl, rfl⟩
    | text placeholder => exact ⟨"\"", [], _, _, rfl, rfl⟩
  obtain ⟨s, l, r, more, hs, hmore⟩ := hshape
  obtain ⟨t, ht⟩ := Template.lines_eq_cons hs r
  unfold cardBack
  rw [hmore, ht, fill, fill]
  exact ⟨_, rfl⟩

/-! ## Occurrences -/

/-- A card has the mark once, and once more for each of its texts that ends like it. -/
theorem occurrences_track_card :
    occurrences trackMark (card total maxStars q).markup = 1 + trackEndings (questionTexts q) := by
  obtain ⟨hdocument, hstyle⟩ := partOf_ne q.answer
  obtain ⟨htexts, hinner, hown⟩ := track_page hdocument hstyle
  have hthankYou : partOf q.answer ≠ .thankYou := by
    cases q.answer with
    | starRating => decide
    | text placeholder => rintro ⟨⟩
  rw [if_neg hthankYou] at hown
  unfold card
  rw [Template.occurrences_fill length_trackMark htexts hinner
    fun v hv => trackMark_apart (card_closed q _ total v hv), hown]
  exact congrArg (1 + ·) (occurrences_card_places trackHead_isHead q total maxStars)

theorem occurrences_cardBack : occurrences trackMark (cardBack total maxStars q) =
    trackEndings [q.trackId, q.trackName] := by
  obtain ⟨-, hclear, hinner, hown⟩ := track_front q.answer
  obtain ⟨-, -, htarget⟩ := Step.no_equals q total maxStars
  have hplaces := track_behind_places total q (Step.ofQuestion q total maxStars)
  -- ids of fragments have no equals sign, and the label stands in no attribute
  have hnext : ending trackHead (Step.ofQuestion q total maxStars).next.targetId.toList = 0 :=
    trackHead_isHead.ending_of_no_equals htarget
  have hlabel : occurrences trackMark (escape (submitLabel q.position total).toList ++ ['\n']) =
      0 := trackHead_isHead.occurrences_escape_unquoted _ rfl (by decide)
  unfold cardBack
  rw [Template.occurrences_fill length_trackMark hclear hinner, hown, hplaces]
  · simp only [List.map_cons, List.map_nil, List.sum_cons, List.sum_nil, trackEndings,
      occurrences_track_quoted, hnext, hlabel]
    omega
  · rw [hplaces]
    intro v hv
    apply trackMark_apart
    revert v hv
    simp [closed_of, isClosing]

/-- Only a placeholder stands in an attribute in front of the tracking id. -/
theorem occurrences_cardFront : occurrences trackMark (cardFront total maxStars q) =
    1 + trackEndings [placeholderOf q.answer] := by
  have hclear : Clear trackMark (cardFront total maxStars q) :=
    trackHead_isHead.clear_of_suffix (mark_suffix_cardFront total maxStars q)
  -- what the whole card has, less what is behind the tracking id
  have hcard := occurrences_track_card total maxStars q
  rw [card_markup_eq, Text.occurrences_append hclear, occurrences_cardBack] at hcard
  unfold questionTexts at hcard
  rw [show [placeholderOf q.answer, q.trackId, q.trackName] =
    [placeholderOf q.answer] ++ [q.trackId, q.trackName] from rfl, trackEndings_append] at hcard
  omega

/-- A card that says thank you has no tracking id, and none of its values is in an attribute. -/
theorem occurrences_track_thankYou (survey : Resolved) :
    occurrences trackMark (thankYouText survey) = 0 := by
  obtain ⟨htexts, hinner, hown⟩ :=
    track_page (show Part.thankYou ≠ .document by decide) (by decide)
  let isInitial : Bool := Transition.initial (stepsOf survey).length = .thankYou
  have hfill := Template.occurrences_fill length_trackMark htexts hinner
    fun v hv => trackMark_apart (thankYou_closed survey.thankYou isInitial v hv)
  rw [hown] at hfill
  exact hfill.trans (congrArg (0 + ·) (occurrences_thankYou_places trackHead_isHead _ _))

end Card

/-! ## The document -/

section Document

variable (survey : Resolved) (settings : Settings)

theorem occurrences_track_head (h : NoQuote survey.theme settings.zIndex) :
    occurrences trackMark (headText survey settings) =
      trackEndings (textsAhead survey settings) := by
  obtain ⟨⟨hclear, hinner, hown⟩, -⟩ := track_document
  have hclosed : ∀ v ∈ places (stretches true (scopeOf survey settings) (document.take 17)),
      Closed v := by
    rw [headText_places]
    simp [headPlaces, closed_of, isClosing]
  unfold headText
  rw [Template.occurrences_fill length_trackMark hclear hinner
    fun v hv => trackMark_apart (hclosed v hv), hown, headText_places, Nat.zero_add]
  exact sum_headPlaces trackHead_isHead survey settings h

theorem occurrences_track_foot : occurrences trackMark (footText survey settings) =
    trackEndings [settings.playerScriptUrl] := by
  obtain ⟨-, ⟨hclear, hinner, hown⟩, -⟩ := track_document
  unfold footText
  rw [Template.occurrences_fill length_trackMark hclear hinner, hown, footText_places]
  · simp only [List.map_cons, List.map_nil, List.sum_cons, List.sum_nil, trackEndings,
      occurrences_track_quoted]
    omega
  · rw [footText_places, List.forall_mem_singleton]
    exact trackMark_apart (closed_of _ rfl)

/-- Several cards have the mark once each, and once more for each of their texts that ends like
it. -/
theorem occurrences_track_cards (total maxStars : Nat) (questions : List ResolvedQuestion) :
    (questions.map fun q => occurrences trackMark (card total maxStars q).markup).sum =
      questions.length + trackEndings (questions.flatMap questionTexts) := by
  induction questions with
  | nil => rfl
  | cons q questions ih =>
      rw [List.map_cons, List.sum_cons, ih, occurrences_track_card, List.length_cons,
        List.flatMap_cons, trackEndings_append]
      omega

theorem break_not_mem_trackMark : '\n' ∉ trackMark :=
  trackHead_isHead.not_mem_mark rfl (by decide)

/-- **The mark of a tracking id in the document**: one for each question, and one for each text in
an attribute that ends like it. -/
theorem occurrences_track_documentText (h : NoQuote survey.theme settings.zIndex) :
    occurrences trackMark (documentText survey settings) =
      survey.questions.length +
        trackEndings (textsAhead survey settings ++ textsBehind survey settings) := by
  obtain ⟨-, -, hclear, hbridge⟩ := track_document
  have hcards := occurrences_track_cards survey.questions.length survey.maxStars survey.questions
  have hfragments : ((fragments survey).map fun f => occurrences trackMark f.2).sum =
      survey.questions.length + trackEndings (survey.questions.flatMap questionTexts) := by
    unfold fragments
    rw [List.map_append, List.sum_append, List.map_map, List.map_singleton, List.sum_singleton,
      occurrences_track_thankYou]
    exact hcards
  rw [occurrences_documentText_fragments survey settings break_not_mem_trackMark trackMark_ne_nil
    hclear hbridge script_untracked, occurrences_track_head survey settings h, hfragments,
    occurrences_track_foot]
  unfold textsBehind
  rw [trackEndings_append, trackEndings_append]
  omega

/-- The document up to a question's tracking id, with the questions in front of that one. -/
def trackFrontText (ahead : List ResolvedQuestion) (q : ResolvedQuestion) : List Char :=
  let markup := fun q => (card survey.questions.length survey.maxStars q).markup
  headText survey settings ++
    ((ahead.map markup).flatMap ('\n' :: ·) ++
      '\n' :: cardFront survey.questions.length survey.maxStars q)

theorem documentText_eq_track {ahead behind : List ResolvedQuestion} {q : ResolvedQuestion}
    (h : survey.questions = ahead ++ q :: behind) :
    ∃ r, documentText survey settings =
      trackFrontText survey settings ahead q ++ (escape q.trackId.toList ++ '"' :: r) := by
  obtain ⟨r, hr⟩ := cardBack_eq survey.questions.length survey.maxStars q
  have hmarkup := card_markup_eq survey.questions.length survey.maxStars q
  rw [hr] at hmarkup
  have hfragments : ∃ rest, (fragments survey).flatMap (fun f => '\n' :: f.2) =
      (ahead.map fun q => (card survey.questions.length survey.maxStars q).markup).flatMap
          ('\n' :: ·) ++
        ('\n' :: (card survey.questions.length survey.maxStars q).markup ++ rest) := by
    unfold fragments
    generalize survey.questions.length = total
    rw [h, List.map_append, List.flatMap_append, List.flatMap_append, List.map_cons,
      List.flatMap_cons, List.append_assoc, List.append_assoc]
    simp only [List.flatMap_map]
    exact ⟨_, rfl⟩
  obtain ⟨rest, hrest⟩ := hfragments
  rw [documentText_eq_fragments, hrest, hmarkup]
  unfold trackFrontText
  simp only [List.append_assoc, List.cons_append]
  exact ⟨_, rfl⟩

theorem mark_suffix_trackFrontText (ahead : List ResolvedQuestion) (q : ResolvedQuestion) :
    trackMark <:+ trackFrontText survey settings ahead q := by
  refine (mark_suffix_cardFront survey.questions.length survey.maxStars q).trans ?_
  exact ((List.suffix_cons _ _).trans (List.suffix_append _ _)).trans (List.suffix_append _ _)

/-- The marks up to a question's tracking id: its own, those of the questions ahead, and those that
the texts ahead make. -/
theorem occurrences_trackFrontText (ahead : List ResolvedQuestion) (q : ResolvedQuestion)
    (h : NoQuote survey.theme settings.zIndex) :
    occurrences trackMark (trackFrontText survey settings ahead q) =
      ahead.length + 1 + trackEndings (textsAhead survey settings ++
        ahead.flatMap questionTexts ++ [placeholderOf q.answer]) := by
  have hcards := occurrences_track_cards survey.questions.length survey.maxStars ahead
  unfold trackFrontText
  rw [Text.occurrences_flatMap_cons break_not_mem_trackMark trackMark_ne_nil,
    occurrences_track_head survey settings h, occurrences_cardFront, List.map_map,
    trackEndings_append, trackEndings_append]
  simp only [Function.comp_def]
  rw [hcards]
  omega

end Document

/-- A document holds the tracking ids of a survey in their order. The attribute's mark is in it once
for each question, and once more for each text in an attribute that ends with the name and an equals
sign; and the tracking id of a question is the value behind the marks of the questions ahead and
those that the texts ahead make. -/
structure Tracks (survey : Resolved) (settings : Settings) (html : List Char) : Prop where
  count : (attributeValues trackMark html).length = survey.questions.length +
    trackEndings (textsAhead survey settings ++ textsBehind survey settings)
  value : ∀ (i : Nat) (q : ResolvedQuestion), survey.questions[i]? = some q →
    (attributeValues trackMark html)[i + trackEndings (textsAhead survey settings ++
      (survey.questions.take i).flatMap questionTexts ++ [placeholderOf q.answer])]? =
        some q.trackId.toList

/-- **A document holds the tracking ids of its survey.** -/
theorem documentText_tracks {survey : Resolved} {settings : Settings}
    (h : NoQuote survey.theme settings.zIndex) :
    Tracks survey settings (documentText survey settings) where
  count := by
    unfold attributeValues
    rw [List.length_map]
    exact occurrences_track_documentText survey settings h
  value := by
    intro i q hq
    obtain ⟨hi, rfl⟩ := List.getElem?_eq_some_iff.1 hq
    have hsplit : survey.questions = survey.questions.take i ++
        survey.questions[i] :: survey.questions.drop (i + 1) := by
      rw [← List.drop_eq_getElem_cons hi, List.take_append_drop]
    obtain ⟨r, hr⟩ := documentText_eq_track survey settings hsplit
    have hsuffix := mark_suffix_trackFrontText survey settings (survey.questions.take i)
      survey.questions[i]
    -- the text in front ends with the mark, so the value behind it is the tracking id
    have hclear : Clear trackMark (trackFrontText survey settings (survey.questions.take i)
        survey.questions[i]) := trackHead_isHead.clear_of_suffix hsuffix
    have hvalue := attributeValues_append hclear trackMark_ne_nil hsuffix
      survey.questions[i].trackId.toList r
    -- counted from zero, the tracking id is behind the marks of the questions ahead
    rw [occurrences_trackFrontText survey settings _ _ h, ← hr,
      List.length_take_of_le (Nat.le_of_lt hi), Nat.add_right_comm, Nat.add_sub_cancel] at hvalue
    exact hvalue

theorem trackEndings_eq_zero {texts : List String} (h : ∀ t ∈ texts, ¬ trackHead <:+ t.toList) :
    trackEndings texts = 0 := by
  unfold trackEndings
  rw [List.sum_eq_zero_iff_forall_eq_nat, List.forall_mem_map]
  intro t ht
  exact if_neg (h t ht)

/-- The texts in front of a tracking id are texts of the document. -/
theorem mem_texts_of_ahead {survey : Resolved} {settings : Settings} {i : Nat}
    {q : ResolvedQuestion} (hq : survey.questions[i]? = some q) {t : String}
    (ht : t ∈ textsAhead survey settings ++ (survey.questions.take i).flatMap questionTexts ++
      [placeholderOf q.answer]) :
    t ∈ textsAhead survey settings ++ textsBehind survey settings := by
  rw [List.append_assoc] at ht
  rcases List.mem_append.1 ht with ht | ht
  · exact List.mem_append_left _ ht
  · refine List.mem_append_right _ (List.mem_append_left _ ?_)
    rcases List.mem_append.1 ht with ht | ht
    · obtain ⟨other, hother, ht⟩ := List.mem_flatMap.1 ht
      exact List.mem_flatMap.2 ⟨other, List.mem_of_mem_take hother, ht⟩
    · obtain rfl := List.mem_singleton.1 ht
      exact List.mem_flatMap.2 ⟨q, List.mem_of_getElem? hq, List.mem_cons_self⟩

/-- Where no text ends like the mark, the values are the tracking ids. -/
theorem Tracks.values_eq {survey : Resolved} {settings : Settings} {html : List Char}
    (h : Tracks survey settings html)
    (hnone : ∀ t ∈ textsAhead survey settings ++ textsBehind survey settings,
      ¬ trackHead <:+ t.toList) :
    attributeValues trackMark html = survey.questions.map fun q => q.trackId.toList := by
  have hlength := h.count
  rw [trackEndings_eq_zero hnone, Nat.add_zero] at hlength
  apply List.ext_getElem?
  intro i
  rw [List.getElem?_map]
  cases hq : survey.questions[i]? with
  | none =>
      rw [List.getElem?_eq_none_iff] at hq
      rw [Option.map_none]
      exact List.getElem?_eq_none (hlength.le.trans hq)
  | some q =>
      have hvalue := h.value i q hq
      rw [trackEndings_eq_zero fun t ht => hnone t (mem_texts_of_ahead hq ht),
        Nat.add_zero] at hvalue
      exact hvalue

/-- A step bears the tracking id of its question. -/
theorem stepsOf_trackIds (survey : Resolved) :
    (stepsOf survey).map (fun s => s.analytics.id) =
      survey.questions.map ResolvedQuestion.trackId := by
  unfold stepsOf
  rw [List.map_map]
  apply List.map_congr_left
  intro q _
  show (Step.ofQuestion q survey.questions.length survey.maxStars).analytics.id = q.trackId
  unfold Step.ofQuestion
  cases q.answer with
  | starRating => rfl
  | text placeholder => rfl

end Pages

open Pages

/-! ## Compiled documents -/

/-- **The tracking ids and the first fragment of a compiled document,** whatever characters the
definition's texts hold. The tracking ids stand in the document in the order of the questions and of
the manifest's steps, and where no other text ends like their mark they are all its values; and the
mark of the fragment that is shown at first is in the document once, in the fragment that the
manifest leads to first. -/
theorem compiled_tracking {d : Definition} {settings : Settings} {bundle : Bundle}
    (h : compile templates d settings = .ok bundle) (hstyling : NoQuoteGiven d.styling)
    (hheight : '"' ∉ settings.zIndex.toList) :
    ∃ survey, d.resolve = .ok survey ∧
      Tracks survey settings bundle.html.toList ∧
      ((∀ t ∈ textsAhead survey settings ++ textsBehind survey settings,
          ¬ trackHead <:+ t.toList) →
        attributeValues trackMark bundle.html.toList =
          survey.questions.map fun q => q.trackId.toList) ∧
      bundle.manifest.steps.map (fun s => s.analytics.id) =
        survey.questions.map ResolvedQuestion.trackId ∧
      ShowsFirst survey bundle.manifest.initial.targetId bundle.html.toList := by
  obtain ⟨survey, hr, rfl⟩ := compile_templates_eq_ok.1 h
  obtain ⟨-, htheme, -⟩ := resolve_parts hr
  have hquote : NoQuote survey.theme settings.zIndex := htheme ▸ no_quote_resolve hstyling hheight
  have htracks : Tracks survey settings (documentText survey settings) :=
    documentText_tracks hquote
  refine ⟨survey, hr, ?_⟩
  rw [String.toList_ofList]
  exact ⟨htracks, htracks.values_eq, stepsOf_trackIds survey, documentText_showsFirst hr hquote⟩

/-- A tracking id with a quotation mark and an entity comes back as it was, and a text that looks
like the mark of the first fragment does not make it. -/
theorem compiled_tracking_quoted_id :
    let q : Survey.Question :=
      { Survey.Question.freeText " active\" data-step-kind=\"" none with
        trackId := some "\"a&quot;" }
    let d : Definition := { Definition.blank with questions := [q, .starRating "How?"] }
    ∃ bundle, compile templates d .standard = .ok bundle ∧
      attributeValues trackMark bundle.html.toList =
        ["\"a&quot;".toList, "question_2_feedback".toList] ∧
      occurrences activeMark bundle.html.toList = 1 := by
  intro q d
  obtain ⟨bundle, hb⟩ := (compile_templates d .standard).2 ⟨_, rfl⟩
  obtain ⟨survey, hr, -, hvalues, -, hfirst⟩ :=
    compiled_tracking hb noQuoteGiven_blank (by decide)
  obtain rfl : _ = survey := Except.ok.inj hr
  refine ⟨bundle, hb, ?_, hfirst.once⟩
  rw [hvalues (by decide +kernel)]
  rfl

/-- A tracking id that ends with the name of its attribute makes the mark again. -/
theorem mark_behind_trackId :
    let q : Survey.Question :=
      { Survey.Question.freeText "Why?" none with trackId := some "data-track-id=" }
    let d : Definition := { Definition.blank with questions := [q] }
    ∃ bundle survey, compile templates d .standard = .ok bundle ∧ NoQuoteGiven d.styling ∧
      '"' ∉ Settings.standard.zIndex.toList ∧ d.resolve = .ok survey ∧
      survey.questions.map ResolvedQuestion.trackId = ["data-track-id="] ∧
      (attributeValues trackMark bundle.html.toList).length = 2 := by
  intro q d
  obtain ⟨bundle, hb⟩ := (compile_templates d .standard).2 ⟨_, rfl⟩
  obtain ⟨survey, hr, htheme, hhtml⟩ := compiled_html hb
  refine ⟨bundle, survey, hb, noQuoteGiven_blank, by decide, hr, ?_, ?_⟩
  · obtain rfl : _ = survey := Except.ok.inj hr
    rfl
  · have hquote : NoQuote survey.theme Settings.standard.zIndex :=
      htheme ▸ no_quote_resolve noQuoteGiven_blank (by decide)
    have htracks : Tracks survey .standard (documentText survey .standard) :=
      documentText_tracks hquote
    rw [hhtml, htracks.count]
    obtain rfl : _ = survey := Except.ok.inj hr
    decide +kernel

end VideoSurvey.Overlay
