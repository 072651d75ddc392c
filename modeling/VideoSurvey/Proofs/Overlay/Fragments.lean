import VideoSurvey.Proofs.Overlay.Attributes
import VideoSurvey.Proofs.Template.Guards

/-!
# Fragments of the document

The wizard shows one fragment of the document at a time: the card of a question or the closing card.
The fragments stand in their order between the head of the document and its script
(`documentText_eq_fragments`), each on lines of its own and each behind its id
(`fragments_open`), and no two have the same id. So a mark without a line break is counted part by
part (`occurrences_documentText_fragments`).
-/

set_option autoImplicit false

namespace VideoSurvey.Overlay.Pages

open Survey (Definition Resolved ResolvedQuestion ThankYou)
open Template (Scope fill places stretches)
open Text (Clear occurrences toList_of_eq_ofList)
open Text.Entity (escape)

/-- The closing card of a survey. -/
def thankYouText (survey : Resolved) : List Char :=
  fill true
    (thankYouScope survey.thankYou (Transition.initial (stepsOf survey).length = .thankYou))
    thankYou

/-- The fragments in their order, each with its id. -/
def fragments (survey : Resolved) : List (String × List Char) :=
  (survey.questions.map fun q =>
    let card := card survey.questions.length survey.maxStars q
    (card.step.stepId, card.markup)) ++ [(thankYouStepId, thankYouText survey)]

/-! ## The document, part by part -/

section Parts

variable (survey : Resolved) (settings : Settings)

/-- The document in front of the fragments. -/
def headText : List Char := fill true (scopeOf survey settings) (document.take 17)

/-- What stands between the fragments and the script. -/
def bridge : List Char := Template.lines ["", "    </div>", "  </div>", "", "  <script>", ""]

/-- The document behind the script. -/
def footText : List Char := fill true (scopeOf survey settings) (document.drop 22)

/-- The cards are filled in one by one, each behind a line break. -/
theorem fill_markup (scope : Scope) :
    fill true scope
        [.each "markup" ["step_markup"] [.text (Template.lines ["", ""]), verbatim ["markup"]]] =
      ((Template.items? ((Template.lookup? scope ["step_markup"]).getD .null)).getD []).flatMap
        fun v => '\n' :: Template.emitted true [.safe] v := by
  rw [fill, fill, List.append_nil, Template.fillNode, Template.lines_break]
  congr 1
  funext v
  exact congrArg ('\n' :: ·) (List.append_nil _)

/-- **A document is its fragments between its head and its script.** -/
theorem documentText_eq_fragments : documentText survey settings =
    headText survey settings ++ ((fragments survey).flatMap fun f => '\n' :: f.2) ++
      (bridge ++ (script ++ footText survey settings)) := by
  -- the head, the cards, the closing card with the script behind it, and the foot
  have hsplit : document = document.take 17 ++
      ([.each "markup" ["step_markup"] [.text (Template.lines ["", ""]), verbatim ["markup"]]] ++
        ([.text (Template.lines ["", ""]), verbatim ["thank_you_markup"], .text bridge,
          verbatim ["runtime_script"]] ++ document.drop 22)) := rfl
  have hitems : (Template.items? ((Template.lookup? (scopeOf survey settings)
      ["step_markup"]).getD .null)).getD [] =
        (survey.questions.map (card survey.questions.length survey.maxStars)).map
          fun card => .str (String.ofList card.markup) := rfl
  have hclosing : fill true (scopeOf survey settings)
      [.text (Template.lines ["", ""]), verbatim ["thank_you_markup"], .text bridge,
        verbatim ["runtime_script"]] = '\n' :: thankYouText survey ++ (bridge ++ script) := by
    have hthankYou : Template.valueOf (scopeOf survey settings) (.path ["thank_you_markup"]) =
        .str (String.ofList (thankYouText survey)) := rfl
    have hscript : Template.valueOf (scopeOf survey settings) (.path ["runtime_script"]) =
        .str (String.ofList script) := rfl
    simp only [fill, Template.fillNode, verbatim, Template.throughFilters, hthankYou, hscript,
      emitted_safe, Template.lines_break, List.append_nil, List.cons_append, List.nil_append]
  rw [documentText_eq_fill, hsplit, Template.fill_append, Template.fill_append,
    Template.fill_append, fill_markup, hitems, hclosing, List.flatMap_map, List.flatMap_map]
  unfold fragments footText headText
  rw [List.flatMap_append, List.flatMap_map]
  simp only [emitted_safe, List.flatMap_singleton, List.append_assoc, List.cons_append]

theorem footText_eq_cons : ∃ t, footText survey settings = '\n' :: t := by
  obtain ⟨s, r, more, h⟩ : ∃ s r more,
      document.drop 22 = .text (Template.lines ("" :: s :: r)) :: more := ⟨_, _, _, rfl⟩
  unfold footText
  rw [h, Template.lines_empty_cons, fill, Template.fillNode]
  exact ⟨_, rfl⟩

/-- The values in the head are the first ones of the document. -/
theorem headText_places : places (stretches true (scopeOf survey settings) (document.take 17)) =
    headPlaces survey settings (manifestOf survey settings (stepsOf survey))
      (Activation.of survey settings)
      (fill false (stylesheetScope survey.theme settings.zIndex) stylesheet) := by
  obtain ⟨c, t, hlast⟩ : ∃ c t, document.take 17 = document.take 16 ++ [.text (c :: t)] := by
    obtain ⟨t, ht⟩ := Template.lines_eq_cons (show "\">" = String.ofList ['"', '>'] from rfl)
      ["    <div class=\"survey-feedback-container\">"]
    refine ⟨'"', t, ?_⟩
    rw [← ht]
    rfl
  have hsplit : document = document.take 16 ++ .text (c :: t) :: document.drop 17 := by
    rw [List.append_cons, ← hlast, List.take_append_drop]
  have hhead : stretches true (scopeOf survey settings) (document.take 17) =
      stretches true (scopeOf survey settings) (document.take 16) ++ [.text (c :: t)] := by
    rw [hlast, Template.stretches_append, Template.stretches_text, Template.stretches_nil]
  have hlength : (places (stretches true (scopeOf survey settings) (document.take 17))).length =
      8 := by
    simp only [document, List.take_succ_cons, List.take_zero, place, verbatim,
      Template.stretches_text, Template.stretches_emit, Template.stretches_nil, places,
      List.length_cons, List.length_nil]
  -- the text at the end keeps the values of the head apart from those behind it
  have happend := Template.places_append_text
    (stretches true (scopeOf survey settings) (document.take 16)) c t
    (stretches true (scopeOf survey settings) (document.drop 17))
  rw [← Template.stretches_text, ← Template.stretches_append, ← hsplit, ← hhead] at happend
  calc
    places (stretches true (scopeOf survey settings) (document.take 17)) =
        (places (stretches true (scopeOf survey settings) document)).take 8 := by
      rw [happend, List.take_left' hlength]
    _ = _ := by
      unfold scopeOf
      rw [document_places, List.append_assoc]
      exact List.take_left' rfl

theorem footText_places : places (stretches true (scopeOf survey settings) (document.drop 22)) =
    [(escape settings.playerScriptUrl.toList, ['"'])] := by
  simp (disch := exact rfl) only [document, List.drop_succ_cons, List.drop_zero, place,
    Template.stretches_text, Template.stretches_emit, Template.stretches_nil, places,
    Template.opening_lines]
  rfl

/-- **A mark without a line break is counted in the head, in the fragments and in the foot,** if it
is not between them. -/
theorem occurrences_documentText_fragments {mark : List Char} (hc : '\n' ∉ mark)
    (hne : mark ≠ []) (hclear : Clear mark bridge) (hbridge : occurrences mark bridge = 0)
    (hscript : occurrences mark script = 0) :
    occurrences mark (documentText survey settings) =
      occurrences mark (headText survey settings) +
        (((fragments survey).map fun f => occurrences mark f.2).sum +
          occurrences mark (footText survey settings)) := by
  obtain ⟨t, ht⟩ := footText_eq_cons survey settings
  obtain ⟨b, hb⟩ : ∃ b, bridge = '\n' :: b := ⟨_, Template.lines_empty_cons _ _⟩
  have hfoot : occurrences mark (bridge ++ (script ++ footText survey settings)) =
      occurrences mark (footText survey settings) := by
    rw [Text.occurrences_append hclear, hbridge, Nat.zero_add, ht,
      Text.occurrences_append_of_not_mem hc hne, hscript, Nat.zero_add,
      Text.occurrences_cons_of_not_mem hc hne]
  have hparts := Text.occurrences_flatMap_cons hc hne (headText survey settings)
    ((fragments survey).map Prod.snd) (b ++ (script ++ footText survey settings))
  rw [← Text.occurrences_cons_of_not_mem hc hne (b ++ _), ← List.cons_append, ← hb, hfoot,
    List.flatMap_map, List.map_map] at hparts
  rw [documentText_eq_fragments, List.append_assoc]
  exact hparts

end Parts

/-! ## Ids -/

theorem isPlain_of_isDigit {s : List Char} (h : ∀ c ∈ s, c.isDigit = true) :
    Text.Entity.IsPlain s :=
  fun c hc => Text.Entity.isPlain_of_class rfl (h c hc)

theorem escape_numbered {front : String} (hfront : Text.Entity.IsPlain front.toList) (n : Nat) :
    escape (front ++ String.ofList (Json.natDigits n)).toList =
      (front ++ String.ofList (Json.natDigits n)).toList := by
  apply Text.Entity.escape_of_isPlain
  rw [String.toList_append, String.toList_ofList]
  exact List.forall_mem_append.2
    ⟨hfront, isPlain_of_isDigit fun _ => Json.isDigit_natDigits⟩

/-- Escaping leaves the ids of fragments alone. -/
theorem escape_stepId (position : Nat) :
    escape (stepId position).toList = (stepId position).toList :=
  escape_numbered (by decide) position

/-- Escaping leaves the ids of a step alone. -/
theorem escape_ids (q : ResolvedQuestion) (total maxStars : Nat) :
    escape (Step.ofQuestion q total maxStars).stepId.toList =
        (Step.ofQuestion q total maxStars).stepId.toList ∧
      escape (Step.ofQuestion q total maxStars).submitId.toList =
        (Step.ofQuestion q total maxStars).submitId.toList := by
  have hplain : ∀ front ∈ submitFronts, Text.Entity.IsPlain front.toList := by decide
  obtain ⟨hstep, front, hfront, hsubmit⟩ := Step.ofQuestion_ids q total maxStars
  rw [hstep, hsubmit]
  exact ⟨escape_stepId q.position, escape_numbered (hplain front hfront) q.position⟩

theorem escape_thankYouStepId : escape thankYouStepId.toList = thankYouStepId.toList :=
  Text.Entity.escape_of_isPlain (by decide)

/-- A page that begins with an element and its id. -/
theorem exists_fill_open {scope : Scope} {path : Template.Path} {id : String}
    (hvalue : Template.lookup? scope path = some (.str id))
    (hescape : escape id.toList = id.toList) (s : String) {c : List Char}
    (hs : s = String.ofList ('"' :: c)) (more : List Template.Node) :
    ∃ r, fill true scope (.text (Template.lines ["<div id=\""]) :: place path ::
        .text (Template.lines [s]) :: more) =
      "<div id=\"".toList ++ (id.toList ++ '"' :: r) := by
  obtain ⟨t, ht⟩ := Template.lines_eq_cons hs []
  refine ⟨t ++ fill true scope more, ?_⟩
  have hid : Template.emitted true [] (Template.valueOf scope (.path path)) = id.toList := by
    simp only [Template.valueOf, hvalue]
    exact hescape
  simp only [fill, Template.fillNode, place, Template.throughFilters, hid, ht]
  rfl

theorem card_open (total maxStars : Nat) (q : ResolvedQuestion) :
    ∃ r, (card total maxStars q).markup =
      "<div id=\"".toList ++ ((card total maxStars q).step.stepId.toList ++ '"' :: r) := by
  have hshape : ∃ more, page (partOf q.answer) =
      .text (Template.lines ["<div id=\""]) :: place ["step", "step_id"] ::
        .text (Template.lines ["\" class=\"survey-feedback-step"]) :: more := by
    cases q.answer with
    | starRating => exact ⟨_, rfl⟩
    | text placeholder => exact ⟨_, rfl⟩
  obtain ⟨more, hmore⟩ := hshape
  unfold card
  rw [hmore]
  exact exists_fill_open rfl (escape_ids q total maxStars).1 _ rfl more

theorem thankYouText_open (survey : Resolved) :
    ∃ r, thankYouText survey = "<div id=\"".toList ++ (thankYouStepId.toList ++ '"' :: r) :=
  exists_fill_open rfl escape_thankYouStepId _ rfl _

/-- **Each fragment is an element with its id.** -/
theorem fragments_open (survey : Resolved) : ∀ f ∈ fragments survey,
    ∃ r, f.2 = "<div id=\"".toList ++ (f.1.toList ++ '"' :: r) := by
  unfold fragments
  rw [List.forall_mem_append, List.forall_mem_map, List.forall_mem_singleton]
  exact ⟨fun q _ => card_open survey.questions.length survey.maxStars q, thankYouText_open survey⟩

theorem fragments_ids (survey : Resolved) : (fragments survey).map Prod.fst =
    (stepsOf survey).map Step.stepId ++ [thankYouStepId] := by
  unfold fragments
  rw [List.map_append, List.map_map, List.map_singleton, stepsOf, List.map_map]
  rfl

/-- **No two fragments have the same id.** -/
theorem fragments_nodup {d : Definition} {survey : Resolved} (h : d.resolve = .ok survey) :
    ((fragments survey).map Prod.fst).Nodup := by
  rw [fragments_ids]
  refine (nodup_ids h).sublist ?_
  exact (List.sublist_append_left _ _).append (List.Sublist.refl _)

end VideoSurvey.Overlay.Pages
