import VideoSurvey.Proofs.Json.RoundTrip
import VideoSurvey.Proofs.Overlay.Chain
import VideoSurvey.Proofs.Overlay.Places
import VideoSurvey.Proofs.Overlay.Texts

/-!
# Names of attributes in the document

The overlay's data stand in three attributes. The name of one of them, with the equals sign and the
quotation mark behind it, is in the document's own texts once. Escaping leaves a name and an equals
sign alone, so a text in another attribute that ends with them makes the mark again, together with
the quotation mark that ends that attribute, and nothing else does
(`occurrences_documentText_attribute`).
-/

set_option autoImplicit false

namespace VideoSurvey.Overlay

open Survey (Resolved ResolvedQuestion Styling ThankYou Theme)
open Template (Scope places stretches fill)
open Text (Clear occurrences toList_of_eq_ofList)
open Text.Entity (escape not_mem_escape IsPlain)

/-! ## Ids -/

theorem not_mem_numbered {front : String} {c : Char} (hfront : c ∉ front.toList)
    (hc : c.isDigit = false) (n : Nat) :
    c ∉ (front ++ String.ofList (Json.natDigits n)).toList := by
  rw [String.toList_append, String.toList_ofList, List.mem_append, not_or]
  refine ⟨hfront, fun hdigit => ?_⟩
  rw [Json.isDigit_natDigits hdigit] at hc
  cases hc

/-- A character that is no digit and in none of their fronts is not in the ids of a step. -/
theorem Step.not_mem_ids {c : Char} (hc : c.isDigit = false)
    (hfronts : ∀ front ∈ idFronts, c ∉ front.toList) (hthankYou : c ∉ thankYouStepId.toList)
    (q : ResolvedQuestion) (total maxStars : Nat) :
    c ∉ (Step.ofQuestion q total maxStars).stepId.toList ∧
      c ∉ (Step.ofQuestion q total maxStars).submitId.toList ∧
      c ∉ (Step.ofQuestion q total maxStars).next.targetId.toList := by
  obtain ⟨hstep, front, hfront, hsubmit⟩ := Step.ofQuestion_ids q total maxStars
  have hquestion : c ∉ "question-".toList := hfronts _ List.mem_cons_self
  refine ⟨?_, ?_, ?_⟩
  · rw [hstep]
    exact not_mem_numbered hquestion hc _
  · rw [hsubmit]
    exact not_mem_numbered (hfronts _ (List.mem_cons_of_mem _ hfront)) hc _
  · rw [Step.ofQuestion_next]
    unfold Transition.after
    split
    · exact not_mem_numbered hquestion hc _
    · exact hthankYou

theorem Step.no_equals (q : ResolvedQuestion) (total maxStars : Nat) :
    '=' ∉ (Step.ofQuestion q total maxStars).stepId.toList ∧
      '=' ∉ (Step.ofQuestion q total maxStars).submitId.toList ∧
      '=' ∉ (Step.ofQuestion q total maxStars).next.targetId.toList :=
  Step.not_mem_ids rfl (by decide) (by decide) q total maxStars

namespace Pages

/-! ## Characters behind values -/

/-- The characters that stand behind the values of the pages. -/
def isClosing (c : Char) : Bool := c = '"' || c = '\n' || c = '<' || c = '/' || c = ';'

/-- A value with one of those characters behind it. -/
def Closed (v : List Char × List Char) : Prop := ∃ c, v.2 = [c] ∧ isClosing c = true

theorem closed_of (s : List Char) {c : Char} (hc : isClosing c = true) : Closed (s, [c]) :=
  ⟨c, rfl, hc⟩

theorem card_closed (q : ResolvedQuestion) (step : Step) (total : Nat) :
    ∀ v ∈ places (stretches true (stepScope q step total) (page (partOf q.answer))), Closed v := by
  cases q.answer with
  | starRating =>
      rw [show page (partOf .starRating) = starStep from rfl, starStep_places]
      simp only [List.forall_mem_append]
      refine ⟨⟨by simp [closed_of, isClosing], ?_⟩, by simp [closed_of, isClosing]⟩
      intro v hv
      obtain ⟨star, -, hv⟩ := List.mem_flatMap.1 hv
      simp only [List.mem_cons, List.not_mem_nil, or_false, or_self] at hv
      rw [hv]
      exact closed_of _ rfl
  | text placeholder =>
      rw [show page (partOf (.text placeholder)) = textStep from rfl, textStep_places]
      simp [closed_of, isClosing]

theorem thankYou_closed (t : ThankYou) (isInitial : Bool) :
    ∀ v ∈ places (stretches true (thankYouScope t isInitial) (page .thankYou)), Closed v := by
  rw [show page .thankYou = thankYou from rfl, thankYou_places]
  simp [closed_of, isClosing]

theorem document_closed (survey : Resolved) (settings : Settings) (manifest : Manifest)
    (activation : Activation) (cards : List Card) (thankYou stylesheet : List Char) :
    ∀ v ∈ places (stretches true
        (documentScope survey settings manifest activation cards thankYou stylesheet) document),
      Closed v := by
  rw [document_places]
  simp only [headPlaces, List.forall_mem_append, List.forall_mem_map]
  exact ⟨⟨by simp [closed_of, isClosing], fun _ _ => closed_of _ rfl⟩,
    by simp [closed_of, isClosing]⟩

/-! ## Quotation marks in the stylesheet -/

/-- No token of a theme has a quotation mark, nor has the height in the stack of layers. -/
def NoQuote (theme : Theme) (zIndex : String) : Prop :=
  ∀ token ∈ [theme.primaryColor, theme.textColor, theme.borderColor, theme.cardBackground,
    theme.fontFamily, zIndex], '"' ∉ token.toList

theorem not_mem_trim {c : Char} {s : List Char} (h : c ∉ s) : c ∉ Text.trim s := by
  unfold Text.trim
  rw [List.mem_reverse]
  intro hmem
  have hmem := List.mem_reverse.1 ((List.dropWhile_sublist _).mem hmem)
  exact h ((List.dropWhile_sublist _).mem hmem)

theorem no_quote_stacked {value : String} (h : '"' ∉ value.toList) :
    '"' ∉ (Text.Font.stacked value).toList := by
  have htrim := not_mem_trim h
  have hfallback : '"' ∉ Text.Font.genericFallback := by
    rw [genericFallback_eq]
    decide
  unfold Text.Font.stacked Text.Font.stack
  simp only [String.toList_ofList]
  split
  · exact htrim
  · split
    · rw [List.mem_append, not_or]
      exact ⟨htrim, hfallback⟩
    · simp [htrim, hfallback]

/-- No text that a styling gives has a quotation mark. -/
def NoQuoteGiven (styling : Styling) : Prop :=
  ∀ token ∈ [styling.primaryColor, styling.textColor, styling.borderColor, styling.cardBackground,
    styling.fontFamily], ∀ value ∈ token, '"' ∉ value.toList

theorem noQuoteGiven_blank : NoQuoteGiven .blank := by
  unfold NoQuoteGiven Styling.blank
  simp

theorem no_quote_given {value : Option String} {fallback : String}
    (h : ∀ s ∈ value, '"' ∉ s.toList) (hfallback : '"' ∉ fallback.toList) :
    '"' ∉ (Survey.given value fallback).toList := by
  unfold Survey.given
  split
  · split
    · exact hfallback
    · exact h _ rfl
  · exact hfallback

/-- The default tokens have none either. -/
theorem no_quote_resolve {styling : Styling} (h : NoQuoteGiven styling) {zIndex : String}
    (hheight : '"' ∉ zIndex.toList) : NoQuote styling.resolve zIndex := by
  unfold NoQuoteGiven at h
  unfold NoQuote
  simp only [List.forall_mem_cons] at h ⊢
  obtain ⟨hprimary, htext, hborder, hcard, hfont, -⟩ := h
  exact ⟨no_quote_given hprimary (by decide), no_quote_given htext (by decide),
    no_quote_given hborder (by decide), no_quote_given hcard (by decide),
    no_quote_given hfont (by decide), hheight, List.forall_mem_nil _⟩

theorem no_quote_stylesheet {theme : Theme} {zIndex : String} (h : NoQuote theme zIndex) :
    '"' ∉ fill false (stylesheetScope theme zIndex) stylesheet := by
  unfold NoQuote at h
  simp only [List.forall_mem_cons] at h
  obtain ⟨hprimary, htext, hborder, hcard, hfont, hheight, -⟩ := h
  have hfont := no_quote_stacked hfont
  -- the stylesheet's own texts have none, so only its tokens are left
  refine Template.not_mem_fill (fun s hs => (stylesheet_texts s hs).2) ?_
  rw [stylesheet_places, List.forall_mem_map]
  simp [tokenPlaces, hprimary, htext, hborder, hcard, hfont, hheight]

/-! ## Names -/

/-- The name of an attribute with the equals sign behind it: escaping leaves it alone, it has no
character that ends a value, and it does not end like an object. -/
structure IsHead (head : List Char) : Prop where
  plain : IsPlain head
  equals : '=' ∈ head
  inner : ∀ c ∈ head, isClosing c = false
  bracket : '\x7d' ∉ head

/-- How often a text makes the mark of an attribute when a quotation mark follows it. -/
def ending (head s : List Char) : Nat := if head <:+ s then 1 else 0

namespace IsHead

variable {head s : List Char} {c : Char} (h : IsHead head)

include h

theorem not_mem (hc : isClosing c = true) : c ∉ head := by
  intro hmem
  rw [h.inner c hmem] at hc
  cases hc

theorem length_mark : 2 ≤ (head ++ ['"']).length := by
  have hpos := List.length_pos_of_mem h.equals
  rw [List.length_append, List.length_singleton]
  omega

omit h in
theorem mark_ne_nil : head ++ ['"'] ≠ [] :=
  List.append_ne_nil_of_right_ne_nil _ (List.cons_ne_nil _ _)

theorem not_mem_mark (hc : isClosing c = true) (hne : c ≠ '"') : c ∉ head ++ ['"'] := by
  rw [List.mem_append, List.mem_singleton, not_or]
  exact ⟨h.not_mem hc, hne⟩

theorem ending_escape (t : List Char) : ending head (escape t) = ending head t :=
  if_congr (Text.Entity.suffix_escape h.plain t) rfl rfl

theorem ending_of_no_equals (hs : '=' ∉ s) : ending head s = 0 :=
  if_neg fun hsuffix => hs (hsuffix.subset h.equals)

/-- A JSON object ends with a bracket. -/
theorem ending_compactText (members : Json.Members) :
    ending head (Json.obj members).compactText.toList = 0 := by
  obtain ⟨s, hs⟩ := Json.compact_obj_eq members
  rw [Json.compactText, String.toList_ofList, hs]
  refine if_neg fun hsuffix => ?_
  -- the name would be empty or end with the bracket
  rcases List.suffix_concat_iff.1 hsuffix with hnil | ⟨t, ht, -⟩
  · have hequals := h.equals
    rw [hnil] at hequals
    cases hequals
  · refine h.bracket ?_
    rw [ht]
    simp

theorem ending_natDigits (n : Nat) : ending head (Json.natDigits n) = 0 :=
  h.ending_of_no_equals fun hdigit => absurd (Json.isDigit_natDigits hdigit) (by decide)

/-! ### One value -/

theorem occurrences_unquoted (hs : '"' ∉ s) (hc : isClosing c = true) (hne : c ≠ '"') :
    occurrences (head ++ ['"']) (s ++ [c]) = 0 := by
  rw [Text.occurrences_concat_of_not_mem (h.not_mem_mark hc hne) mark_ne_nil]
  exact Text.occurrences_eq_zero_of_not_mem (List.mem_append_right _ List.mem_cons_self) hs

theorem occurrences_escape_quoted (t : List Char) :
    occurrences (head ++ ['"']) (escape t ++ ['"']) = ending head t := by
  rw [Text.occurrences_concat (not_mem_escape t).1]
  exact h.ending_escape t

theorem occurrences_escape_unquoted (t : List Char) (hc : isClosing c = true) (hne : c ≠ '"') :
    occurrences (head ++ ['"']) (escape t ++ [c]) = 0 :=
  h.occurrences_unquoted (not_mem_escape t).1 hc hne

theorem occurrences_escape_no_equals {t : List Char} (ht : '=' ∉ t) :
    occurrences (head ++ ['"']) (escape t ++ ['"']) = 0 := by
  rw [h.occurrences_escape_quoted, h.ending_of_no_equals ht]

theorem occurrences_natDigits (n : Nat) (hc : isClosing c = true) :
    occurrences (head ++ ['"']) (Json.natDigits n ++ [c]) = 0 := by
  have hquote := (harmless_natDigits n).no_markup.2
  by_cases hne : c = '"'
  · rw [hne, Text.occurrences_concat hquote]
    exact h.ending_natDigits n
  · exact h.occurrences_unquoted hquote hc hne

theorem occurrences_line (t : List Char) :
    occurrences (head ++ ['"']) (t ++ ['\n']) = occurrences (head ++ ['"']) t :=
  Text.occurrences_concat_of_not_mem (h.not_mem_mark rfl (by decide)) mark_ne_nil t

theorem apart {v : List Char × List Char} (hv : Closed v) :
    Clear (head ++ ['"']) v.1 ∨ ∃ c, v.2 = [c] ∧ c ∉ (head ++ ['"']).dropLast := by
  obtain ⟨c, hc, hclosing⟩ := hv
  refine .inr ⟨c, hc, ?_⟩
  rw [List.dropLast_concat]
  exact h.not_mem hclosing

theorem clear_of_suffix (hs : head ++ ['"'] <:+ s) : Clear (head ++ ['"']) s := by
  obtain ⟨front, rfl⟩ := hs
  rw [← List.append_assoc]
  refine Text.clear_concat ?_ _
  rw [List.dropLast_concat]
  exact h.not_mem rfl

/-! ### The values of the pages -/

/-- The numbers of the stars end with digits. -/
theorem occurrences_stars (maxStars : Nat) :
    ∀ v ∈ (starNumbers maxStars).flatMap fun star =>
        [(Template.emitted true [] star, ['"']), (Template.emitted true [] star, ['"'])],
      occurrences (head ++ ['"']) (v.1 ++ v.2) = 0 := by
  intro v hv
  obtain ⟨star, hstar, hv⟩ := List.mem_flatMap.1 hv
  obtain ⟨i, -, rfl⟩ := List.mem_map.1 hstar
  simp only [List.mem_cons, List.not_mem_nil, or_false, or_self] at hv
  rw [hv]
  exact h.occurrences_natDigits (i + 1) rfl

end IsHead

/-- The texts of a question that its card puts into attributes. -/
def questionTexts (q : ResolvedQuestion) : List String :=
  [placeholderOf q.answer, q.trackId, q.trackName]

/-- The texts in the attributes in front of the data. -/
def textsAhead (survey : Resolved) (settings : Settings) : List String :=
  [settings.iconStylesheetUrl, survey.video.host, survey.video.videoId]

/-- The texts in the attributes behind the data. -/
def textsBehind (survey : Resolved) (settings : Settings) : List String :=
  survey.questions.flatMap questionTexts ++ [settings.playerScriptUrl]

section Head

variable {head : List Char} (h : IsHead head)

include h

/-- The values of a question's card that can end with a name are the question's own texts. -/
theorem occurrences_card_places (q : ResolvedQuestion) (total maxStars : Nat) :
    ((places (stretches true (stepScope q (Step.ofQuestion q total maxStars) total)
        (page (partOf q.answer)))).map fun v => occurrences (head ++ ['"']) (v.1 ++ v.2)).sum =
      ((questionTexts q).map fun t => ending head t.toList).sum := by
  obtain ⟨hstep, hsubmit, htarget⟩ := Step.no_equals q total maxStars
  unfold questionTexts
  cases hanswer : q.answer with
  | starRating =>
      have hstars := h.occurrences_stars (Step.ofQuestion q total maxStars).maxStars
      -- there is no placeholder, and the places of the stars hold numbers
      have hnone : ending head (placeholderOf .starRating).toList = 0 :=
        h.ending_of_no_equals List.not_mem_nil
      rw [show page (partOf .starRating) = starStep from rfl, starStep_places, List.map_append,
        List.map_append, List.sum_append, List.sum_append,
        List.sum_eq_zero_iff_forall_eq_nat.2 (List.forall_mem_map.2 hstars)]
      simp (disch := decide) only [List.map_cons, List.map_nil, List.sum_cons, List.sum_nil,
        h.occurrences_escape_no_equals hstep, h.occurrences_escape_no_equals hsubmit,
        h.occurrences_escape_no_equals htarget, h.occurrences_escape_quoted,
        h.occurrences_escape_unquoted, h.occurrences_natDigits]
      omega
  | text placeholder =>
      rw [show page (partOf (.text placeholder)) = textStep from rfl, textStep_places]
      simp (disch := decide) only [List.map_cons, List.map_nil, List.sum_cons, List.sum_nil,
        h.occurrences_escape_no_equals hstep, h.occurrences_escape_no_equals hsubmit,
        h.occurrences_escape_no_equals htarget, h.occurrences_escape_quoted,
        h.occurrences_escape_unquoted, h.occurrences_natDigits, hanswer]
      omega

theorem occurrences_thankYou_places (t : ThankYou) (isInitial : Bool) :
    ((places (stretches true (thankYouScope t isInitial) thankYou)).map fun v =>
      occurrences (head ++ ['"']) (v.1 ++ v.2)).sum = 0 := by
  have hid : '=' ∉ thankYouStepId.toList := by decide
  rw [thankYou_places]
  simp (disch := decide) only [List.map_cons, List.map_nil, List.sum_cons, List.sum_nil,
    h.occurrences_escape_no_equals hid, h.occurrences_escape_unquoted, Nat.add_zero]

/-- What the values in front of the cards add. -/
theorem occurrences_headPlaces (survey : Resolved) (settings : Settings)
    (hquote : NoQuote survey.theme settings.zIndex) :
    ((headPlaces survey settings (manifestOf survey settings (stepsOf survey))
        (Activation.of survey settings)
        (fill false (stylesheetScope survey.theme settings.zIndex) stylesheet)).map
      fun v => occurrences (head ++ ['"']) (v.1 ++ v.2)) =
      [0, ending head settings.iconStylesheetUrl.toList, 0, ending head survey.video.host.toList,
        ending head survey.video.videoId.toList, 0, 0, 0] := by
  have hparams := h.ending_compactText survey.video.params
  have hactivation : ending head (Activation.of survey settings).toJson.compactText.toList = 0 :=
    h.ending_compactText _
  have hmanifest : ending head
      (manifestOf survey settings (stepsOf survey)).toJson.compactText.toList = 0 :=
    h.ending_compactText _
  have hstyle := no_quote_stylesheet hquote
  simp (disch := decide) only [headPlaces, List.map_cons, List.map_nil,
    h.occurrences_escape_quoted, h.occurrences_escape_unquoted, h.occurrences_unquoted hstyle,
    hparams, hactivation, hmanifest]

/-- In front of the cards only the address of the icons and the video are texts of an attribute. -/
theorem sum_headPlaces (survey : Resolved) (settings : Settings)
    (hquote : NoQuote survey.theme settings.zIndex) :
    ((headPlaces survey settings (manifestOf survey settings (stepsOf survey))
        (Activation.of survey settings)
        (fill false (stylesheetScope survey.theme settings.zIndex) stylesheet)).map
      fun v => occurrences (head ++ ['"']) (v.1 ++ v.2)).sum =
      ((textsAhead survey settings).map fun t => ending head t.toList).sum := by
  rw [occurrences_headPlaces h survey settings hquote]
  simp only [textsAhead, List.map_cons, List.map_nil, List.sum_cons, List.sum_nil]
  omega

end Head

/-! ## The attributes that hold the data -/

theorem DataAttribute.isHead (a : DataAttribute) : IsHead a.head := by
  have hshape : IsPlain a.head ∧ '=' ∈ a.head ∧ (∀ c ∈ a.head, isClosing c = false) ∧
      '\x7d' ∉ a.head := by
    cases a
    all_goals
      simp (disch := exact rfl) only [toList_of_eq_ofList, DataAttribute.head, DataAttribute.name,
        List.cons_append, List.nil_append, List.forall_mem_cons, List.not_mem_nil,
        IsEmpty.forall_iff, implies_true]
      decide
  exact ⟨hshape.1, hshape.2.1, hshape.2.2.1, hshape.2.2.2⟩

namespace DataAttribute

variable (a : DataAttribute)

theorem length_mark : 2 ≤ a.mark.length := a.isHead.length_mark

theorem mark_ne_nil : a.mark ≠ [] := IsHead.mark_ne_nil

theorem quote_mem_mark : '"' ∈ a.mark := List.mem_append_right _ List.mem_cons_self

/-- How often a text makes the mark of an attribute when a quotation mark follows it. -/
def ends (s : List Char) : Nat := if a.head <:+ s then 1 else 0

theorem apart {v : List Char × List Char} (h : Closed v) :
    Clear a.mark v.1 ∨ ∃ c, v.2 = [c] ∧ c ∉ a.mark.dropLast := a.isHead.apart h

end DataAttribute

section Attribute

variable (a : DataAttribute)

/-! ### Cards -/

/-- A page whose own texts do not have the mark has it in its values only. -/
theorem occurrences_page {part : Part} (hdocument : part ≠ .document)
    (hstyle : part ≠ .stylesheet) {scope : Scope}
    (hplaces : ∀ v ∈ places (stretches true scope (page part)), Closed v) :
    occurrences a.mark (fill true scope (page part)) =
      ((places (stretches true scope (page part))).map fun v =>
        occurrences a.mark (v.1 ++ v.2)).sum :=
  Template.occurrences_fill_of_quiet a.length_mark (card_texts hdocument hstyle _ a.mark_mem)
    fun v hv => a.apart (hplaces v hv)

theorem occurrences_card_attribute (total maxStars : Nat) (q : ResolvedQuestion) :
    occurrences a.mark (card total maxStars q).markup =
      ((questionTexts q).map fun t => a.ends t.toList).sum := by
  obtain ⟨hdocument, hstyle⟩ := partOf_ne q.answer
  unfold card
  rw [occurrences_page a hdocument hstyle (card_closed q _ total)]
  exact occurrences_card_places a.isHead q total maxStars

theorem occurrences_cards (total maxStars : Nat) (questions : List ResolvedQuestion) :
    ((questions.map (card total maxStars)).map fun card => occurrences a.mark card.markup).sum =
      ((questions.flatMap questionTexts).map fun t => a.ends t.toList).sum := by
  induction questions with
  | nil => rfl
  | cons q questions ih =>
      rw [List.map_cons, List.map_cons, List.sum_cons, ih, occurrences_card_attribute a,
        List.flatMap_cons, List.map_append, List.sum_append]

theorem occurrences_thankYou_attribute (t : ThankYou) (isInitial : Bool) :
    occurrences a.mark (fill true (thankYouScope t isInitial) thankYou) = 0 := by
  have hpage := occurrences_page a (show Part.thankYou ≠ .document by decide) (by decide)
    (thankYou_closed t isInitial)
  exact hpage.trans (occurrences_thankYou_places a.isHead t isInitial)

/-! ### The document -/

variable (survey : Resolved) (settings : Settings)

theorem occurrences_headPlaces_attribute (h : NoQuote survey.theme settings.zIndex) :
    ((headPlaces survey settings (manifestOf survey settings (stepsOf survey))
        (Activation.of survey settings)
        (fill false (stylesheetScope survey.theme settings.zIndex) stylesheet)).map
      fun v => occurrences a.mark (v.1 ++ v.2)) =
      [0, a.ends settings.iconStylesheetUrl.toList, 0, a.ends survey.video.host.toList,
        a.ends survey.video.videoId.toList, 0, 0, 0] :=
  occurrences_headPlaces a.isHead survey settings h

/-- **The mark of an attribute in the document**: its own, and one for each text in another
attribute that ends with the name and an equals sign. -/
theorem occurrences_documentText_attribute (h : NoQuote survey.theme settings.zIndex) :
    occurrences a.mark (documentText survey settings) =
      1 + ((textsAhead survey settings ++ textsBehind survey settings).map
        fun t => a.ends t.toList).sum := by
  have hplaces := document_closed survey settings (manifestOf survey settings (stepsOf survey))
    (Activation.of survey settings)
  have hcards := occurrences_cards a survey.questions.length survey.maxStars survey.questions
  have hline (t : List Char) : occurrences a.mark (t ++ ['\n']) = occurrences a.mark t :=
    a.isHead.occurrences_line t
  have hplayer : occurrences a.mark (escape settings.playerScriptUrl.toList ++ ['"']) =
      a.ends settings.playerScriptUrl.toList := a.isHead.occurrences_escape_quoted _
  have hown := ownOccurrences_attribute a
  have hscript := script_quiet _ a.mark_mem
  obtain ⟨htexts, hinner⟩ := document_texts _ a.mark_mem
  unfold ownOccurrences at hown
  unfold documentText
  rw [Template.occurrences_fill a.length_mark htexts hinner
    fun v hv => a.apart (hplaces _ _ _ v hv), document_places, List.map_append, List.map_append,
    List.sum_append, List.sum_append, occurrences_headPlaces_attribute a survey settings h,
    List.map_map, hown]
  -- the cards stand between line breaks, which no mark has
  simp only [Function.comp_def, hline] at hcards ⊢
  rw [hcards]
  simp only [textsAhead, textsBehind, List.map_cons, List.map_nil, List.map_append, List.sum_cons,
    List.sum_nil, List.sum_append, hline, occurrences_thankYou_attribute a, hscript, hplayer]
  omega

end Attribute

end Pages

end VideoSurvey.Overlay
