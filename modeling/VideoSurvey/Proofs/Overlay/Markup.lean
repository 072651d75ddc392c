import VideoSurvey.Proofs.Overlay.Places
import VideoSurvey.Proofs.Overlay.Texts

/-!
# Markup in the document

The tags around scripts and stylesheets come from the templates. Values of the cards and of the
document's attributes are escaped or are numbers, so none of them holds a tag, and the script is
fixed. The tokens of a theme are the exception: the stylesheet takes them as they are, so a tag in
a token is a tag in the document, once for each place of the token (`occurrences_documentText`).
-/

set_option autoImplicit false

namespace VideoSurvey.Overlay

open Survey (Definition Resolved ResolvedQuestion ThankYou Theme)
open Template (Scope places stretches fill)
open Text (Clear occurrences toList_of_eq_ofList)
open Text.Entity (escape not_mem_escape)

namespace Pages

/-! ## Tags -/

/-- Characters that stand around the tokens of a theme and in no tag's name. -/
def isBeside (c : Char) : Bool := c = ';' || c = ',' || c = '\'' || c = '\n' || c = '"'

theorem tagMarks_shape : ∀ mark ∈ tagMarks,
    mark.head? = some '<' ∧ 2 ≤ mark.length ∧ (∀ c ∈ mark, Text.isBlankChar c = false) ∧
      ∀ c ∈ mark, isBeside c = false := by
  simp (disch := exact rfl) only [toList_of_eq_ofList, tagMarks, List.forall_mem_cons,
    List.not_mem_nil, IsEmpty.forall_iff, implies_true]
  decide

section Marks

variable {mark s : List Char} (hmark : mark ∈ tagMarks)

include hmark

theorem length_mark : 2 ≤ mark.length := (tagMarks_shape mark hmark).2.1

theorem mark_ne_nil : mark ≠ [] := by
  rintro rfl
  exact absurd (length_mark hmark) (by decide)

theorem not_mem_mark {c : Char} (hc : isBeside c = true) : c ∉ mark := by
  intro hmem
  rw [(tagMarks_shape mark hmark).2.2.2 c hmem] at hc
  cases hc

theorem clear_of_no_bracket (hs : '<' ∉ s) : Clear mark s := by
  have hhead := (tagMarks_shape mark hmark).1
  cases mark with
  | nil => cases hhead
  | cons c mark =>
      obtain rfl := Option.some.inj hhead
      exact Text.clear_of_head_not_mem hs mark

theorem occurrences_of_no_bracket (hs : '<' ∉ s) : occurrences mark s = 0 :=
  Text.occurrences_eq_zero_of_not_mem (List.mem_of_head? (tagMarks_shape mark hmark).1) hs

/-- A value without a bracket adds no tag, whichever character stands behind it. -/
theorem occurrences_place {behind : List Char} (hs : '<' ∉ s) (hb : behind.length ≤ 1) :
    occurrences mark (s ++ behind) = 0 := by
  have hbehind : occurrences mark behind = 0 := by
    unfold occurrences
    rw [Text.behind_eq_nil_of_length_lt (Nat.lt_of_le_of_lt hb (length_mark hmark))]
    rfl
  rw [Text.occurrences_append (clear_of_no_bracket hmark hs), hbehind,
    occurrences_of_no_bracket hmark hs]

theorem occurrences_trim (s : List Char) :
    occurrences mark (Text.trim s) = occurrences mark s := by
  have hblank := (tagMarks_shape mark hmark).2.2.1
  show occurrences mark ((s.dropWhile Text.isBlankChar).rdropWhile Text.isBlankChar) = _
  rw [Text.occurrences_rdropWhile hblank (mark_ne_nil hmark),
    Text.occurrences_dropWhile hblank (mark_ne_nil hmark)]

theorem occurrences_fallback (s : List Char) :
    occurrences mark (s ++ Text.Font.genericFallback) = occurrences mark s := by
  have hfamily : '<' ∉ [' ', 's', 'a', 'n', 's', '-', 's', 'e', 'r', 'i', 'f'] := by decide
  rw [genericFallback_eq,
    Text.occurrences_append_of_not_mem (not_mem_mark hmark rfl) (mark_ne_nil hmark),
    occurrences_of_no_bracket hmark hfamily, Nat.add_zero]

/-- A font stack adds no tag to the value that it is made from. -/
theorem occurrences_stacked (value : String) :
    occurrences mark (Text.Font.stacked value).toList = occurrences mark value.toList := by
  rw [← occurrences_trim hmark value.toList]
  unfold Text.Font.stacked Text.Font.stack
  simp only [String.toList_ofList]
  split
  · rfl
  · split
    · exact occurrences_fallback hmark _
    · have hfamily : occurrences mark Text.Font.genericFallback = 0 :=
        occurrences_fallback hmark []
      rw [Text.occurrences_append_of_not_mem (not_mem_mark hmark rfl) (mark_ne_nil hmark),
        Text.occurrences_cons_of_not_mem (not_mem_mark hmark rfl) (mark_ne_nil hmark), hfamily,
        Nat.add_zero]

end Marks

section Tags

variable {mark : List Char} (hmark : mark ∈ tagMarks)

include hmark

/-- A card with harmless values has no tag. -/
theorem occurrences_fill_card {part : Part} (hdocument : part ≠ .document)
    (hstyle : part ≠ .stylesheet) {scope : Scope}
    (h : ∀ v ∈ places (stretches true scope (page part)), Harmless v.1) :
    occurrences mark (fill true scope (page part)) = 0 := by
  rw [Template.occurrences_fill_of_quiet (length_mark hmark)
    (card_texts hdocument hstyle mark (marks_of_tag hmark))
    fun v hv => .inl (clear_of_no_bracket hmark (h v hv).no_markup.1),
    List.sum_eq_zero_iff_forall_eq_nat, List.forall_mem_map]
  intro v hv
  exact occurrences_place hmark (h v hv).no_markup.1 (Template.length_behind hv)

theorem occurrences_card (total maxStars : Nat) (q : ResolvedQuestion) :
    occurrences mark (card total maxStars q).markup = 0 := by
  obtain ⟨hdocument, hstyle⟩ := partOf_ne q.answer
  exact occurrences_fill_card hmark hdocument hstyle (card_harmless q _ total)

/-! ## The stylesheet -/

/-- How often a mark occurs in the tokens of a theme, each counted once for every place that the
stylesheet has for it. -/
def inTokens (mark : List Char) (theme : Theme) : Nat :=
  5 * occurrences mark theme.primaryColor.toList + 5 * occurrences mark theme.textColor.toList +
    4 * occurrences mark theme.borderColor.toList +
    2 * occurrences mark theme.cardBackground.toList +
    5 * occurrences mark theme.fontFamily.toList

/-- **The tags in the stylesheet are those in its tokens.** -/
theorem occurrences_stylesheet (theme : Theme) (zIndex : String) :
    occurrences mark (fill false (stylesheetScope theme zIndex) stylesheet) =
      inTokens mark theme + occurrences mark zIndex.toList := by
  have hsemicolon : ';' ∉ mark := not_mem_mark hmark rfl
  have hplace (token : String) :
      occurrences mark (token.toList ++ [';']) = occurrences mark token.toList :=
    Text.occurrences_concat_of_not_mem hsemicolon (mark_ne_nil hmark) _
  rw [Template.occurrences_fill_of_quiet (length_mark hmark), stylesheet_places, List.map_map]
  · simp only [Function.comp_def, hplace, tokenPlaces, List.map_cons, List.map_nil, List.sum_cons,
      List.sum_nil, occurrences_stacked hmark, inTokens]
    omega
  · intro s hs
    have hs := (stylesheet_texts s hs).1
    exact ⟨clear_of_no_bracket hmark hs, occurrences_of_no_bracket hmark hs⟩
  · intro v hv
    rw [stylesheet_places] at hv
    obtain ⟨token, -, rfl⟩ := List.mem_map.1 hv
    exact .inr ⟨';', rfl, fun h => hsemicolon (List.dropLast_subset mark h)⟩

/-! ## The document -/

/-- **The tags in the document are its own and those in the tokens of the stylesheet.** -/
theorem occurrences_documentText (survey : Resolved) (settings : Settings) :
    occurrences mark (documentText survey settings) =
      ownOccurrences mark + inTokens mark survey.theme +
        occurrences mark settings.zIndex.toList := by
  have hescape (t : List Char) (c : Char) : occurrences mark (escape t ++ [c]) = 0 :=
    occurrences_place hmark (not_mem_escape t).2.1 (Nat.le_refl 1)
  have hline (t : List Char) : occurrences mark (t ++ ['\n']) = occurrences mark t :=
    Text.occurrences_concat_of_not_mem (not_mem_mark hmark rfl) (mark_ne_nil hmark) t
  have hcards (total maxStars : Nat) : ((survey.questions.map (card total maxStars)).map
      fun card => occurrences mark card.markup).sum = 0 := by
    rw [List.map_map, List.sum_eq_zero_iff_forall_eq_nat, List.forall_mem_map]
    intro q _
    exact occurrences_card hmark total maxStars q
  have hthankYou (isInitial : Bool) :
      occurrences mark (fill true (thankYouScope survey.thankYou isInitial) thankYou) = 0 :=
    occurrences_fill_card hmark (show Part.thankYou ≠ .document by decide) (by decide)
      (thankYou_harmless survey.thankYou isInitial)
  obtain ⟨htexts, hinner⟩ := document_texts mark (marks_of_tag hmark)
  unfold documentText
  rw [Template.occurrences_fill (length_mark hmark) htexts hinner, document_places]
  · simp only [headPlaces, List.map_append, List.map_cons, List.map_nil, List.map_map,
      Function.comp_def, List.sum_append, List.sum_cons, List.sum_nil, hescape, hline] at hcards ⊢
    rw [hcards, hthankYou, script_quiet mark (marks_of_tag hmark), occurrences_stylesheet hmark,
      ownOccurrences]
    omega
  · rw [document_places]
    have hbeside {c : Char} (s : List Char) (hc : isBeside c = true) :
        Clear mark s ∨ ∃ d, [c] = [d] ∧ d ∉ mark.dropLast :=
      .inr ⟨c, rfl, fun h => not_mem_mark hmark hc (List.dropLast_subset mark h)⟩
    simp only [headPlaces, List.forall_mem_append, List.forall_mem_cons, List.forall_mem_map]
    -- a bracket stands behind the title, and a quotation mark or a line break behind the others
    refine ⟨⟨⟨.inl (clear_of_no_bracket hmark (not_mem_escape _).2.1), hbeside _ rfl,
      hbeside _ rfl, hbeside _ rfl, hbeside _ rfl, hbeside _ rfl, hbeside _ rfl, hbeside _ rfl,
      List.forall_mem_nil _⟩, fun _ _ => hbeside _ rfl⟩, hbeside _ rfl, hbeside _ rfl,
      hbeside _ rfl, List.forall_mem_nil _⟩

end Tags

end Pages

open Pages

/-! ## Compiled documents -/

/-- Under the standard settings only the tokens of the theme add to the document's tags. -/
theorem occurrences_compiled {d : Definition} {bundle : Bundle}
    (h : compile templates d .standard = .ok bundle) {mark : List Char} (hmark : mark ∈ tagMarks) :
    occurrences mark bundle.html.toList =
      ownOccurrences mark + inTokens mark d.styling.resolve := by
  obtain ⟨survey, -, htheme, hhtml⟩ := compiled_html h
  have hheight : '<' ∉ Settings.standard.zIndex.toList := by
    simp (disch := exact rfl) only [Settings.standard, toList_of_eq_ofList]
    decide
  rw [hhtml, occurrences_documentText hmark, htheme, occurrences_of_no_bracket hmark hheight,
    Nat.add_zero]

/-- **Only the tokens of a theme can add a tag to a document.** Two scripts begin and end in it and
one stylesheet ends, and every further tag is one in a token, which is taken as it is: a colour or
the font, as often as the stylesheet has a place for it. Titles, questions, ids, names,
placeholders, the video and the closing message add none, whatever characters they hold. -/
theorem compiled_tags {d : Definition} {bundle : Bundle}
    (h : compile templates d .standard = .ok bundle) :
    occurrences "<script".toList bundle.html.toList =
        2 + inTokens "<script".toList d.styling.resolve ∧
      occurrences "</script".toList bundle.html.toList =
        2 + inTokens "</script".toList d.styling.resolve ∧
      occurrences "</style".toList bundle.html.toList =
        1 + inTokens "</style".toList d.styling.resolve := by
  obtain ⟨hscript, hscriptEnd, hstyleEnd⟩ := ownOccurrences_tags
  refine ⟨?_, ?_, ?_⟩
  · rw [occurrences_compiled h (by simp [tagMarks]), hscript]
  · rw [occurrences_compiled h (by simp [tagMarks]), hscriptEnd]
  · rw [occurrences_compiled h (by simp [tagMarks]), hstyleEnd]

/-- A script in the title and in a question's text stays text. -/
theorem compiled_tags_script_title :
    let d : Definition :=
      { Definition.blank with
        title := some "</title><script>"
        questions := [.freeText "</script></style>" none] }
    ∃ bundle, compile templates d .standard = .ok bundle ∧
      occurrences "<script".toList bundle.html.toList = 2 ∧
      occurrences "</script".toList bundle.html.toList = 2 ∧
      occurrences "</style".toList bundle.html.toList = 1 := by
  intro d
  obtain ⟨bundle, hb⟩ := (compile_templates d .standard).2 ⟨_, rfl⟩
  obtain ⟨hscript, hscriptEnd, hstyleEnd⟩ := compiled_tags hb
  refine ⟨bundle, hb, ?_, ?_, ?_⟩
  · rw [hscript]
    decide +kernel
  · rw [hscriptEnd]
    decide +kernel
  · rw [hstyleEnd]
    decide +kernel

/-- A colour that ends the stylesheet and begins a script does so in each of its five places. -/
theorem script_in_colour :
    let d : Definition :=
      { Definition.blank with
        styling := { Survey.Styling.blank with primaryColor := some "</style><script>" } }
    ∃ bundle, compile templates d .standard = .ok bundle ∧
      occurrences "<script".toList bundle.html.toList = 7 ∧
      occurrences "</style".toList bundle.html.toList = 6 := by
  intro d
  obtain ⟨bundle, hb⟩ := (compile_templates d .standard).2 ⟨_, rfl⟩
  refine ⟨bundle, hb, ?_, ?_⟩
  · rw [occurrences_compiled hb (by simp [tagMarks]), ownOccurrences_tags.1]
    decide +kernel
  · rw [occurrences_compiled hb (by simp [tagMarks]), ownOccurrences_tags.2.2]
    decide +kernel

end VideoSurvey.Overlay
