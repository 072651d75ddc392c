import VideoSurvey.Proofs.Json.Keeping
import VideoSurvey.Proofs.Overlay.Codec
import VideoSurvey.Proofs.Overlay.Names
import VideoSurvey.Proofs.Survey.Reading

/-!
# Data read out of the document

The value of an attribute goes from its mark to the next quotation mark. The data were escaped, so
no quotation mark is in them and undoing the entities gives their text (`attributeValues_append`).
Marks that other texts make are told apart by their place: the attribute's own one stands behind
those of the icon stylesheet, the host and the video. The text there reads back to the definition's
parameters, the bundle's activation and the bundle's manifest (`compiled_data`).
-/

set_option autoImplicit false

namespace VideoSurvey.Overlay

open Survey (Definition Resolved Video)
open Template (Scope places stretches fill)
open Text (Clear occurrences)
open Text.Entity (escape unescape unescape_escape not_mem_escape)

namespace Pages

/-! ## Values of attributes -/

/-- The values behind a mark in a document, in their order. Each goes up to the next quotation mark,
and its entities are undone. -/
def attributeValues (mark html : List Char) : List (List Char) :=
  (Text.behind mark html).map fun s => unescape (s.takeWhile (· ≠ '"'))

theorem takeWhile_escape (t r : List Char) :
    (escape t ++ '"' :: r).takeWhile (· ≠ '"') = escape t := by
  have hplain : ∀ c ∈ escape t, decide (c ≠ '"') = true := by
    intro c hc
    rw [decide_eq_true_eq]
    rintro rfl
    exact (not_mem_escape t).1 hc
  rw [List.takeWhile_append_of_pos hplain]
  simp

/-- **An escaped value behind a mark is read back.** The marks before it are passed over. -/
theorem attributeValues_append {mark front : List Char} (h : Clear mark front) (hne : mark ≠ [])
    (hm : mark <:+ front) (t r : List Char) :
    (attributeValues mark (front ++ (escape t ++ '"' :: r)))[occurrences mark front - 1]? =
      some t := by
  unfold attributeValues
  rw [List.getElem?_map, Text.getElem?_behind_append h hne hm, Option.map_some, takeWhile_escape,
    unescape_escape]

namespace DataAttribute

variable (a : DataAttribute)

/-- How many of some texts end with the name of an attribute and an equals sign. -/
def endings (texts : List String) : Nat := (texts.map fun t => a.ends t.toList).sum

/-- The value that an attribute is filled with. -/
def member : DataAttribute → String
  | .params => "video_params_json"
  | .activation => "widget_config_json"
  | .manifest => "manifest_json"

/-- What an attribute holds. -/
def content (survey : Resolved) (settings : Settings) : DataAttribute → Json
  | .params => .obj survey.video.params
  | .activation => (Activation.of survey settings).toJson
  | .manifest => (manifestOf survey settings (stepsOf survey)).toJson

theorem clear_of_suffix {s : List Char} (h : a.mark <:+ s) : Clear a.mark s :=
  a.isHead.clear_of_suffix h

end DataAttribute

/-! ## In front of an attribute's value -/

section Front

variable (a : DataAttribute) (survey : Resolved) (settings : Settings)

/-- The values that a survey's document is filled with. -/
def scopeOf : Scope :=
  let manifest := manifestOf survey settings (stepsOf survey)
  documentScope survey settings manifest (Activation.of survey settings)
    (survey.questions.map (card survey.questions.length survey.maxStars))
    (fill true (thankYouScope survey.thankYou (manifest.initial = .thankYou)) thankYou)
    (fill false (stylesheetScope survey.theme settings.zIndex) stylesheet)

/-- The document up to the value of an attribute. -/
def frontText : List Char := fill true (scopeOf survey settings) (document.take a.front)

theorem documentText_eq_fill :
    documentText survey settings = fill true (scopeOf survey settings) document := rfl

/-- The value has a place of its own, and a quotation mark stands behind it. -/
theorem drop_front : ∃ t more, document.drop a.front =
    place [a.member] :: .text ('"' :: t) :: more := by
  have hshape : ∃ s l r more, s = String.ofList ('"' :: l) ∧
      document.drop a.front = place [a.member] :: .text (Template.lines (s :: r)) :: more := by
    cases a with
    | params => exact ⟨"\"", [], _, _, rfl, rfl⟩
    | activation => exact ⟨"\"", [], _, _, rfl, rfl⟩
    | manifest => exact ⟨"\">", ['>'], _, _, rfl, rfl⟩
  obtain ⟨s, l, r, more, hs, hdrop⟩ := hshape
  obtain ⟨t, ht⟩ := Template.lines_eq_cons hs r
  exact ⟨t, more, by rw [hdrop, ht]⟩

theorem emitted_content : Template.emitted true []
    (Template.valueOf (scopeOf survey settings) (.path [a.member])) =
      escape (a.content survey settings).compactText.toList := by
  have hlookup : Template.lookup? (scopeOf survey settings) [a.member] =
      some (.str (a.content survey settings).compactText) := by
    unfold scopeOf documentScope DataAttribute.member DataAttribute.content
    cases a
    all_goals simp [Template.lookup?, Template.follow?]
  simp only [Template.valueOf, hlookup]
  rfl

theorem documentText_eq_append : ∃ r, documentText survey settings =
    frontText a survey settings ++
      (escape (a.content survey settings).compactText.toList ++ '"' :: r) := by
  obtain ⟨t, more, hdrop⟩ := drop_front a
  refine ⟨t ++ fill true (scopeOf survey settings) more, ?_⟩
  have hrest : fill true (scopeOf survey settings) (document.drop a.front) =
      escape (a.content survey settings).compactText.toList ++
        '"' :: (t ++ fill true (scopeOf survey settings) more) := by
    rw [hdrop, ← emitted_content, Template.fill_eq_chars, Template.fill_eq_chars]
    rfl
  rw [documentText_eq_fill, ← List.take_append_drop a.front document, Template.fill_append, hrest]
  rfl

theorem mark_suffix_frontText : a.mark <:+ frontText a survey settings := by
  obtain ⟨s, hs, hmark⟩ := front_last a
  have hlast : fill true (scopeOf survey settings) [.text s] = s := by
    simp [Template.fill_eq_chars, Template.Stretch.chars]
  unfold frontText
  -- what is filled in before the last text does not matter
  rw [hs, Template.fill_append, hlast]
  exact hmark.trans (List.suffix_append _ s)

/-- Texts and values take turns in front of the data. -/
theorem length_front_places (scope : Scope) :
    (places (stretches true scope (document.take a.front))).length = a.front / 2 := by
  cases a
  all_goals
    simp only [DataAttribute.front, document, List.take_succ_cons, List.take_zero, place, verbatim,
      Template.stretches_text, Template.stretches_emit, Template.stretches_nil, places,
      List.length_cons, List.length_nil]

/-- The values in front of an attribute's are the first ones of the document. -/
theorem front_places : places (stretches true (scopeOf survey settings) (document.take a.front)) =
    (headPlaces survey settings (manifestOf survey settings (stepsOf survey))
      (Activation.of survey settings)
      (fill false (stylesheetScope survey.theme settings.zIndex) stylesheet)).take
        (a.front / 2) := by
  obtain ⟨s, hs, hmark⟩ := front_last a
  obtain ⟨c, t, rfl⟩ : ∃ c t, s = c :: t :=
    List.exists_cons_of_ne_nil (List.ne_nil_of_mem (hmark.subset a.quote_mem_mark))
  have hsplit : document.take (a.front - 1) ++ .text (c :: t) :: document.drop a.front =
      document := by
    rw [List.append_cons, ← hs, List.take_append_drop]
  have hfront : stretches true (scopeOf survey settings) (document.take a.front) =
      stretches true (scopeOf survey settings) (document.take (a.front - 1)) ++
        [.text (c :: t)] := by
    rw [hs, Template.stretches_append, Template.stretches_text, Template.stretches_nil]
  -- the text with the mark keeps the values behind it apart from those in front of it
  have happend := Template.places_append_text
    (stretches true (scopeOf survey settings) (document.take (a.front - 1))) c t
    (stretches true (scopeOf survey settings) (document.drop a.front))
  rw [← Template.stretches_text, ← Template.stretches_append, hsplit, ← hfront] at happend
  have hle : a.front / 2 ≤ 8 := by
    cases a
    all_goals decide
  calc
    places (stretches true (scopeOf survey settings) (document.take a.front)) =
        (places (stretches true (scopeOf survey settings) document)).take (a.front / 2) := by
      rw [happend, List.take_left' (length_front_places a (scopeOf survey settings))]
    _ = _ := by
      unfold scopeOf
      rw [document_places, List.append_assoc]
      exact List.take_append_of_le_length hle

/-- **The marks in front of an attribute's value** are its own and those that the texts ahead
make. -/
theorem occurrences_frontText (h : NoQuote survey.theme settings.zIndex) :
    occurrences a.mark (frontText a survey settings) =
      1 + a.endings (textsAhead survey settings) := by
  obtain ⟨htexts, hinner, hown⟩ := front_texts a
  have hhead := occurrences_headPlaces_attribute a survey settings h
  have hplaces := front_places a survey settings
  have hapart : ∀ v ∈ places (stretches true (scopeOf survey settings) (document.take a.front)),
      Clear a.mark v.1 ∨ ∃ c, v.2 = [c] ∧ c ∉ a.mark.dropLast := by
    intro v hv
    rw [hplaces] at hv
    have hv := List.mem_of_mem_take hv
    refine a.apart (document_closed survey settings (manifestOf survey settings (stepsOf survey))
      (Activation.of survey settings) [] []
      (fill false (stylesheetScope survey.theme settings.zIndex) stylesheet) v ?_)
    rw [document_places]
    exact List.mem_append_left _ (List.mem_append_left _ hv)
  have hquiet : ∀ s ∈ Template.innerTexts (document.take a.front), occurrences a.mark s = 0 := by
    rw [hinner]
    exact List.forall_mem_nil _
  unfold frontText
  rw [Template.occurrences_fill a.length_mark htexts hquiet hapart, hown, hplaces, List.map_take,
    hhead]
  unfold DataAttribute.endings textsAhead
  -- the data in front of these add nothing: a text of JSON does not end with a name
  cases a
  all_goals simp [DataAttribute.front]

/-- **The data in an attribute**, behind the marks that the texts ahead make. -/
theorem value_documentText (h : NoQuote survey.theme settings.zIndex) :
    (attributeValues a.mark (documentText survey settings))[a.endings
      (textsAhead survey settings)]? =
        some (a.content survey settings).compactText.toList := by
  obtain ⟨r, hr⟩ := documentText_eq_append a survey settings
  have hsuffix := mark_suffix_frontText a survey settings
  have hvalue := attributeValues_append (a.clear_of_suffix hsuffix) a.mark_ne_nil hsuffix
    (a.content survey settings).compactText.toList r
  -- counted from zero, the attribute's own mark is behind those that the texts ahead make
  rwa [occurrences_frontText a survey settings h, Nat.add_sub_cancel_left, ← hr] at hvalue

end Front

/-- A document carries a text in one of its attributes: the attribute's mark is in it once, and once
more for each text in another attribute that ends with the name and an equals sign, and the text is
the value behind the marks that the texts ahead make. -/
structure Carries (a : DataAttribute) (survey : Resolved) (settings : Settings) (html : List Char)
    (text : String) : Prop where
  marks : occurrences a.mark html =
    1 + a.endings (textsAhead survey settings ++ textsBehind survey settings)
  value : (attributeValues a.mark html)[a.endings (textsAhead survey settings)]? = some text.toList

theorem documentText_carries (a : DataAttribute) {survey : Resolved} {settings : Settings}
    (h : NoQuote survey.theme settings.zIndex) :
    Carries a survey settings (documentText survey settings)
      (a.content survey settings).compactText :=
  ⟨occurrences_documentText_attribute a survey settings h, value_documentText a survey settings h⟩

end Pages

/-! ## Contents -/

/-- What holds of a value that is given and of the default holds of the value that is taken. -/
theorem getD_of_forall {α : Type} {P : α → Prop} {given : Option α} {default : α}
    (h : ∀ a ∈ given, P a) (hdefault : P default) : P (given.getD default) := by
  cases given with
  | none => exact hdefault
  | some a => exact h a rfl

theorem Transition.initial_fits (total : Nat) : (Transition.initial total).Fits := by
  unfold Transition.initial
  split
  · trivial
  · exact Nat.zero_le _

theorem Transition.after_fits (index : Nat) {total : Nat} (h : total ≤ 18446744073709551616) :
    (Transition.after index total).Fits := by
  unfold Transition.after
  split
  · show index + 1 ≤ 18446744073709551615
    omega
  · trivial

theorem Step.ofQuestion_maxStars_le (q : Survey.ResolvedQuestion) (total maxStars : Nat) :
    (Step.ofQuestion q total maxStars).maxStars ≤ maxStars := by
  unfold Step.ofQuestion
  cases q.answer with
  | starRating => exact Nat.le_refl _
  | text placeholder => exact Nat.zero_le _

theorem read_params {v : Video} (hlegible : v.Legible) (hwhole : v.HasWholeNumbers) :
    Json.read (Json.obj v.params).compactText = .ok (.obj v.params) := by
  have hdepth : (Json.obj v.params).depth ≤ Json.greatestDepth :=
    Nat.le_trans hlegible.depth (by decide)
  exact Json.Keepable.read ⟨hlegible.ordered, hdepth, hwhole.params⟩

section Resolved

variable {d : Definition} {survey : Resolved} (h : d.resolve = .ok survey)

include h

/-- The video, the theme and the closing message do not depend on the questions. -/
theorem resolve_parts : survey.video = d.video.resolve ∧ survey.theme = d.styling.resolve ∧
    survey.thankYou = d.thankYou := by
  obtain ⟨questions, maxStars, -, -, rfl⟩ := Survey.Definition.resolve_eq_ok.1 h
  exact ⟨rfl, rfl, rfl⟩

theorem activation_whole (hwhole : d.video.HasWholeNumbers) (settings : Settings) :
    ∀ e ∈ (Activation.of survey settings).markup, e.HasWholeTimes := by
  intro e he
  obtain rfl := List.mem_singleton.1 he
  unfold MarkupEntry.HasWholeTimes
  rw [(resolve_parts h).1]
  -- the default times are whole as well
  exact ⟨getD_of_forall hwhole.startTime (by decide),
    getD_of_forall hwhole.endTime (by decide)⟩

theorem manifestOf_fits (hlegible : d.video.Legible)
    (hduration : ∀ n ∈ d.thankYouDuration, n ≤ 18446744073709551615)
    (hcount : d.questions.length ≤ 18446744073709551616) {settings : Settings}
    (hdelay : settings.transitionDelayMs ≤ 18446744073709551615) :
    (manifestOf survey settings (stepsOf survey)).Fits := by
  have htotal : survey.questions.length ≤ 18446744073709551616 := by
    rw [← stepsOf_length, stepsOf_length_eq h]
    exact hcount
  have hstars : survey.maxStars ≤ 10 := maxStars_le h
  refine ⟨Transition.initial_fits _, ?_, ?_, hdelay, ?_⟩
  · intro s hs
    obtain ⟨q, -, rfl⟩ := List.mem_map.1 (show s ∈ stepsOf survey from hs)
    have hle := Step.ofQuestion_maxStars_le q survey.questions.length survey.maxStars
    refine ⟨by omega, ?_⟩
    rw [Step.ofQuestion_next]
    exact Transition.after_fits _ htotal
  · show survey.thankYou.durationMs ≤ 18446744073709551615
    rw [(resolve_parts h).2.2]
    exact getD_of_forall hduration (by decide)
  · show -9223372036854775808 ≤ survey.video.continueTime ∧
      survey.video.continueTime ≤ 9223372036854775807
    rw [(resolve_parts h).1]
    exact getD_of_forall hlegible.continueTime (by decide)

end Resolved

open Pages

/-! ## Compiled documents -/

/-- **The data in a compiled document are read back**, whatever characters the definition's texts
hold: the parameters as the definition has them, the activation and the manifest as the bundle has
them. The video's numbers are integers that are kept exactly, no token of the styling has a
quotation mark, and the number of questions and the delay fit 64 bits. -/
theorem compiled_data {raw : String} {d : Definition} {settings : Settings} {bundle : Bundle}
    (hraw : Definition.ofText raw = .ok d) (h : compile templates d settings = .ok bundle)
    (hwhole : d.video.HasWholeNumbers) (hstyling : NoQuoteGiven d.styling)
    (hheight : '"' ∉ settings.zIndex.toList)
    (hcount : d.questions.length ≤ 18446744073709551616)
    (hdelay : settings.transitionDelayMs ≤ 18446744073709551615) :
    ∃ survey, d.resolve = .ok survey ∧
      (∃ text, Carries .params survey settings bundle.html.toList text ∧
        Json.read text = .ok (.obj d.video.params)) ∧
      (∃ text, Carries .activation survey settings bundle.html.toList text ∧
        Activation.decoder.ofText text = .ok bundle.activation) ∧
      ∃ text, Carries .manifest survey settings bundle.html.toList text ∧
        Manifest.decoder.ofText text = .ok bundle.manifest := by
  obtain ⟨hlegible, hduration⟩ := Definition.legible_of_ofText hraw
  obtain ⟨survey, hr, rfl⟩ := compile_templates_eq_ok.1 h
  obtain ⟨hvideo, htheme, -⟩ := resolve_parts hr
  have hquote : NoQuote survey.theme settings.zIndex := htheme ▸ no_quote_resolve hstyling hheight
  have hcarries (a : DataAttribute) : Carries a survey settings
      (String.ofList (documentText survey settings)).toList
      (a.content survey settings).compactText := by
    rw [String.toList_ofList]
    exact documentText_carries a hquote
  have hparams : Json.read (Json.obj survey.video.params).compactText =
      .ok (.obj d.video.params) := by
    rw [hvideo]
    exact read_params hlegible hwhole
  have hactivation := Activation.ofText_compactText (activation_whole hr hwhole settings)
  have hfits := manifestOf_fits hr hlegible hduration hcount hdelay
  have hmanifest := Manifest.ofText_compactText hfits
  exact ⟨survey, hr, ⟨_, hcarries .params, hparams⟩, ⟨_, hcarries .activation, hactivation⟩,
    _, hcarries .manifest, hmanifest⟩

/-- Entities and quotation marks in a parameter and in a question come back as they were. -/
theorem compiled_data_quoted_parameter :
    let raw := "\x7b\"questions\":[\x7b\"type\":\"text\",\"text\":\"&quot;\\\"\"\x7d]," ++
      "\"videoConfig\":\x7b\"params\":\x7b\"note\":\"&amp;\\\"\"\x7d\x7d\x7d"
    ∃ d bundle text, Definition.ofText raw = .ok d ∧
      compile templates d .standard = .ok bundle ∧
      occurrences DataAttribute.params.mark bundle.html.toList = 1 ∧
      (attributeValues DataAttribute.params.mark bundle.html.toList)[0]? = some text.toList ∧
      Json.read text = .ok (.obj [("note", .str "&amp;\"")]) := by
  intro raw
  let v : Json := .obj
    [("questions", .arr [.obj [("type", .str "text"), ("text", .str "&quot;\"")]]),
      ("videoConfig", .obj [("params", .obj [("note", .str "&amp;\"")])])]
  let d : Definition :=
    { Definition.blank with
      questions := [.freeText "&quot;\"" none]
      video := { Video.blank with params := [("note", .str "&amp;\"")] } }
  have hraw : Definition.ofText raw = .ok d := by
    rw [show raw = v.compactText by decide +kernel,
      Definition.ofText_compactText (by decide) (by decide)]
    rfl
  obtain ⟨bundle, hb⟩ := (compile_templates d .standard).2 ⟨_, rfl⟩
  have hwhole : d.video.HasWholeNumbers :=
    { Video.blank_hasWholeNumbers with params := by decide }
  obtain ⟨survey, hr, ⟨text, hcarries, htext⟩, -⟩ :=
    compiled_data hraw hb hwhole noQuoteGiven_blank (by decide) (by decide) (by decide)
  obtain rfl : _ = survey := Except.ok.inj hr
  refine ⟨d, bundle, text, hraw, hb, ?_, ?_, htext⟩
  · rw [hcarries.marks]
    decide +kernel
  · exact hcarries.value

/-- A tracking id that ends with the name of an attribute makes the mark again. -/
theorem mark_in_trackId :
    let raw := "\x7b\"questions\":[\x7b\"type\":\"text\",\"text\":\"Why?\"," ++
      "\"trackId\":\"data-video-params=\"\x7d]\x7d"
    ∃ d bundle, Definition.ofText raw = .ok d ∧ compile templates d .standard = .ok bundle ∧
      d.video.HasWholeNumbers ∧ NoQuoteGiven d.styling ∧
      occurrences DataAttribute.params.mark bundle.html.toList = 2 := by
  intro raw
  let v : Json := .obj
    [("questions", .arr [.obj [("type", .str "text"), ("text", .str "Why?"),
      ("trackId", .str "data-video-params=")]])]
  let q : Survey.Question :=
    { Survey.Question.freeText "Why?" none with trackId := some "data-video-params=" }
  let d : Definition := { Definition.blank with questions := [q] }
  have hraw : Definition.ofText raw = .ok d := by
    rw [show raw = v.compactText by decide +kernel,
      Definition.ofText_compactText (by decide) (by decide)]
    rfl
  obtain ⟨bundle, hb⟩ := (compile_templates d .standard).2 ⟨_, rfl⟩
  obtain ⟨survey, hr, htheme, hhtml⟩ := compiled_html hb
  refine ⟨d, bundle, hraw, hb, Video.blank_hasWholeNumbers, noQuoteGiven_blank, ?_⟩
  have hquote : NoQuote survey.theme Settings.standard.zIndex :=
    htheme ▸ no_quote_resolve noQuoteGiven_blank (by decide)
  rw [hhtml, occurrences_documentText_attribute _ _ _ hquote]
  obtain rfl : _ = survey := Except.ok.inj hr
  decide +kernel

end VideoSurvey.Overlay
