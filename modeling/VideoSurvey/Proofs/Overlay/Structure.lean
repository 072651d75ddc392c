import VideoSurvey.Proofs.Overlay.BuiltIn
import VideoSurvey.Proofs.Template.Outline

/-!
# Strings do not change the structure of a fragment

The card of a question has gaps for the question's text, placeholder, tracking id and tracking name,
and the closing card has gaps for its message and the text below it. The outline around the gaps is
the same for all questions of one kind and position (`cardOutline_blanked`), so two such cards have
the same characters of markup and differ in their gaps only. What stands in a gap reads back to the
string as it was given, also when that has entities or looks like a place of a template
(`strings_keep_structure`).
-/

set_option autoImplicit false

namespace VideoSurvey.Overlay

open Survey (Answer ResolvedQuestion ThankYou)
open Template (Outline Path fill outline openValues bounds isMarkup lines)
open Text (toList_of_eq_ofList)
open Text.Entity (escape unescape)

namespace Pages

/-! ## Gaps -/

/-- The places of a card that are left open. -/
def cardPaths : List Path :=
  [["step", "text"], ["step", "placeholder"], ["step", "track_id"], ["step", "track_name"]]

/-- The places of the closing card that are left open. -/
def thankYouPaths : List Path := [["thank_you", "message"], ["thank_you", "subtext"]]

theorem bounds_card (answer : Answer) : bounds cardPaths (page (partOf answer)) = true := by
  cases answer with
  | starRating =>
      simp (disch := exact rfl) only [partOf, page, starStep, lines, List.map_cons, List.map_nil,
        toList_of_eq_ofList]
      decide +kernel
  | text placeholder =>
      simp (disch := exact rfl) only [partOf, page, textStep, lines, List.map_cons, List.map_nil,
        toList_of_eq_ofList]
      decide +kernel

theorem bounds_thankYou : bounds thankYouPaths thankYou = true := by
  simp (disch := exact rfl) only [thankYou, lines, List.map_cons, List.map_nil,
    toList_of_eq_ofList]
  decide +kernel

/-! ## The card of a question -/

/-- The strings of a question in the order of the gaps. -/
def ownTexts (q : ResolvedQuestion) : List String :=
  match q.answer with
  | .starRating => [q.text, q.trackId, q.trackName]
  | .text placeholder => [q.text, placeholder, q.trackId, q.trackName]

/-- A question of the same kind and position whose strings are empty. -/
def blanked (q : ResolvedQuestion) : ResolvedQuestion where
  position := q.position
  text := ""
  trackId := ""
  trackName := ""
  answer :=
    match q.answer with
    | .starRating => .starRating
    | .text _ => .text ""

theorem blanked_eq {q q' : ResolvedQuestion} (hkind : partOf q.answer = partOf q'.answer)
    (hposition : q.position = q'.position) : blanked q = blanked q' := by
  obtain ⟨position, text, trackId, trackName, answer⟩ := q
  obtain ⟨position', text', trackId', trackName', answer'⟩ := q'
  obtain rfl : position = position' := hposition
  cases answer with
  | starRating =>
      cases answer' with
      | starRating => rfl
      | text placeholder' => cases hkind
  | text placeholder =>
      cases answer' with
      | starRating => cases hkind
      | text placeholder' => rfl

section Card

variable (total maxStars : Nat) (q : ResolvedQuestion)

/-- The outline of a question's card. -/
def cardOutline : Outline :=
  outline cardPaths true (stepScope q (Step.ofQuestion q total maxStars) total)
    (page (partOf q.answer))

theorem openValues_card :
    openValues cardPaths true (stepScope q (Step.ofQuestion q total maxStars) total)
      (page (partOf q.answer)) = (ownTexts q).map fun t => escape t.toList := by
  obtain ⟨position, text, trackId, trackName, answer⟩ := q
  cases answer with
  | starRating => rfl
  | text placeholder => rfl

/-- **The strings of a question are not in the outline of its card.** -/
theorem cardOutline_blanked :
    cardOutline total maxStars q = cardOutline total maxStars (blanked q) := by
  obtain ⟨position, text, trackId, trackName, answer⟩ := q
  cases answer with
  | starRating => rfl
  | text placeholder => rfl

/-- **The card of a question is its outline with the question's strings in the gaps.** -/
theorem card_holds :
    (cardOutline total maxStars (blanked q)).Holds (ownTexts q) (card total maxStars q).markup := by
  have hbounded : (cardOutline total maxStars q).Bounded :=
    Template.bounded_outline true _ (bounds_card q.answer)
  have hlength : (ownTexts q).length = (cardOutline total maxStars q).gaps := by
    have hvalues := congrArg List.length (openValues_card total maxStars q)
    rw [openValues, List.length_map, List.length_map] at hvalues
    rw [← hvalues]
    exact (Template.gaps_outline cardPaths true _ _).symm
  have hmarkup : (card total maxStars q).markup =
      (cardOutline total maxStars q).fillWith ((ownTexts q).map fun t => escape t.toList) := by
    rw [← openValues_card total maxStars q]
    exact Template.fill_eq_fillWith cardPaths true _ _
  rw [← cardOutline_blanked, hmarkup]
  exact Outline.holds hbounded hlength

end Card

/-! ## The closing card -/

/-- The outline of the closing card. -/
def thankYouOutline (isInitial : Bool) : Outline :=
  outline thankYouPaths true (thankYouScope ⟨"", "", 0⟩ isInitial) thankYou

theorem thankYou_holds (t : ThankYou) (isInitial : Bool) :
    (thankYouOutline isInitial).Holds [t.message, t.subtext]
      (fill true (thankYouScope t isInitial) thankYou) := by
  have hbounded : (thankYouOutline isInitial).Bounded :=
    Template.bounded_outline true _ bounds_thankYou
  -- neither the message nor the text below it is in the outline
  have hfill : fill true (thankYouScope t isInitial) thankYou =
      (thankYouOutline isInitial).fillWith
        ([t.message, t.subtext].map fun t => escape t.toList) :=
    Template.fill_eq_fillWith thankYouPaths true (thankYouScope t isInitial) thankYou
  rw [hfill]
  exact Outline.holds hbounded rfl

end Pages

open Pages

/-! ## Two runs -/

/-- Two markups have the same characters of markup in the same order, and both are one outline with
texts of their own in its gaps. -/
structure Alike (o : Outline) (texts texts' : List String) (markup markup' : List Char) : Prop where
  marks : markup.filter isMarkup = markup'.filter isMarkup
  first : o.Holds texts markup
  second : o.Holds texts' markup'

theorem alike_of_holds {o : Outline} {texts texts' : List String} {markup markup' : List Char}
    (h : o.Holds texts markup) (h' : o.Holds texts' markup') :
    Alike o texts texts' markup markup' :=
  ⟨h.filter_eq h', h, h'⟩

/-- **The strings of a survey do not change the structure of its fragments.** The cards of any two
questions of one kind and position have the same characters of markup; the outline that they are
made from has none of the questions' strings, and what stands in its gaps reads back to them. So it
is with any two closing cards. -/
theorem strings_keep_structure :
    (∀ (total maxStars : Nat) (q q' : ResolvedQuestion), partOf q.answer = partOf q'.answer →
      q.position = q'.position →
        ∃ c c', Card.of templates total maxStars q = .ok c ∧
          Card.of templates total maxStars q' = .ok c' ∧
          Alike (cardOutline total maxStars (blanked q)) (ownTexts q) (ownTexts q')
            c.markup c'.markup) ∧
    ∀ (t t' : ThankYou) (isInitial : Bool),
      ∃ markup markup', thankYouCard templates t isInitial = .ok markup ∧
        thankYouCard templates t' isInitial = .ok markup' ∧
        Alike (thankYouOutline isInitial) [t.message, t.subtext] [t'.message, t'.subtext]
          markup markup' := by
  constructor
  · intro total maxStars q q' hkind hposition
    refine ⟨_, _, card_of total maxStars q, card_of total maxStars q', ?_⟩
    apply alike_of_holds
    · exact card_holds total maxStars q
    · rw [blanked_eq hkind hposition]
      exact card_holds total maxStars q'
  · intro t t' isInitial
    have hcard (t : ThankYou) := render_part .thankYou (thankYou_fits t isInitial)
    exact ⟨_, _, hcard t, hcard t', alike_of_holds (thankYou_holds t isInitial)
      (thankYou_holds t' isInitial)⟩

/-- A text that looks like a place, a tracking id with entities and a name that would end its
attribute are read back as they are, and the card has the marks of a blank one. -/
theorem strings_keep_structure_hostile :
    let q : ResolvedQuestion :=
      ⟨2, "\x7b\x7b step.total \x7d\x7d", "&quot;&lt;", "\"><script>'", .text "&amp;amp;"⟩
    let q' : ResolvedQuestion := ⟨2, "", "", "", .text ""⟩
    ∃ (c c' : Card) (o : Outline), Card.of templates 3 5 q = .ok c ∧
      Card.of templates 3 5 q' = .ok c' ∧
      c.markup.filter isMarkup = c'.markup.filter isMarkup ∧
      (o.read c.markup).map unescape =
        ["\x7b\x7b step.total \x7d\x7d".toList, "&amp;amp;".toList, "&quot;&lt;".toList,
          "\"><script>'".toList] ∧
      (o.read c'.markup).map unescape = [[], [], [], []] := by
  intro q q'
  obtain ⟨c, c', hc, hc', halike⟩ := strings_keep_structure.1 3 5 q q' rfl rfl
  refine ⟨c, c', _, hc, hc', halike.marks, halike.first.read, ?_⟩
  rw [halike.second.read]
  rfl

end VideoSurvey.Overlay
