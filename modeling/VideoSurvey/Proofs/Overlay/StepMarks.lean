import VideoSurvey.Proofs.Overlay.Activity
import VideoSurvey.Proofs.Template.Joints

/-!
# Ids, targets and stars in the card of a question

The script of a page finds the parts of a card by ids and classes, and the card leads to the next
one by the value of an attribute. What stands for these in the markup is a quotation mark with some
head in front of it: a blank and `id=`, the name of the attribute, or the class of a star. The
page of a card has each where it should be, and a string of the question adds one when it stands in
an attribute and ends with the head (`hits_card`); no other value of the card does.
-/

set_option autoImplicit false

namespace VideoSurvey.Overlay.Pages

open Survey (Answer ResolvedQuestion)
open Template (IsPlace Node Scope Shielded Stretch fill fill_text stretches values decided allTexts
  innerTexts outerTexts joints lines)
open Text (EndsIn hits lastCut occurrences valuesFrom toList_of_eq_ofList)
open Text.Entity (escape unescape unescape_escape not_mem_escape IsPlain)

/-! ## Heads -/

/-- The name of the attribute with an id and the equals sign behind it. -/
def idHead : List Char := "id=".toList

/-- Whether a text ends with a blank and the name of the attribute with an id. -/
def endsInId (s : List Char) : Bool :=
  s.tails.any fun t => t.head?.any Text.isBlankChar && t.tail = idHead

/-- The name of the attribute with the id of the next card and the equals sign behind it. -/
def nextHead : List Char := "data-next-step=".toList

/-- What stands in front of the id of the next card. -/
def nextMark : List Char := nextHead ++ ['"']

/-- Whether a text ends with the name of that attribute. -/
def endsInNext (s : List Char) : Bool := nextHead <:+ s

/-- The class of the star with a number. -/
def starHead (k : Nat) : List Char := "starBtn".toList ++ Json.natDigits k

/-- The class of a star at the end of an attribute. -/
def starMark (k : Nat) : List Char := starHead k ++ ['"']

/-- Whether a text ends with the class of a star. -/
def endsInStar (k : Nat) (s : List Char) : Bool := starHead k <:+ s

theorem idHead_eq : idHead = ['i', 'd', '='] := toList_of_eq_ofList rfl

theorem nextHead_eq : nextHead =
    ['d', 'a', 't', 'a', '-', 'n', 'e', 'x', 't', '-', 's', 't', 'e', 'p', '='] :=
  toList_of_eq_ofList rfl

theorem starHead_eq (k : Nat) :
    starHead k = ['s', 't', 'a', 'r', 'B', 't', 'n'] ++ Json.natDigits k :=
  congrArg (· ++ Json.natDigits k) (toList_of_eq_ofList rfl)

/-- A blank with `id=` behind it. -/
def IsIdHead (q : List Char) : Prop := ∃ c, Text.isBlankChar c = true ∧ q = c :: idHead

theorem endsIn_id : EndsIn endsInId IsIdHead where
  iff s := by
    simp only [endsInId, List.any_eq_true, Bool.and_eq_true, decide_eq_true_eq]
    constructor
    · rintro ⟨t, ht, hblank, htail⟩
      refine ⟨t, ?_, (List.mem_tails _ _).1 ht⟩
      cases t with
      | nil => cases hblank
      | cons c r => exact ⟨c, hblank, congrArg (c :: ·) htail⟩
    · rintro ⟨_, ⟨c, hc, rfl⟩, hs⟩
      exact ⟨_, (List.mem_tails _ _).2 hs, hc, rfl⟩
  plain q := by
    rintro ⟨c, hc, rfl⟩
    have hplain : IsPlain idHead := by
      rw [idHead_eq]
      decide
    have hblank := Text.Entity.isPlain_of_class rfl hc
    exact ⟨List.forall_mem_cons.2 ⟨hblank, hplain⟩, List.cons_ne_nil _ _⟩

theorem endsIn_next : EndsIn endsInNext (· = nextHead) := by
  apply Text.endsIn_suffix
  · rw [nextHead_eq]
    decide
  · rw [nextHead_eq]
    exact List.cons_ne_nil _ _

theorem endsIn_star (k : Nat) : EndsIn (endsInStar k) (· = starHead k) := by
  apply Text.endsIn_suffix
  · rw [starHead_eq]
    have hfront : IsPlain ['s', 't', 'a', 'r', 'B', 't', 'n'] := by decide
    have hdigits : IsPlain (Json.natDigits k) := isPlain_of_isDigit fun _ => Json.isDigit_natDigits
    exact List.forall_mem_append.2 ⟨hfront, hdigits⟩
  · rw [starHead_eq]
    exact List.cons_ne_nil _ _

/-! ## The texts of a card -/

/-- The page of a card whose choice is made. -/
def shownPage (chosen : Bool) (answer : Answer) : List Node := decided chosen (page (partOf answer))

/-- Two marks of an id and one of the next card are in the texts of a card, and none of a star. -/
theorem shownPage_texts (chosen : Bool) (answer : Answer) :
    (∀ t ∈ allTexts (shownPage chosen answer), t.head? = some '"' ∨ Shielded t) ∧
      (∀ t ∈ innerTexts (shownPage chosen answer),
        hits endsInId [] t = 0 ∧ hits endsInNext [] t = 0) ∧
      ((outerTexts (shownPage chosen answer)).map (hits endsInId [])).sum = 2 ∧
      ((outerTexts (shownPage chosen answer)).map (hits endsInNext [])).sum = 1 ∧
      ∀ t ∈ allTexts (shownPage chosen answer), hits (List.contains · 'B') [] t = 0 := by
  cases answer with
  | starRating =>
      simp (disch := exact rfl) only [shownPage, partOf, page, starStep, lines, List.map_cons,
        List.map_nil, toList_of_eq_ofList]
      cases chosen <;> decide +kernel
  | text placeholder =>
      simp (disch := exact rfl) only [shownPage, partOf, page, textStep, lines, List.map_cons,
        List.map_nil, toList_of_eq_ofList]
      cases chosen <;> decide +kernel

/-! ## The joints of a card -/

/-- The class of a star up to its number. -/
def starFront : List Char := "feedback-star-icon starBtn".toList

/-- What stands in front of the number in the class of a star. -/
def starOpening : List Char := lines ["", "        <div class=\"feedback-star-icon starBtn"]

/-- What stands between the two places of a star's number. -/
def starMiddle : List Char := lines ["\" data-star=\""]

/-- What stands behind a star's number. -/
def starClosing : List Char :=
  lines ["\">", "          <i class=\"far fa-star star-icons feedback-clickable\"></i>",
    "        </div>"]

/-- What stands behind the stars. -/
def starsBehind : List Char :=
  lines ["", "      </div>", "    </div>", "    <div", "      id=\""]

theorem starFront_eq : starFront =
    ['f', 'e', 'e', 'd', 'b', 'a', 'c', 'k', '-', 's', 't', 'a', 'r', '-', 'i', 'c', 'o', 'n', ' ',
      's', 't', 'a', 'r', 'B', 't', 'n'] :=
  toList_of_eq_ofList rfl

theorem star_texts :
    (starOpening.head? ≠ some '"' ∧ '"' ∈ starOpening ∧ lastCut [] starOpening = starFront) ∧
      (starMiddle.head? = some '"' ∧ lastCut [] starMiddle = []) ∧
      starClosing.head? = some '"' ∧
      starsBehind.head? ≠ some '"' ∧ '"' ∈ starsBehind ∧ lastCut [] starsBehind = [] := by
  simp (disch := exact rfl) only [starOpening, starMiddle, starClosing, starsBehind, lines,
    List.map_cons, List.map_nil, toList_of_eq_ofList, starFront_eq]
  decide +kernel

/-- The stretches of a star. -/
def starStretches (star : Json) : List Stretch :=
  [.text starOpening, .value (Template.emitted true [] star), .text starMiddle,
    .value (Template.emitted true [] star), .text starClosing]

/-- The class of a star and its number. -/
def starJoints (star : Json) : List (List Char) :=
  [starFront ++ Template.emitted true [] star, Template.emitted true [] star]

theorem joints_star (star : Json) (front : List Char) (r : List Stretch) :
    joints front (starStretches star ++ r) =
      starJoints star ++ joints (lastCut [] starClosing) r := by
  obtain ⟨⟨hopening, hopened, hfront⟩, ⟨hmiddle, hnone⟩, hclosing, -⟩ := star_texts
  simp only [starStretches, List.cons_append, List.nil_append]
  rw [Template.joints_of_mem _ hopening hopened, joints, Template.joints_of_head _ hmiddle,
    joints, Template.joints_of_head _ hclosing, hfront, hnone, List.nil_append]
  rfl

section Joints

variable (chosen : Bool) (q : ResolvedQuestion) (step : Step) (total : Nat)

/-- What stands in the attributes from the id of the submit control on. -/
def backJoints : List (List Char) :=
  [escape step.submitId.toList, escape q.trackId.toList, escape q.trackName.toList,
    escape step.next.targetId.toList]

theorem textStep_joints (placeholder : String) :
    joints [] (stretches true (stepScope q step total) (shownPage chosen (.text placeholder))) =
      [escape step.stepId.toList, escape (placeholderOf q.answer).toList] ++
        backJoints q step := by
  cases chosen with
  | true => rfl
  | false => rfl

theorem starStep_joints :
    joints [] (stretches true (stepScope q step total) (shownPage chosen .starRating)) =
      [escape step.stepId.toList, Json.natDigits (starNumbers step.maxStars).length] ++
        ((starNumbers step.maxStars).flatMap starJoints ++ backJoints q step) := by
  obtain ⟨-, -, -, hbehind, hmem, hback⟩ := star_texts
  -- what follows the stars does not look at them
  have hfront (front : List Char) : joints front (.text starsBehind ::
      stretches true (stepScope q step total) ((shownPage chosen .starRating).drop 13)) =
        joints [] (stretches true (stepScope q step total)
          ((shownPage chosen .starRating).drop 13)) := by
    rw [Template.joints_of_mem _ hbehind hmem, hback]
  have hstars := Template.joints_flatMap (starNumbers step.maxStars) starStretches starJoints
    (lastCut [] starClosing) _ (fun star _ => joints_star star)
    fun front => (hfront front).trans (hfront []).symm
  simp only [hfront] at hstars
  cases chosen with
  | true => exact congrArg ([_, _] ++ ·) (hstars _)
  | false => exact congrArg ([_, _] ++ ·) (hstars _)

end Joints

/-! ## The marks of a card -/

/-- How many of some texts have a property. -/
def endings (p : List Char → Bool) (texts : List String) : Nat := texts.countP fun t => p t.toList

/-- The classes of the stars. -/
def starClasses (maxStars : Nat) : List (List Char) :=
  (starNumbers maxStars).map fun star => starFront ++ Template.emitted true [] star

theorem card_markup_eq_shown (total maxStars : Nat) (q : ResolvedQuestion) :
    (card total maxStars q).markup =
      fill true (stepScope q (Step.ofQuestion q total maxStars) total)
        (shownPage (decide (q.position = 1)) q.answer) :=
  (Template.fill_decided (card_chosen total maxStars q)).symm

/-- No value of a card has a quotation mark. -/
theorem shownPage_values (chosen : Bool) (q : ResolvedQuestion) (step : Step) (total : Nat) :
    ∀ v ∈ values (stretches true (stepScope q step total) (shownPage chosen q.answer)),
      '"' ∉ v := by
  rw [shownPage, Template.values_decided, Template.values_eq_places, List.forall_mem_map]
  intro v hv
  exact (card_harmless q step total v hv).no_markup.2

section Marks

variable {p : List Char → Bool} {heads : List Char → Prop} (h : EndsIn p heads)

include h

omit h in
theorem countP_flatMap_starJoints {maxStars : Nat}
    (hnumber : ∀ n, p (Json.natDigits n) = false) :
    ((starNumbers maxStars).flatMap starJoints).countP p = (starClasses maxStars).countP p := by
  unfold starClasses starNumbers
  induction List.range maxStars with
  | nil => rfl
  | cons i r ih =>
      have hnone : p (Template.emitted true [] (Json.ofNat (i + 1))) = false := hnumber (i + 1)
      rw [List.map_cons, List.flatMap_cons, List.countP_append, ih, List.map_cons,
        List.countP_cons, starJoints, List.countP_cons, List.countP_singleton, hnone]
      simp only [Bool.false_eq_true, if_false]
      omega

/-- **The attributes of a card that end with a head** are classes of stars and strings of the
question, when the heads have a character that the ids of the step do not have. -/
theorem countP_card_joints {c : Char} (hheads : ∀ q, heads q → c ∈ q) (hdigit : c.isDigit = false)
    (hfronts : ∀ front ∈ idFronts, c ∉ front.toList) (hthankYou : c ∉ thankYouStepId.toList)
    (total maxStars : Nat) (q : ResolvedQuestion) (chosen : Bool) :
    (joints [] (stretches true (stepScope q (Step.ofQuestion q total maxStars) total)
        (shownPage chosen q.answer))).countP p =
      (starClasses (Step.ofQuestion q total maxStars).maxStars).countP p +
        endings p (questionTexts q) := by
  -- ids and numbers end with no head, so that only classes and strings are left
  have hnone {t : List Char} (ht : c ∉ t) : p (escape t) = false :=
    h.escape_of_not_mem hheads ht
  have hnumber (n : Nat) : p (Json.natDigits n) = false := by
    refine h.of_not_mem hheads fun hmem => ?_
    rw [Json.isDigit_natDigits hmem] at hdigit
    cases hdigit
  obtain ⟨hstep, hsubmit, hnext⟩ :=
    Step.not_mem_ids hdigit hfronts hthankYou q total maxStars
  unfold endings questionTexts
  cases hanswer : q.answer with
  | starRating =>
      rw [starStep_joints, List.countP_append, List.countP_append,
        countP_flatMap_starJoints hnumber]
      simp only [backJoints, List.countP_cons, List.countP_nil, hnone hstep, hnone hsubmit,
        hnone hnext, hnumber, h.escape_eq, placeholderOf, h.nil, String.toList_empty]
      simp only [Bool.false_eq_true, if_false]
      omega
  | text placeholder =>
      have hstars : (starClasses (Step.ofQuestion q total maxStars).maxStars).countP p = 0 := by
        have hzero : (Step.ofQuestion q total maxStars).maxStars = 0 := by
          simp only [Step.ofQuestion, hanswer]
        rw [hzero]
        rfl
      rw [textStep_joints, List.countP_append, hstars]
      simp only [backJoints, List.countP_cons, List.countP_nil, hnone hstep, hnone hsubmit,
        hnone hnext, h.escape_eq, placeholderOf, hanswer]
      simp only [Bool.false_eq_true, if_false]
      omega

/-- **The marks of a card** are those in its page's texts, those of its stars, and those that the
strings of the question make. -/
theorem hits_card {c : Char} (hheads : ∀ q, heads q → c ∈ q) (hdigit : c.isDigit = false)
    (hfronts : ∀ front ∈ idFronts, c ∉ front.toList) (hthankYou : c ∉ thankYouStepId.toList)
    {own : Nat}
    (hown : ∀ chosen answer, (∀ t ∈ innerTexts (shownPage chosen answer), hits p [] t = 0) ∧
      ((outerTexts (shownPage chosen answer)).map (hits p [])).sum = own)
    (total maxStars : Nat) (q : ResolvedQuestion) :
    hits p [] (card total maxStars q).markup =
      own + ((starClasses (Step.ofQuestion q total maxStars).maxStars).countP p +
        endings p (questionTexts q)) := by
  obtain ⟨hinner, houter⟩ := hown (decide (q.position = 1)) q.answer
  rw [card_markup_eq_shown, Template.hits_fill h (shownPage_texts _ q.answer).1 hinner
    (shownPage_values _ q _ total), houter,
    countP_card_joints h hheads hdigit hfronts hthankYou]

end Marks

/-! ### Ids and the next card -/

section Names

variable (total maxStars : Nat) (q : ResolvedQuestion)

/-- The heads of attributes have an equals sign, and classes have none. -/
theorem countP_starClasses_of_equals {p : List Char → Bool} {heads : List Char → Prop}
    (h : EndsIn p heads) (hheads : ∀ q, heads q → '=' ∈ q) (maxStars : Nat) :
    (starClasses maxStars).countP p = 0 := by
  unfold starClasses starNumbers
  rw [List.countP_eq_zero, List.forall_mem_map, List.forall_mem_map]
  intro i _
  rw [Bool.not_eq_true]
  apply h.of_not_mem hheads
  rw [List.mem_append, not_or, starFront_eq]
  refine ⟨by decide, fun hmem => ?_⟩
  exact absurd (Json.isDigit_natDigits hmem) (by decide)

theorem equals_mem_of_isIdHead {q : List Char} (h : IsIdHead q) : '=' ∈ q := by
  obtain ⟨c, -, rfl⟩ := h
  rw [idHead_eq]
  simp

theorem equals_mem_nextHead : ∀ q, q = nextHead → '=' ∈ q := by
  rintro _ rfl
  rw [nextHead_eq]
  decide

/-- **A card has two marks of an id,** and one for each string that ends like them. -/
theorem hits_card_id : hits endsInId [] (card total maxStars q).markup =
    2 + endings endsInId (questionTexts q) := by
  have hheads : ∀ q, IsIdHead q → '=' ∈ q := fun q => equals_mem_of_isIdHead
  have hown (chosen : Bool) (answer : Answer) :
      (∀ t ∈ innerTexts (shownPage chosen answer), hits endsInId [] t = 0) ∧
        ((outerTexts (shownPage chosen answer)).map (hits endsInId [])).sum = 2 := by
    obtain ⟨-, hinner, hid, -⟩ := shownPage_texts chosen answer
    exact ⟨fun t ht => (hinner t ht).1, hid⟩
  rw [hits_card endsIn_id hheads rfl (by decide) (by decide) hown,
    countP_starClasses_of_equals endsIn_id hheads, Nat.zero_add]

/-- **A card has one mark of the next card,** and one for each string that ends like it. -/
theorem hits_card_next : hits endsInNext [] (card total maxStars q).markup =
    1 + endings endsInNext (questionTexts q) := by
  have hown (chosen : Bool) (answer : Answer) :
      (∀ t ∈ innerTexts (shownPage chosen answer), hits endsInNext [] t = 0) ∧
        ((outerTexts (shownPage chosen answer)).map (hits endsInNext [])).sum = 1 := by
    obtain ⟨-, hinner, -, hnext, -⟩ := shownPage_texts chosen answer
    exact ⟨fun t ht => (hinner t ht).2, hnext⟩
  rw [hits_card endsIn_next equals_mem_nextHead rfl (by decide) (by decide) hown,
    countP_starClasses_of_equals endsIn_next equals_mem_nextHead, Nat.zero_add]

/-! ### Stars -/

/-- The digits at the end of a text are those behind its last other character. -/
theorem rtakeWhile_digits (s : List Char) (n : Nat) :
    (s ++ 'n' :: Json.natDigits n).rtakeWhile Char.isDigit = Json.natDigits n := by
  have hdigits : ∀ c ∈ (Json.natDigits n).reverse, c.isDigit = true := by
    intro c hc
    exact Json.isDigit_natDigits (List.mem_reverse.1 hc)
  rw [List.rtakeWhile, List.reverse_append, List.reverse_cons, List.append_assoc,
    List.takeWhile_append_of_pos hdigits]
  simp

theorem endsInStar_starClass {k n : Nat} :
    endsInStar k (starFront ++ Json.natDigits n) = true ↔ k = n := by
  unfold endsInStar
  rw [decide_eq_true_eq, starHead_eq, starFront_eq]
  constructor
  · rintro ⟨u, hu⟩
    -- both end with all the digits that stand there
    have hk := rtakeWhile_digits (u ++ ['s', 't', 'a', 'r', 'B', 't']) k
    have hn := rtakeWhile_digits ("feedback-star-icon starBt".toList) n
    have heq : u ++ ['s', 't', 'a', 'r', 'B', 't'] ++ 'n' :: Json.natDigits k =
        "feedback-star-icon starBt".toList ++ 'n' :: Json.natDigits n := by
      rw [List.append_assoc]
      exact hu
    rw [heq, hn] at hk
    exact numbered_inj (congrArg (fun digits => "" ++ String.ofList digits) hk.symm)
  · rintro rfl
    exact ⟨"feedback-star-icon ".toList, rfl⟩

/-- The stars have the numbers from one on. -/
theorem countP_starClasses (k maxStars : Nat) :
    (starClasses maxStars).countP (endsInStar k) = if 1 ≤ k ∧ k ≤ maxStars then 1 else 0 := by
  have hclasses : starClasses maxStars =
      (List.range maxStars).map fun i => starFront ++ Json.natDigits (i + 1) := List.map_map
  rw [hclasses, List.countP_map]
  clear hclasses
  induction maxStars with
  | zero =>
      rw [if_neg (by omega)]
      rfl
  | succ n ih =>
      have hlast : endsInStar k (starFront ++ Json.natDigits (n + 1)) = decide (k = n + 1) := by
        rw [Bool.eq_iff_iff, endsInStar_starClass, decide_eq_true_eq]
      rw [List.range_succ, List.countP_append, ih, List.countP_singleton,
        Function.comp_apply, hlast]
      simp only [decide_eq_true_eq]
      split <;> split <;> split <;> omega

/-- **A card has the mark of each of its stars once,** and one for each string that ends like it. -/
theorem occurrences_star (k : Nat) : occurrences (starMark k) (card total maxStars q).markup =
    (if 1 ≤ k ∧ k ≤ (Step.ofQuestion q total maxStars).maxStars then 1 else 0) +
      endings (endsInStar k) (questionTexts q) := by
  have hheads : ∀ q, q = starHead k → 'B' ∈ q := by
    rintro _ rfl
    rw [starHead_eq]
    exact List.mem_append_left _ (by decide)
  have hquote : '"' ∉ starHead k := (endsIn_star k).not_mem (by decide) rfl
  -- no text of a page has the letter in front of a quotation mark
  have hzero (chosen : Bool) (answer : Answer) :
      ∀ t ∈ allTexts (shownPage chosen answer), hits (endsInStar k) [] t = 0 := by
    obtain ⟨-, -, -, -, hnone⟩ := shownPage_texts chosen answer
    intro t ht
    refine Nat.eq_zero_of_le_zero ((Text.hits_le (fun s hs => ?_) [] t).trans_eq (hnone t ht))
    have hs : starHead k <:+ s := of_decide_eq_true hs
    exact List.contains_iff_mem.2 (hs.subset (hheads _ rfl))
  have hown (chosen : Bool) (answer : Answer) :
      (∀ t ∈ innerTexts (shownPage chosen answer), hits (endsInStar k) [] t = 0) ∧
        ((outerTexts (shownPage chosen answer)).map (hits (endsInStar k) [])).sum = 0 := by
    constructor
    · intro t ht
      exact hzero chosen answer t (Template.mem_allTexts_of_inner ht)
    · rw [List.sum_eq_zero_iff_forall_eq_nat, List.forall_mem_map]
      intro t ht
      exact hzero chosen answer t (Template.mem_allTexts_of_outer ht)
  have hcard := hits_card (endsIn_star k) hheads rfl (by decide) (by decide) hown total maxStars q
  rw [countP_starClasses, Nat.zero_add] at hcard
  exact (Text.occurrences_eq_hits hquote _).trans hcard

/-! ### Values behind the marks -/

/-- How many parts of a card stand in front of the id of its submit control. -/
def submitPlace : Answer → Nat
  | .starRating => 13
  | .text _ => 11

/-- How many parts of a card stand in front of the id of the next card. -/
def nextPlace : Answer → Nat
  | .starRating => 19
  | .text _ => 17

/-- The submit control and the next card have their places behind the marks. -/
theorem isPlace_submit_next (chosen : Bool) (answer : Answer) :
    IsPlace endsInId (' ' :: idHead) (shownPage chosen answer) (submitPlace answer) ∧
      IsPlace endsInNext nextHead (shownPage chosen answer) (nextPlace answer) := by
  cases answer with
  | starRating =>
      refine ⟨⟨⟨_, rfl, ?_⟩, ?_, ?_, ?_⟩, ⟨_, rfl, ?_⟩, ?_, ?_, ?_⟩
      all_goals
        simp (disch := exact rfl) only [shownPage, partOf, page, starStep, submitPlace, nextPlace,
          lines, List.map_cons, List.map_nil, toList_of_eq_ofList, idHead_eq, nextHead_eq]
        cases chosen <;> decide +kernel
  | text placeholder =>
      refine ⟨⟨⟨_, rfl, ?_⟩, ?_, ?_, ?_⟩, ⟨_, rfl, ?_⟩, ?_, ?_, ?_⟩
      all_goals
        simp (disch := exact rfl) only [shownPage, partOf, page, textStep, submitPlace, nextPlace,
          lines, List.map_cons, List.map_nil, toList_of_eq_ofList, idHead_eq, nextHead_eq]
        cases chosen <;> decide +kernel

theorem fill_place {scope : Scope} {path : Template.Path} {v : String}
    (hv : Template.lookup? scope path = some (.str v)) (r : List Node) :
    fill true scope (place path :: r) = escape v.toList ++ fill true scope r := by
  have hvalue : Template.emitted true [] (Template.valueOf scope (.path path)) =
      escape v.toList := by
    simp only [Template.valueOf, hv]
    rfl
  rw [← hvalue]
  rfl

/-- A place that emits a text, with a quotation mark behind it. -/
theorem exists_fill_place (scope : Scope) {nodes : List Node} {path : Template.Path} {v : String}
    (hv : Template.lookup? scope path = some (.str v))
    (hnodes : ∃ r more, nodes = place path :: .text (lines ("\"" :: r)) :: more) :
    ∃ r, fill true scope nodes = escape v.toList ++ '"' :: r := by
  obtain ⟨r, more, rfl⟩ := hnodes
  obtain ⟨t, ht⟩ := Template.lines_eq_cons (show "\"" = String.ofList ('"' :: []) from rfl) r
  refine ⟨t ++ fill true scope more, ?_⟩
  rw [fill_place hv, ht, fill_text]
  rfl

theorem submit_joints (chosen : Bool) (step : Step) :
    joints [] (stretches true (stepScope q step total)
      ((shownPage chosen q.answer).drop (submitPlace q.answer))) = backJoints q step := by
  obtain ⟨position, text, trackId, trackName, answer⟩ := q
  cases answer with
  | starRating => cases chosen <;> rfl
  | text placeholder => cases chosen <;> rfl

theorem next_joints (chosen : Bool) (step : Step) :
    joints [] (stretches true (stepScope q step total)
      ((shownPage chosen q.answer).drop (nextPlace q.answer))) =
        [escape step.next.targetId.toList] := by
  obtain ⟨position, text, trackId, trackName, answer⟩ := q
  cases answer with
  | starRating => cases chosen <;> rfl
  | text placeholder => cases chosen <;> rfl

/-- The values of the marks of an id in a markup, in their order, with entities undone. -/
def idValues (markup : List Char) : List (List Char) :=
  (valuesFrom endsInId [] markup).map unescape

/-- The first id of a card is that of its step. -/
theorem idValues_step : (idValues (card total maxStars q).markup)[0]? =
    some (card total maxStars q).step.stepId.toList := by
  -- the card begins with the id, so that no quotation mark is in front
  obtain ⟨r, hr⟩ := card_open total maxStars q
  have hstep : (card total maxStars q).step.stepId = stepId q.position :=
    (Step.ofQuestion_ids q total maxStars).1
  have hopen : "<div id=\"".toList = "<div id=".toList ++ ['"'] := by decide +kernel
  have hid : endsInId (lastCut [] "<div id=".toList) = true := by decide +kernel
  have hquote : '"' ∉ (stepId q.position).toList := by
    rw [← escape_stepId]
    exact (not_mem_escape _).1
  have hvalue := Text.getElem?_valuesFrom hid hquote r
  rw [show hits endsInId [] "<div id=".toList = 0 by decide +kernel] at hvalue
  rw [hstep] at hr
  rw [idValues, List.getElem?_map, hr, hopen, List.append_assoc, List.singleton_append, hvalue,
    hstep, Option.map_some, ← escape_stepId, unescape_escape, escape_stepId]

/-- From the submit control on, the marks of an id are those that the strings there make. -/
theorem countP_submit_joints (chosen : Bool) :
    (joints [] (stretches true (stepScope q (Step.ofQuestion q total maxStars) total)
      ((shownPage chosen q.answer).drop (submitPlace q.answer)))).countP endsInId =
        endings endsInId [q.trackId, q.trackName] := by
  have hheads : ∀ q, IsIdHead q → '=' ∈ q := fun q => equals_mem_of_isIdHead
  obtain ⟨-, hsubmit, hnext⟩ := Step.no_equals q total maxStars
  have hnone {t : List Char} (ht : '=' ∉ t) : endsInId (escape t) = false :=
    endsIn_id.escape_of_not_mem hheads ht
  rw [submit_joints]
  simp only [backJoints, endings, List.countP_cons, List.countP_nil, hnone hsubmit, hnone hnext,
    endsIn_id.escape_eq]
  simp only [Bool.false_eq_true, if_false]
  omega

/-- The strings of a question are its placeholder and those behind it. -/
theorem endings_questionTexts (p : List Char → Bool) : endings p (questionTexts q) =
    endings p [placeholderOf q.answer] + endings p [q.trackId, q.trackName] := by
  show List.countP _ ([placeholderOf q.answer] ++ [q.trackId, q.trackName]) = _
  exact List.countP_append

/-- **The id of the submit control** is behind that of the step, and behind the mark that the
placeholder makes. -/
theorem idValues_submit :
    (idValues (card total maxStars q).markup)[1 + endings endsInId [placeholderOf q.answer]]? =
      some (card total maxStars q).step.submitId.toList := by
  have hnodes (chosen : Bool) : ∃ r more, (shownPage chosen q.answer).drop (submitPlace q.answer) =
      place ["step", "submit_id"] :: .text (lines ("\"" :: r)) :: more := by
    cases q.answer with
    | starRating => cases chosen <;> exact ⟨_, _, rfl⟩
    | text placeholder => cases chosen <;> exact ⟨_, _, rfl⟩
  obtain ⟨r, hr⟩ := exists_fill_place (stepScope q (Step.ofQuestion q total maxStars) total) rfl
    (hnodes (decide (q.position = 1)))
  have hhits := hits_card_id total maxStars q
  rw [card_markup_eq_shown] at hhits
  -- all marks less those from the control on are the ones in front of its id
  have hvalue := (isPlace_submit_next (decide (q.position = 1)) q.answer).1.getElem? endsIn_id
    (shownPage_values _ q _ total) ⟨' ', rfl, rfl⟩ hr (not_mem_escape _).1
    (k := 1 + endings endsInId [placeholderOf q.answer]) (by
      rw [hhits, countP_submit_joints, endings_questionTexts]
      omega)
  rw [idValues, List.getElem?_map, card_markup_eq_shown, hvalue, Option.map_some, unescape_escape]
  rfl

/-- The values of the attribute are those behind the quotation marks whose front ends with it. -/
theorem attributeValues_eq_valuesFrom (markup : List Char) :
    attributeValues nextMark markup = (valuesFrom endsInNext [] markup).map unescape := by
  have hquote : '"' ∉ nextHead := endsIn_next.not_mem (by decide) rfl
  have hvalues := Text.map_behind_eq_valuesFrom hquote List.not_mem_nil markup
  exact List.map_map.symm.trans (congrArg (List.map unescape) hvalues)

/-- **The id of the next card** is behind the marks that the strings of the question make. -/
theorem attributeValues_next :
    (attributeValues nextMark (card total maxStars q).markup)[endings endsInNext
      (questionTexts q)]? = some (card total maxStars q).step.next.targetId.toList := by
  obtain ⟨-, -, hnext⟩ := Step.no_equals q total maxStars
  have hnone : endsInNext (escape (Step.ofQuestion q total maxStars).next.targetId.toList) =
      false := endsIn_next.escape_of_not_mem equals_mem_nextHead hnext
  have hnodes (chosen : Bool) : ∃ r more, (shownPage chosen q.answer).drop (nextPlace q.answer) =
      place ["step", "next_step"] :: .text (lines ("\"" :: r)) :: more := by
    cases q.answer with
    | starRating => cases chosen <;> exact ⟨_, _, rfl⟩
    | text placeholder => cases chosen <;> exact ⟨_, _, rfl⟩
  obtain ⟨r, hr⟩ := exists_fill_place (stepScope q (Step.ofQuestion q total maxStars) total) rfl
    (hnodes (decide (q.position = 1)))
  have hhits := hits_card_next total maxStars q
  rw [card_markup_eq_shown] at hhits
  -- the id is the last of these marks, and makes none itself
  have hvalue := (isPlace_submit_next (decide (q.position = 1)) q.answer).2.getElem? endsIn_next
    (shownPage_values _ q _ total) rfl hr (not_mem_escape _).1
    (k := endings endsInNext (questionTexts q)) (by
      rw [hhits, next_joints, List.countP_singleton, hnone]
      simp only [Bool.false_eq_true, if_false]
      omega)
  rw [attributeValues_eq_valuesFrom, List.getElem?_map, card_markup_eq_shown, hvalue,
    Option.map_some, unescape_escape]
  rfl

end Names

end VideoSurvey.Overlay.Pages
