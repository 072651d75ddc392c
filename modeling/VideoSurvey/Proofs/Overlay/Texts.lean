import VideoSurvey.Proofs.Overlay.BuiltIn
import VideoSurvey.Proofs.Template.Stretches

/-!
# The texts of the built-in pages

What the templates themselves hold, apart from the values that are filled in. The tags around
scripts and stylesheets stand in the document's own texts, and so do the attributes that hold the
overlay's data, each once. No text ends in the middle of a tag or of such an attribute's name, so
none can be completed by the value behind it.
-/

set_option autoImplicit false

namespace VideoSurvey.Overlay.Pages

open Template (allTexts innerTexts outerTexts lines)
open Text (Clear occurrences toList_of_eq_ofList)

/-- The tags around scripts and stylesheets, as far as their names. -/
def tagMarks : List (List Char) := ["<script".toList, "</script".toList, "</style".toList]

/-- The attributes that hold the overlay's data. -/
inductive DataAttribute where
  | params
  | activation
  | manifest

/-- The name of an attribute. -/
def DataAttribute.name : DataAttribute → String
  | .params => "data-video-params"
  | .activation => "data-widgets-config"
  | .manifest => "data-survey-runtime"

/-- The name of an attribute with the equals sign behind it. -/
def DataAttribute.head (a : DataAttribute) : List Char := a.name.toList ++ ['=']

/-- What stands in front of the value of an attribute. -/
def DataAttribute.mark (a : DataAttribute) : List Char := a.head ++ ['"']

/-- All marks that are counted in the document. -/
def marks : List (List Char) :=
  tagMarks ++ [DataAttribute.params.mark, DataAttribute.activation.mark,
    DataAttribute.manifest.mark]

theorem marks_of_tag {mark : List Char} (h : mark ∈ tagMarks) : mark ∈ marks :=
  List.mem_append_left _ h

theorem DataAttribute.mark_mem (a : DataAttribute) : a.mark ∈ marks := by
  refine List.mem_append_right _ ?_
  cases a with
  | params => exact List.mem_cons_self
  | activation => exact List.mem_cons_of_mem _ List.mem_cons_self
  | manifest => exact List.mem_cons_of_mem _ (List.mem_cons_of_mem _ List.mem_cons_self)

/-- A question has a card. -/
theorem partOf_ne (answer : Survey.Answer) :
    partOf answer ≠ .document ∧ partOf answer ≠ .stylesheet := by
  cases answer with
  | starRating => decide
  | text placeholder => exact ⟨by rintro ⟨⟩, by rintro ⟨⟩⟩

theorem card_texts {part : Part} (hdocument : part ≠ .document) (hstyle : part ≠ .stylesheet) :
    ∀ mark ∈ marks, ∀ s ∈ allTexts (page part), Clear mark s ∧ occurrences mark s = 0 := by
  cases part with
  | document => exact absurd rfl hdocument
  | stylesheet => exact absurd rfl hstyle
  | starStep =>
      simp (disch := exact rfl) only [page, starStep, lines, List.map_cons, List.map_nil,
        toList_of_eq_ofList, marks, tagMarks, DataAttribute.mark, DataAttribute.head,
        DataAttribute.name]
      decide +kernel
  | textStep =>
      simp (disch := exact rfl) only [page, textStep, lines, List.map_cons, List.map_nil,
        toList_of_eq_ofList, marks, tagMarks, DataAttribute.mark, DataAttribute.head,
        DataAttribute.name]
      decide +kernel
  | thankYou =>
      simp (disch := exact rfl) only [page, thankYou, lines, List.map_cons, List.map_nil,
        toList_of_eq_ofList, marks, tagMarks, DataAttribute.mark, DataAttribute.head,
        DataAttribute.name]
      decide +kernel

theorem stylesheet_texts : ∀ s ∈ allTexts stylesheet, '<' ∉ s ∧ '"' ∉ s := by
  simp (disch := exact rfl) only [stylesheet, lines, List.map_cons, List.map_nil,
    toList_of_eq_ofList]
  decide +kernel

theorem document_texts : ∀ mark ∈ marks, (∀ s ∈ allTexts document, Clear mark s) ∧
    ∀ s ∈ innerTexts document, occurrences mark s = 0 := by
  simp (disch := exact rfl) only [document, lines, List.map_cons, List.map_nil,
    toList_of_eq_ofList, marks, tagMarks, DataAttribute.mark, DataAttribute.head,
        DataAttribute.name]
  decide +kernel

/-- How often a mark occurs in the document's own texts. -/
def ownOccurrences (mark : List Char) : Nat :=
  ((outerTexts document).map (occurrences mark)).sum

/-- Two scripts and one stylesheet. -/
theorem ownOccurrences_tags : ownOccurrences "<script".toList = 2 ∧
    ownOccurrences "</script".toList = 2 ∧ ownOccurrences "</style".toList = 1 := by
  simp (disch := exact rfl) only [ownOccurrences, document, lines, List.map_cons, List.map_nil,
    toList_of_eq_ofList]
  decide +kernel

theorem ownOccurrences_attribute (a : DataAttribute) : ownOccurrences a.mark = 1 := by
  cases a
  all_goals
    simp (disch := exact rfl) only [ownOccurrences, document, lines, List.map_cons, List.map_nil,
      toList_of_eq_ofList, DataAttribute.mark, DataAttribute.head,
        DataAttribute.name]
    decide +kernel

set_option maxRecDepth 100000 in
theorem script_quiet : ∀ mark ∈ marks, occurrences mark script = 0 := by
  simp (disch := exact rfl) only [script, scriptLines, lines, List.map_cons, List.map_nil,
    toList_of_eq_ofList, marks, tagMarks, DataAttribute.mark, DataAttribute.head,
        DataAttribute.name]
  decide +kernel

/-! ## In front of an attribute's value -/

/-- How many parts of the document stand in front of the value of an attribute. -/
def DataAttribute.front : DataAttribute → Nat
  | .params => 11
  | .activation => 13
  | .manifest => 15

/-- The parts in front of a value neither choose nor repeat, and their texts have the name of the
attribute once. -/
theorem front_texts (a : DataAttribute) :
    (∀ s ∈ allTexts (document.take a.front), Clear a.mark s) ∧
      innerTexts (document.take a.front) = [] ∧
      ((outerTexts (document.take a.front)).map (occurrences a.mark)).sum = 1 := by
  cases a
  all_goals
    refine ⟨?_, rfl, ?_⟩
    all_goals
      simp (disch := exact rfl) only [DataAttribute.front, document, List.take_succ_cons,
        List.take_zero, lines, List.map_cons, List.map_nil, toList_of_eq_ofList,
        DataAttribute.mark, DataAttribute.head, DataAttribute.name]
      decide +kernel

/-- The last of them is a text that ends with it. -/
theorem front_last (a : DataAttribute) :
    ∃ s, document.take a.front = document.take (a.front - 1) ++ [.text s] ∧ a.mark <:+ s := by
  cases a
  all_goals
    refine ⟨_, rfl, ?_⟩
    simp (disch := exact rfl) only [lines, List.map_cons, List.map_nil, toList_of_eq_ofList,
      DataAttribute.mark, DataAttribute.head, DataAttribute.name]
    decide +kernel

end VideoSurvey.Overlay.Pages
