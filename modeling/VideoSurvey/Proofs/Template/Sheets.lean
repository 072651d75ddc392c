import VideoSurvey.Proofs.Template.Outline

/-!
# Templates of texts and labelled places

A template that neither chooses nor repeats is a sheet: fixed texts, and places that each have a
label. The template as it is written and whatever is rendered from it are this one sheet with other
things in its places: the tags (`source_nodes`), or the values that the labels lead to
(`fill_nodes`). So a value is put in once and is not looked at again.

With the places of one label left open a sheet is an outline. Two texts whose values differ for that
label alone are the same outline with their own value in its gaps (`write_eq_fillWith`,
`leaving_congr`).
-/

set_option autoImplicit false

namespace VideoSurvey.Template

/-- A part of a sheet. -/
inductive Slot (κ : Type) where
  /-- A text that is fixed. -/
  | text (s : List Char)
  /-- A place with a label. -/
  | place (label : κ)
deriving DecidableEq, Repr

/-- Fixed texts and labelled places. -/
abbrev Sheet (κ : Type) := List (Slot κ)

namespace Sheet

variable {κ : Type}

/-- A sheet with something said for each label in its places. -/
def write (say : κ → List Char) : Sheet κ → List Char
  | [] => []
  | .text s :: r => s ++ write say r
  | .place label :: r => say label ++ write say r

/-- The template of a sheet, in which every label is a path. -/
def nodes (path : κ → Path) : Sheet κ → List Node
  | [] => []
  | .text s :: r => .text s :: nodes path r
  | .place label :: r => .emit (.path (path label)) [] :: nodes path r

/-! ## What stands in the places -/

section Nodes

variable {path : κ → Path}

/-- **A template as it is written is its sheet with a tag in every place.** -/
theorem source_nodes (sheet : Sheet κ) :
    source (nodes path sheet) = sheet.write fun label => emission (pathText (path label)) := by
  induction sheet with
  | nil => rfl
  | cons slot r ih =>
      cases slot with
      | text s => rw [nodes, source, nodeSource, ih, write]
      | place label =>
          -- there is no filter behind the path
          rw [nodes, source, nodeSource, ih, write, List.flatMap_nil, List.append_nil]
          rfl

variable {scope : Scope} {value : κ → String}

/-- **A filled template is its sheet with a value in every place.** -/
theorem fill_nodes (hvalue : ∀ label, lookup? scope (path label) = some (.str (value label)))
    (sheet : Sheet κ) :
    fill false scope (nodes path sheet) = sheet.write fun label => (value label).toList := by
  induction sheet with
  | nil => rfl
  | cons slot r ih =>
      cases slot with
      | text s => rw [nodes, fill, fillNode, ih, write]
      | place label =>
          have hplace : valueOf scope (.path (path label)) = .str (value label) := by
            rw [valueOf, hvalue label, Option.getD_some]
          -- nothing is escaped, so the text of the value is its characters
          rw [nodes, fill, fillNode, hplace, ih, write]
          rfl

end Nodes

/-! ## One label left open -/

section Leaving

variable [DecidableEq κ]

/-- A sheet in which the places of one label are left open. -/
def leaving (label : κ) (say : κ → List Char) : Sheet κ → Outline
  | [] => []
  | .text s :: r => .fixed s :: leaving label say r
  | .place other :: r =>
      (if other = label then .gap else .fixed (say other)) :: leaving label say r

/-- What is said for the label that is left open does not matter. -/
theorem leaving_congr {label : κ} {say say' : κ → List Char}
    (hsay : ∀ other, other ≠ label → say other = say' other) (sheet : Sheet κ) :
    sheet.leaving label say = sheet.leaving label say' := by
  induction sheet with
  | nil => rfl
  | cons slot r ih =>
      cases slot with
      | text s => rw [leaving, leaving, ih]
      | place other =>
          rw [leaving, leaving, ih]
          by_cases hother : other = label
          · rw [if_pos hother, if_pos hother]
          · rw [if_neg hother, if_neg hother, hsay other hother]

theorem count_text (label : κ) (s : List Char) (r : Sheet κ) :
    (Slot.text s :: r).count (.place label) = r.count (.place label) := by
  apply List.count_cons_of_ne
  rintro ⟨⟩

theorem count_place_of_ne {label other : κ} (hother : other ≠ label) (r : Sheet κ) :
    (Slot.place other :: r).count (.place label) = r.count (.place label) := by
  apply List.count_cons_of_ne
  intro hplace
  exact hother (Slot.place.inj hplace)

/-- There is a gap for each place of the label. -/
theorem gaps_leaving (label : κ) (say : κ → List Char) (sheet : Sheet κ) :
    (sheet.leaving label say).gaps = sheet.count (.place label) := by
  induction sheet with
  | nil => rfl
  | cons slot r ih =>
      cases slot with
      | text s => rw [leaving, Outline.gaps, ih, count_text]
      | place other =>
          by_cases hother : other = label
          · rw [leaving, if_pos hother, Outline.gaps, ih, hother, List.count_cons_self]
          · rw [leaving, if_neg hother, Outline.gaps, ih, count_place_of_ne hother]

/-- **A sheet is what it leaves open, with the label's own text in every gap.** -/
theorem write_eq_fillWith (label : κ) (say : κ → List Char) (sheet : Sheet κ) :
    sheet.write say =
      (sheet.leaving label say).fillWith
        (List.replicate (sheet.count (.place label)) (say label)) := by
  induction sheet with
  | nil => rfl
  | cons slot r ih =>
      cases slot with
      | text s => rw [write, leaving, Outline.fillWith, count_text, ih]
      | place other =>
          by_cases hother : other = label
          · -- one gap more, and one text more for it
            rw [write, leaving, if_pos hother, hother, List.count_cons_self, List.replicate_succ,
              Outline.fillWith, ih]
          · rw [write, leaving, if_neg hother, Outline.fillWith, count_place_of_ne hother, ih]

end Leaving

end Sheet

end VideoSurvey.Template
