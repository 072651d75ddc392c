import Mathlib.Data.List.Nodup
import VideoSurvey.Overlay.Bundle
import VideoSurvey.Proofs.Results

/-!
# The order of a template set

A template set is looked through in some order, and nothing says in which: its templates are known
by their names only. A part may have several templates, which are all those whose names end with
its name, in whatever folder and behind whatever beginning (`candidates`). Each of them is the one
that some order finds, so the order is of no account for a part exactly when it has one template,
and of none for the overlay when each part has one (`orders_agree_iff_one_each`).
-/

set_option autoImplicit false

namespace VideoSurvey.TemplateSet

/-- The templates that can render a part. -/
def candidates (set : TemplateSet) (part : Part) : TemplateSet :=
  List.filter (fun t => endsWith t.name part.name) set

variable {set set' order order' : TemplateSet} {part : Part} {t : NamedTemplate}

theorem mem_candidates : t ∈ set.candidates part ↔ t ∈ set ∧ endsWith t.name part.name = true :=
  List.mem_filter

/-- A part is rendered by its first template. -/
theorem find_eq_ok :
    set.find part.name = .ok t ↔ (set.candidates part).head? = some t := by
  unfold find candidates
  rw [List.head?_filter]
  cases List.find? (fun t => endsWith t.name part.name) set with
  | none =>
      constructor
      · rintro ⟨⟩
      · rintro ⟨⟩
  | some t' =>
      constructor
      · rintro ⟨⟩
        rfl
      · rintro ⟨⟩
        rfl

/-- A set is complete when every part has a template. -/
theorem complete_eq_ok : set.complete = .ok set ↔ ∀ part, set.candidates part ≠ [] := by
  have hpart (part : Part) : (!List.any set fun t => endsWith t.name part.name) = false ↔
      set.candidates part ≠ [] := by
    rw [Bool.not_eq_false', ne_eq, candidates, List.filter_eq_nil_iff]
    simp
  unfold complete
  cases hfind : Part.all.find? fun part => !List.any set fun t => endsWith t.name part.name with
  | some part =>
      constructor
      · rintro ⟨⟩
      · intro h
        cases (List.find?_some hfind).symm.trans ((hpart part).2 (h part))
  | none =>
      refine ⟨fun _ part => (hpart part).1 ?_, fun _ => rfl⟩
      have hall : part ∈ Part.all := by cases part <;> decide
      exact Bool.eq_false_iff.2 (List.find?_eq_none.1 hfind part hall)

/-! ## Orders -/

/-- The same templates, looked through in some order. -/
abbrev IsOrderOf (order set : TemplateSet) : Prop := List.Perm order set

section Orders

variable (h : order.IsOrderOf set)
include h

theorem candidates_perm (part : Part) :
    List.Perm (order.candidates part) (set.candidates part) :=
  h.filter _

/-- A complete set is complete in every order. -/
theorem complete_of_perm (hset : set.complete = .ok set) : order.complete = .ok order := by
  rw [complete_eq_ok] at hset ⊢
  intro part hnone
  have hperm := candidates_perm h part
  rw [hnone] at hperm
  exact hset part hperm.symm.eq_nil

/-- With one template for a part, every order finds it. -/
theorem find_of_one (hone : set.candidates part = [t]) : order.find part.name = .ok t := by
  have hperm := candidates_perm h part
  rw [hone] at hperm
  rw [find_eq_ok, List.perm_singleton.1 hperm]
  rfl

end Orders

/-- **The templates that some order finds for a part are those that can render it.** -/
theorem mem_candidates_iff_exists_order :
    t ∈ set.candidates part ↔
      ∃ order : TemplateSet, order.IsOrderOf set ∧ order.find part.name = .ok t := by
  constructor
  · intro ht
    obtain ⟨hmem, hends⟩ := mem_candidates.1 ht
    obtain ⟨front, rest, rfl⟩ := List.append_of_mem hmem
    -- the order that begins with it
    refine ⟨t :: (front ++ rest), List.perm_middle.symm, find_eq_ok.2 ?_⟩
    unfold candidates
    simp only [List.filter_cons, hends]
    rfl
  · rintro ⟨order, horder, hfind⟩
    exact (candidates_perm horder part).subset (List.mem_of_head? (find_eq_ok.1 hfind))

/-- **All orders find the same for a part exactly when it has one template.** -/
theorem find_agrees_iff (hnames : (set.map NamedTemplate.name).Nodup)
    (hset : set.complete = .ok set) (part : Part) :
    (∀ order order' : TemplateSet, order.IsOrderOf set → order'.IsOrderOf set →
      order.find part.name = order'.find part.name) ↔ (set.candidates part).length = 1 := by
  constructor
  · intro hagree
    have hnodup : (set.candidates part).Nodup := (List.Nodup.of_map _ hnames).filter _
    cases hc : set.candidates part with
    | nil => exact absurd hc (complete_eq_ok.1 hset part)
    | cons a rest =>
        cases rest with
        | nil => rfl
        | cons b rest =>
            -- one order finds the first template, and another the second
            obtain ⟨order, horder, ha⟩ := mem_candidates_iff_exists_order.1
              (show a ∈ set.candidates part by simp [hc])
            obtain ⟨order', horder', hb⟩ := mem_candidates_iff_exists_order.1
              (show b ∈ set.candidates part by simp [hc])
            have hab : a = b := by
              rw [hagree order order' horder horder', hb] at ha
              exact (Except.ok.inj ha).symm
            rw [hc, hab] at hnodup
            simp at hnodup
  · intro hone order order' horder horder'
    obtain ⟨t, ht⟩ := List.length_eq_one_iff.1 hone
    rw [find_of_one horder ht, find_of_one horder' ht]

/-! ## What an overlay depends on -/

/-- Sets that find the same template for every part render alike. -/
theorem render_congr (h : ∀ part : Part, set.find part.name = set'.find part.name) :
    set.render = set'.render := by
  funext part context
  unfold render renderNamed
  rw [h part]

end VideoSurvey.TemplateSet

namespace VideoSurvey.Overlay

theorem compile_congr {set set' : TemplateSet}
    (h : ∀ part : Part, set.find part.name = set'.find part.name) (d : Survey.Definition)
    (settings : Settings) : compile set d settings = compile set' d settings := by
  have hrender := TemplateSet.render_congr h
  unfold compile assemble cards thankYouCard stylesheet
  have hcard : Card.of set = Card.of set' := by
    unfold Card.of
    rw [hrender]
  rw [hcard, hrender]

/-- **The order of a template set is of account exactly where a part has several templates.** Take a
complete set whose templates have names of their own. Every order of it is complete. For a part, the
orders find each of its templates and no others, so they find the same exactly when the part has
one; and when each part has one, every definition compiles to the same bundle, or has the same
fault, in all orders. -/
theorem orders_agree_iff_one_each {set : TemplateSet}
    (hnames : (set.map NamedTemplate.name).Nodup) (hset : set.complete = .ok set) :
    (∀ order : TemplateSet, order.IsOrderOf set → order.complete = .ok order) ∧
      (∀ (part : Part) (t : NamedTemplate), t ∈ set.candidates part ↔
        ∃ order : TemplateSet, order.IsOrderOf set ∧ order.find part.name = .ok t) ∧
      (∀ part : Part,
        (∀ order order' : TemplateSet, order.IsOrderOf set → order'.IsOrderOf set →
          order.find part.name = order'.find part.name) ↔ (set.candidates part).length = 1) ∧
      ((∀ part : Part, (set.candidates part).length = 1) →
        ∀ order order' : TemplateSet, order.IsOrderOf set → order'.IsOrderOf set →
          ∀ (d : Survey.Definition) (settings : Settings),
            compile order d settings = compile order' d settings) := by
  refine ⟨fun order horder => TemplateSet.complete_of_perm horder hset,
    fun part t => TemplateSet.mem_candidates_iff_exists_order,
    fun part => TemplateSet.find_agrees_iff hnames hset part, ?_⟩
  intro hone order order' horder horder' d settings
  exact compile_congr (fun part =>
    (TemplateSet.find_agrees_iff hnames hset part).2 (hone part) order order' horder horder') d
    settings

/-- The templates at hand have one for each part, so they compile alike in the reverse order. -/
theorem orders_agree_iff_one_each_reversed :
    (Pages.templates.map NamedTemplate.name).Nodup ∧
      Pages.templates.complete = .ok Pages.templates ∧
      ∀ (d : Survey.Definition) (settings : Settings),
        compile (List.reverse Pages.templates) d settings = compile Pages.templates d settings := by
  have hnames : (Pages.templates.map NamedTemplate.name).Nodup := by decide
  have hset : Pages.templates.complete = .ok Pages.templates := rfl
  have hone (part : Part) : (Pages.templates.candidates part).length = 1 := by
    cases part <;> rfl
  exact ⟨hnames, hset, (orders_agree_iff_one_each hnames hset).2.2.2 hone _ _
    (List.reverse_perm _) (List.Perm.refl _)⟩

/-- A copy of a part's template under a longer name makes the order count: the bundle is one of
two. -/
theorem copy_is_found :
    ¬ ∀ set order order' : TemplateSet, (set.map NamedTemplate.name).Nodup →
      set.complete = .ok set → order.IsOrderOf set → order'.IsOrderOf set →
      (∀ part : Part, order.find part.name = order'.find part.name) ∧
        ∀ (d : Survey.Definition) (settings : Settings),
          compile order d settings = compile order' d settings := by
  intro h
  have hagree := (h
    [⟨"document.html.tera", [.text ['a']]⟩, ⟨"old/document.html.tera", [.text ['b']]⟩,
      ⟨"step_star.html.tera", []⟩, ⟨"step_text.html.tera", []⟩, ⟨"thank_you.html.tera", []⟩,
      ⟨"stylesheet.css.tera", []⟩]
    _ _ (by decide) rfl (List.Perm.refl _) (List.Perm.swap _ _ _)).2 .blank .standard
  have hhtml := congrArg (fun bundle => bundle.toOption.map Bundle.html) hagree
  revert hhtml
  decide

end VideoSurvey.Overlay
