import VideoSurvey.Proofs.Template.Filling
import VideoSurvey.Proofs.Text.Occurrences

/-!
# Outlines of templates

A template with some of its places left open is filled to an outline: fixed texts with gaps between
them. Values without the characters that markup is made with change nothing about these characters
(`filter_fillWith`), and they are found again when each gap goes up to the text behind it
(`read_fillWith`). So escaped texts in the gaps are read back by undoing the entities
(`Outline.holds`), whatever they hold: nothing that is filled in is looked at again.
-/

set_option autoImplicit false

namespace VideoSurvey.Template

open Text.Entity (escape unescape unescape_escape not_mem_escape)

/-- The characters that markup is made with. -/
def isMarkup (c : Char) : Bool := c = '<' || c = '>' || c = '"' || c = '\''

/-- A part of an outline. -/
inductive Segment where
  /-- A text that is fixed. -/
  | fixed (s : List Char)
  /-- A place that is left open. -/
  | gap

/-- Fixed texts and gaps. -/
abbrev Outline := List Segment

/-- The text in front of the first occurrence of another. -/
def upTo (mark : List Char) : List Char → List Char
  | [] => []
  | c :: r => if mark <+: c :: r then [] else c :: upTo mark r

namespace Outline

/-- The number of gaps. -/
def gaps : Outline → Nat
  | [] => 0
  | .fixed _ :: r => gaps r
  | .gap :: r => gaps r + 1

/-- An outline with values in its gaps, in their order; a gap without a value stays empty. -/
def fillWith : Outline → List (List Char) → List Char
  | [], _ => []
  | .fixed s :: r, values => s ++ fillWith r values
  | .gap :: r, [] => fillWith r []
  | .gap :: r, v :: values => v ++ fillWith r values

/-- The fixed text that an outline begins with. -/
def opening : Outline → List Char
  | .fixed s :: _ => s
  | _ => []

/-- What stands in the gaps of an outline. Each gap goes up to the text behind it. -/
def read : Outline → List Char → List (List Char)
  | [], _ => []
  | .fixed s :: r, text => read r (text.drop s.length)
  | .gap :: r, text =>
      let v := upTo (opening r) text
      v :: read r (text.drop v.length)

/-- Behind each gap stands a text with a character of markup. -/
def Bounded : Outline → Prop
  | [] => True
  | .fixed _ :: r => Bounded r
  | .gap :: r => (∃ c ∈ opening r, isMarkup c = true) ∧ Bounded r

end Outline

/-! ## Filling and reading -/

/-- No character of the value is one of markup. -/
def Unmarked (v : List Char) : Prop := ∀ c ∈ v, isMarkup c = false

theorem unmarked_escape (t : List Char) : Unmarked (escape t) := by
  obtain ⟨hquote, hless, hgreater, hsingle, -⟩ := not_mem_escape t
  intro c hc
  simp only [isMarkup, Bool.or_eq_false_iff, decide_eq_false_iff_not]
  refine ⟨⟨⟨?_, ?_⟩, ?_⟩, ?_⟩
  · rintro rfl
    exact hless hc
  · rintro rfl
    exact hgreater hc
  · rintro rfl
    exact hquote hc
  · rintro rfl
    exact hsingle hc

theorem unmarked_texts (texts : List String) :
    ∀ v ∈ texts.map fun t => escape t.toList, Unmarked v := by
  rw [List.forall_mem_map]
  intro t _
  exact unmarked_escape t.toList

section Reading

variable {mark v r : List Char}

/-- A text with a character of markup does not begin inside a value. -/
theorem not_prefix_of_unmarked {c : Char} (hmark : ∃ d ∈ mark, isMarkup d = true)
    (hv : Unmarked (c :: v)) : ¬ mark <+: c :: v ++ (mark ++ r) := by
  obtain ⟨d, hd⟩ := Option.isSome_iff_exists.1 (List.find?_isSome.2 hmark)
  obtain ⟨hmarkup, b, m, rfl, hb⟩ := List.find?_eq_some_iff_append.1 hd
  intro hprefix
  -- its first such character would stand in the value or in front of its own place
  have hshort : b ++ [d] <+: c :: v ++ b := by
    have hfirst : b ++ [d] <+: c :: v ++ (b ++ d :: m ++ r) := by
      refine List.IsPrefix.trans ⟨m, ?_⟩ hprefix
      simp
    refine List.prefix_of_prefix_length_le hfirst ⟨d :: m ++ r, by simp⟩ ?_
    simp
  have hmem : d ∈ c :: v ++ b := hshort.subset (by simp)
  rcases List.mem_append.1 hmem with hmem | hmem
  · rw [hv d hmem] at hmarkup
    cases hmarkup
  · have hfalse := hb d hmem
    rw [hmarkup] at hfalse
    cases hfalse

theorem upTo_append (hmark : ∃ d ∈ mark, isMarkup d = true) (hv : Unmarked v) :
    upTo mark (v ++ (mark ++ r)) = v := by
  induction v with
  | nil =>
      cases mark with
      | nil =>
          obtain ⟨d, hd, -⟩ := hmark
          cases hd
      | cons d mark => exact if_pos (List.prefix_append _ r)
  | cons c v ih =>
      have hprefix := not_prefix_of_unmarked (r := r) hmark hv
      rw [List.cons_append] at hprefix ⊢
      rw [upTo, if_neg hprefix, ih fun d hd => hv d (List.mem_cons_of_mem c hd)]

end Reading

namespace Outline

/-- **Values keep the characters of markup as they are.** -/
theorem filter_fillWith (o : Outline) {values : List (List Char)}
    (hv : ∀ v ∈ values, Unmarked v) :
    (o.fillWith values).filter isMarkup = (o.fillWith []).filter isMarkup := by
  induction o, values using fillWith.induct with
  | case1 values => rfl
  | case2 s r values ih => rw [fillWith, fillWith, List.filter_append, List.filter_append, ih hv]
  | case3 r ih => rfl
  | case4 r v values ih =>
      have hnone : v.filter isMarkup = [] := by
        rw [List.filter_eq_nil_iff]
        intro c hc
        rw [hv v List.mem_cons_self c hc]
        exact Bool.false_ne_true
      rw [fillWith, fillWith, List.filter_append, hnone, List.nil_append]
      exact ih fun w hw => hv w (List.mem_cons_of_mem v hw)

/-- **What was filled into the gaps is read out of them.** -/
theorem read_fillWith {o : Outline} {values : List (List Char)} (ho : o.Bounded)
    (hlength : values.length = o.gaps) (hv : ∀ v ∈ values, Unmarked v) :
    o.read (o.fillWith values) = values := by
  induction o, values using fillWith.induct with
  | case1 values =>
      rw [read]
      exact (List.eq_nil_of_length_eq_zero hlength).symm
  | case2 s r values ih =>
      rw [fillWith, read, List.drop_left]
      exact ih ho hlength hv
  | case3 r ih => cases hlength
  | case4 r v values ih =>
      obtain ⟨hmark, hr⟩ := ho
      obtain ⟨hv, hvalues⟩ := List.forall_mem_cons.1 hv
      have ih := ih hr (Nat.succ.inj hlength) hvalues
      -- the text behind the gap is one that the outline goes on with
      have hrest : ∃ rest, fillWith r values = opening r ++ rest := by
        unfold opening at hmark ⊢
        split at hmark
        · exact ⟨_, rfl⟩
        · obtain ⟨c, hc, -⟩ := hmark
          cases hc
      obtain ⟨rest, hrest⟩ := hrest
      have hup : upTo (opening r) (v ++ fillWith r values) = v := by
        rw [hrest]
        exact upTo_append hmark hv
      rw [fillWith, read, hup, List.drop_left, ih]

/-- A text is made from an outline and some texts: these stand in the gaps with their entities, and
they are what is read there with the entities undone. -/
structure Holds (o : Outline) (texts : List String) (markup : List Char) : Prop where
  filled : markup = o.fillWith (texts.map fun t => escape t.toList)
  read : (o.read markup).map unescape = texts.map String.toList

theorem holds {o : Outline} (ho : o.Bounded) {texts : List String}
    (hlength : texts.length = o.gaps) :
    o.Holds texts (o.fillWith (texts.map fun t => escape t.toList)) where
  filled := rfl
  read := by
    rw [read_fillWith ho ((List.length_map _).trans hlength) (unmarked_texts texts), List.map_map]
    apply List.map_congr_left
    intro t _
    exact unescape_escape t.toList

/-- Texts of one outline have the same characters of markup. -/
theorem Holds.filter_eq {o : Outline} {texts texts' : List String} {markup markup' : List Char}
    (h : o.Holds texts markup) (h' : o.Holds texts' markup') :
    markup.filter isMarkup = markup'.filter isMarkup := by
  rw [h.filled, h'.filled, filter_fillWith o (unmarked_texts texts),
    filter_fillWith o (unmarked_texts texts')]

end Outline

/-! ## The outline of a template -/

/-- Whether a part is a place that is left open. -/
def isOpen (left : List Path) : Node → Bool
  | .emit (.path path) [] => left.contains path
  | _ => false

/-- A template whose places under some paths are left open. -/
def outline (left : List Path) (escapes : Bool) (scope : Scope) : List Node → Outline
  | [] => []
  | node :: r =>
      (if isOpen left node then .gap else .fixed (fillNode escapes scope node)) ::
        outline left escapes scope r

/-- The values at these places. -/
def openValues (left : List Path) (escapes : Bool) (scope : Scope) (nodes : List Node) :
    List (List Char) :=
  (nodes.filter (isOpen left)).map (fillNode escapes scope)

/-- A text follows that has a character of markup. -/
def startsWithMarkup : List Node → Bool
  | .text t :: _ => t.any isMarkup
  | _ => false

/-- Behind each place that is left open a text follows that has a character of markup. -/
def bounds (left : List Path) : List Node → Bool
  | [] => true
  | node :: r => (!isOpen left node || startsWithMarkup r) && bounds left r

section Template

variable (left : List Path) (escapes : Bool) (scope : Scope)

/-- **A filled template is its outline with the values in the gaps.** -/
theorem fill_eq_fillWith (nodes : List Node) :
    fill escapes scope nodes =
      (outline left escapes scope nodes).fillWith (openValues left escapes scope nodes) := by
  induction nodes with
  | nil => rfl
  | cons node r ih =>
      rw [fill, outline, openValues, List.filter_cons, ih]
      split
      · rfl
      · rfl

theorem gaps_outline (nodes : List Node) :
    (outline left escapes scope nodes).gaps = (nodes.filter (isOpen left)).length := by
  induction nodes with
  | nil => rfl
  | cons node r ih =>
      rw [outline, List.filter_cons]
      split
      · exact congrArg (· + 1) ih
      · exact ih

variable {left}

theorem bounded_outline {nodes : List Node} (h : bounds left nodes = true) :
    (outline left escapes scope nodes).Bounded := by
  induction nodes with
  | nil => trivial
  | cons node r ih =>
      rw [bounds, Bool.and_eq_true, Bool.or_eq_true, Bool.not_eq_true'] at h
      obtain ⟨hnode, hr⟩ := h
      rw [outline]
      split
      · rename_i hopen
        refine ⟨?_, ih hr⟩
        rcases hnode with hclosed | hmarkup
        · rw [hopen] at hclosed
          cases hclosed
        · unfold startsWithMarkup at hmarkup
          split at hmarkup
          · exact List.any_eq_true.1 hmarkup
          · cases hmarkup
      · exact ih hr

end Template

end VideoSurvey.Template
