import VideoSurvey.Proofs.Results
import VideoSurvey.Template.Render

/-!
# Templates whose places all have values

A template fits a scope when every place that emits finds a value, the filters there apply to it,
and every repetition finds a list (`Fits`). Such a template is rendered without a fault, and its
text is `fill`, which is rendering without the faults (`render_eq_fill`).
-/

set_option autoImplicit false

namespace VideoSurvey.Template

/-! ## Filling -/

/-- The value of an operand, or `null`. -/
def valueOf (scope : Scope) : Operand → Json
  | .path path => (lookup? scope path).getD .null
  | .number n => Json.ofInt n

/-- The value behind the filters; what has no length counts as empty. -/
def throughFilters : List Filter → Json → Json
  | [], v => v
  | .safe :: r, v => throughFilters r v
  | .length :: r, v => throughFilters r (Json.ofNat ((length? v).getD 0))

mutual

/-- The text of one part, in which a place without a value is empty. -/
def fillNode (escapes : Bool) (scope : Scope) : Node → List Char
  | .text text => text
  | .emit operand filters =>
      emitted escapes filters (throughFilters filters (valueOf scope operand))
  | .choose path whenTrue whenFalse =>
      if (lookup? scope path).any isTruthy then fill escapes scope whenTrue
      else fill escapes scope whenFalse
  | .each name path body =>
      ((items? ((lookup? scope path).getD .null)).getD []).flatMap fun v =>
        fill escapes ((name, v) :: scope) body

/-- The text of a template, in which a place without a value is empty. -/
def fill (escapes : Bool) (scope : Scope) : List Node → List Char
  | [] => []
  | node :: r => fillNode escapes scope node ++ fill escapes scope r

end

/-! ## Fitting -/

/-- An operand has a value. -/
def Operand.Fits (scope : Scope) : Operand → Prop
  | .path p => ∃ v, lookup? scope p = some v
  | .number _ => True

/-- Filters apply to a value. -/
def FiltersFit : List Filter → Json → Prop
  | [], _ => True
  | .safe :: r, v => FiltersFit r v
  | .length :: r, v => ∃ n, length? v = some n ∧ FiltersFit r (Json.ofNat n)

mutual

/-- A part fits a scope. -/
def NodeFits (scope : Scope) : Node → Prop
  | .text _ => True
  | .emit operand filters => operand.Fits scope ∧ FiltersFit filters (valueOf scope operand)
  | .choose _ whenTrue whenFalse => Fits scope whenTrue ∧ Fits scope whenFalse
  | .each name path body =>
      ∃ v items, lookup? scope path = some v ∧ items? v = some items ∧
        ∀ item ∈ items, Fits ((name, item) :: scope) body

/-- A template fits a scope. -/
def Fits (scope : Scope) : List Node → Prop
  | [] => True
  | node :: r => NodeFits scope node ∧ Fits scope r

end

@[simp] theorem fits_nil (scope : Scope) : Fits scope [] ↔ True := by
  rw [Fits]

@[simp] theorem fits_cons (scope : Scope) (node : Node) (r : List Node) :
    Fits scope (node :: r) ↔ NodeFits scope node ∧ Fits scope r := by
  rw [Fits]

@[simp] theorem nodeFits_text (scope : Scope) (text : List Char) :
    NodeFits scope (.text text) ↔ True := by
  rw [NodeFits]

@[simp] theorem nodeFits_choose (scope : Scope) (path : Path) (whenTrue whenFalse : List Node) :
    NodeFits scope (.choose path whenTrue whenFalse) ↔
      Fits scope whenTrue ∧ Fits scope whenFalse := by
  rw [NodeFits]

/-- A place that emits a value under a path. -/
theorem nodeFits_emit {scope : Scope} {path : Path} {filters : List Filter} :
    NodeFits scope (.emit (.path path) filters) ↔
      ∃ v, lookup? scope path = some v ∧ FiltersFit filters v := by
  constructor
  · rintro ⟨⟨v, hv⟩, hf⟩
    simp only [valueOf, hv, Option.getD_some] at hf
    exact ⟨v, hv, hf⟩
  · rintro ⟨v, hv, hf⟩
    refine ⟨⟨v, hv⟩, ?_⟩
    simp only [valueOf, hv, Option.getD_some]
    exact hf

/-! ## Rendering what fits -/

theorem operandValue_eq_valueOf {scope : Scope} (operand : Operand) (h : operand.Fits scope) :
    operandValue scope operand = .ok (valueOf scope operand) := by
  cases operand with
  | path path =>
      obtain ⟨v, hv⟩ := h
      simp only [operandValue, valueOf, hv, Option.getD_some]
  | number n => rfl

theorem filtered_eq_throughFilters {filters : List Filter} {v : Json} (h : FiltersFit filters v) :
    filtered filters v = .ok (throughFilters filters v) := by
  induction filters generalizing v with
  | nil => rfl
  | cons filter r ih =>
      cases filter with
      | safe => exact ih h
      | length =>
          obtain ⟨n, hn, hr⟩ := h
          simp only [filtered, throughFilters, hn, Option.getD_some]
          exact ih hr

theorem forItems_eq_flatMap {part : Json → Except RenderFault (List Char)}
    {text : Json → List Char} {items : List Json} (h : ∀ v ∈ items, part v = .ok (text v)) :
    forItems part items = .ok (items.flatMap text) := by
  induction items with
  | nil => rfl
  | cons v items ih =>
      unfold forItems
      rw [h v List.mem_cons_self, ih fun w hw => h w (List.mem_cons_of_mem v hw)]
      rfl

mutual

theorem renderNode_eq_fillNode (escapes : Bool) (scope : Scope) (node : Node)
    (h : NodeFits scope node) :
    renderNode escapes scope node = .ok (fillNode escapes scope node) := by
  cases node with
  | text text => rfl
  | emit operand filters =>
      unfold renderNode fillNode
      rw [operandValue_eq_valueOf operand h.1]
      show filtered filters _ >>= _ = _
      rw [filtered_eq_throughFilters h.2]
      rfl
  | choose path whenTrue whenFalse =>
      unfold renderNode fillNode
      by_cases hp : (lookup? scope path).any isTruthy = true
      · rw [if_pos hp, if_pos hp]
        exact render_eq_fill escapes scope whenTrue h.1
      · rw [if_neg hp, if_neg hp]
        exact render_eq_fill escapes scope whenFalse h.2
  | each name path body =>
      obtain ⟨v, items, hv, hi, hbody⟩ := h
      unfold renderNode fillNode
      rw [operandValue_eq_valueOf (.path path) ⟨v, hv⟩]
      simp only [valueOf, hv, Option.getD_some, hi, bind, Except.bind]
      -- the body is rendered once for each item, with the item added to the scope
      exact forItems_eq_flatMap fun item hitem =>
        render_eq_fill escapes ((name, item) :: scope) body (hbody item hitem)

/-- **A template that fits is rendered without a fault.** -/
theorem render_eq_fill (escapes : Bool) (scope : Scope) (nodes : List Node)
    (h : Fits scope nodes) : render escapes scope nodes = .ok (fill escapes scope nodes) := by
  cases nodes with
  | nil => rfl
  | cons node r =>
      unfold render fill
      rw [renderNode_eq_fillNode escapes scope node h.1, render_eq_fill escapes scope r h.2]
      rfl

end

end VideoSurvey.Template
