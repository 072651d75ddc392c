import VideoSurvey.Proofs.Json.Decoding

/-!
# Reading texts with one item to a line

The form with one item to a line is the written form with a line break in front of every item and a
blank behind every colon (`written_pretty`). So a decoder that reads a value in every layout reads
it from this text as well (`Decoder.Reads.ofPrettyText`).
-/

set_option autoImplicit false

namespace VideoSurvey.Json

variable {α : Type}

/-- One item to a line, and two spaces to a level. -/
def Layout.pretty : Layout where
  newLine level := Json.newLine level
  afterColon := [' ']
  newLine_blank := by
    intro level c hc
    rcases List.mem_cons.1 hc with rfl | hc
    · rfl
    · obtain rfl := List.eq_of_mem_replicate hc
      rfl
  afterColon_blank := by
    intro c hc
    obtain rfl := List.mem_singleton.1 hc
    rfl

mutual

/-- The form over several lines is the one in this layout. -/
theorem written_pretty (level : Nat) (v : Json) : written .pretty level v = prettyAt level v := by
  match v with
  | .null => rfl
  | .bool b => rfl
  | .num n => rfl
  | .str s => rfl
  | .arr [] => rfl
  | .arr (v :: r) =>
      rw [written, prettyAt, written_pretty (level + 1) v, writtenItems_pretty level r]
      rfl
  | .obj [] => rfl
  | .obj ((k, v) :: r) =>
      rw [written, prettyAt, written_pretty (level + 1) v, writtenMembers_pretty level r]
      simp [Layout.pretty]

theorem writtenItems_pretty (level : Nat) (r : List Json) :
    writtenItems .pretty level r = prettyItems level r := by
  match r with
  | [] => rfl
  | v :: r =>
      rw [writtenItems, prettyItems, written_pretty (level + 1) v, writtenItems_pretty level r]
      rfl

theorem writtenMembers_pretty (level : Nat) (r : List (String × Json)) :
    writtenMembers .pretty level r = prettyMembers level r := by
  match r with
  | [] => rfl
  | (k, v) :: r =>
      rw [writtenMembers, prettyMembers, written_pretty (level + 1) v,
        writtenMembers_pretty level r]
      simp [Layout.pretty]

end

/-- **A decoder reads the text of a value with one item to a line.** -/
theorem Decoder.Reads.ofPrettyText {d : Decoder α} {v : Json} {a : α} (h : d.Reads v a)
    (hdepth : v.depth ≤ greatestDepth) : d.ofText v.prettyText = .ok a := by
  have hread := (h.back .pretty 0 greatestDepth hdepth).here endsNumber_nil Position.start
  rw [List.append_nil, written_pretty] at hread
  have htext : Cursor.ofText v.prettyText = ⟨prettyAt 0 v, Position.start⟩ := by
    simp [Cursor.ofText, prettyText]
  rw [Decoder.ofText, readWhole, htext, hread]
  rfl

/-! ## What may be null -/

theorem reads_null (d : Decoder α) : (optional d).Reads .null none := by
  refine ⟨rfl, fun l level room _ b hb rest hrest p => ?_⟩
  have hletter : Cursor.isSpace 'n' = false := rfl
  have htext : written l level .null = ['n', 'u', 'l', 'l'] := rfl
  rw [htext, List.cons_append]
  simp only [optional, skipSpace_blank_cons hb hletter]
  rfl

/-- A value that does not begin like `null` is read as the one that is there. -/
theorem reads_some {d : Decoder α} {v : Json} {a : α} (h : d.Reads v a)
    (hhead : ∀ l level, ∃ c s, written l level v = c :: s ∧ c ≠ 'n' ∧ Cursor.isSpace c = false) :
    (optional d).Reads v (some a) := by
  refine ⟨h.whole, fun l level room hdepth b hb rest hrest p => ?_⟩
  have hread := (h.back l level room hdepth).here hrest (p.afterAll b)
  obtain ⟨c, s, htext, hletter, hspace⟩ := hhead l level
  rw [htext, List.cons_append] at hread ⊢
  simp only [optional, skipSpace_blank_cons hb hspace]
  split
  · rename_i heq
    exact absurd (List.cons.inj heq).1 hletter
  · rw [hread]
    rfl

end VideoSurvey.Json
