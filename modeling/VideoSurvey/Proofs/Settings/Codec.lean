import VideoSurvey.Proofs.Json.Pretty
import VideoSurvey.Settings.Basic
import VideoSurvey.Text.Blank

/-!
# Settings are read back

The text of settings has one item to a line and is never blank. It is read back without loss when
the delay is a time of 64 bits (`Settings.ofText_text`).
-/

set_option autoImplicit false

namespace VideoSurvey.Settings

open Json

theorem reads_optionalText (s : Option String) :
    (Json.optional Json.text).Reads (optionalText s) s := by
  cases s with
  | none => exact reads_null Json.text
  | some s =>
      apply reads_some (reads_text s)
      intro l level
      exact ⟨'"', s.toList.flatMap escapeChar ++ ['"'], rfl, by decide, rfl⟩

theorem reads {s : Settings} (h : s.transitionDelayMs ≤ 18446744073709551615) :
    decoder.Reads s.toJson s := by
  have hitems : List.Forall₂ Json.text.Reads (s.fontStyles.map .str) s.fontStyles := by
    rw [List.forall₂_map_left_iff, List.forall₂_same]
    intro style _
    exact reads_text style
  -- every field stands in the text, so no default is taken
  exact reads_record
    (.defaulted (reads_unsigned64 h) <| .defaulted (reads_text s.callbackName) <|
      .defaulted (reads_text s.playerScriptUrl) <| .defaulted (reads_text s.iconStylesheetUrl) <|
      .defaulted (reads_list hitems) <| .defaulted (reads_text s.zIndex) <|
      .defaulted (reads_optionalText s.templateDir) <| .nil s)
    (by decide)

theorem depth_toJson_le (s : Settings) : s.toJson.depth ≤ greatestDepth := by
  have hstyles : (Json.arr (s.fontStyles.map .str)).depth ≤ 1 := by
    rw [depth_arr_le, List.forall_mem_map]
    intro style _
    exact Nat.zero_le 0
  have hdirectory : (optionalText s.templateDir).depth = 0 := by
    cases s.templateDir with
    | none => rfl
    | some directory => rfl
  simp only [toJson, depth, depthMembers, ofNat, hdirectory, greatestDepth] at hstyles ⊢
  omega

/-- **Settings are read back from their own text.** -/
theorem ofText_text {s : Settings} (h : s.transitionDelayMs ≤ 18446744073709551615) :
    ofText s.text = .ok s :=
  (reads h).ofPrettyText s.depth_toJson_le

/-- The text of settings begins with a brace. -/
theorem isBlank_text (s : Settings) : Text.isBlank s.text = false := by
  obtain ⟨r, hr⟩ : ∃ r, s.text.toList = '\x7b' :: r := by
    rw [text, prettyText, String.toList_ofList]
    exact ⟨_, rfl⟩
  have hbrace : Text.isBlankChar '\x7b' = false := by decide
  rw [Text.isBlank, hr, List.all_cons, hbrace, Bool.false_and]

end VideoSurvey.Settings
