import VideoSurvey.Overlay.Activation
import VideoSurvey.Overlay.Manifest
import VideoSurvey.Proofs.Json.Decoding

/-!
# Manifests and activations are read back

A manifest whose numbers fit the machine's, and an activation whose times are integers that are kept
exactly, are read back from their own text without loss (`Manifest.ofText_compactText`,
`Activation.ofText_compactText`).
-/

set_option autoImplicit false

namespace VideoSurvey.Overlay

open Json

/-! ## Manifests -/

/-- The index of a step fits a position. -/
def Transition.Fits : Transition → Prop
  | .step index _ => index ≤ 18446744073709551615
  | .thankYou => True

/-- The numbers of a step fit their types. -/
structure Step.Fits (s : Step) : Prop where
  maxStars : s.maxStars ≤ 4294967295
  next : s.next.Fits

/-- The times of the closing fit their types. -/
structure Closing.Fits (c : Closing) : Prop where
  durationMs : c.durationMs ≤ 18446744073709551615
  transitionDelayMs : c.transitionDelayMs ≤ 18446744073709551615
  continueTime : -9223372036854775808 ≤ c.continueTime ∧ c.continueTime ≤ 9223372036854775807

/-- The numbers of a manifest fit their types. -/
structure Manifest.Fits (m : Manifest) : Prop where
  initial : m.initial.Fits
  steps : ∀ s ∈ m.steps, s.Fits
  closing : m.closing.Fits

theorem Guard.reads (g : Guard) : Guard.decoder.Reads (.str g.name) g := by
  cases g with
  | starSelected => exact reads_choice rfl
  | always => exact reads_choice rfl

theorem Capture.reads (c : Capture) : Capture.decoder.Reads (.str c.name) c := by
  cases c with
  | starCount => exact reads_choice rfl
  | textInput => exact reads_choice rfl

theorem Transition.ofJson_step {index : Nat} (h : index ≤ 18446744073709551615) (target : String) :
    recordVariant "Transition::Step" Transition.stepFields (0, "")
        (fun t => Transition.step t.1 t.2)
        (.obj [("index", ofNat index), ("target", .str target)]) = .ok (.step index target) := by
  have hrange : (0 : Int) ≤ index ∧ (index : Int) ≤ 18446744073709551615 :=
    ⟨Int.natCast_nonneg index, Int.ofNat_le.2 h⟩
  have hindex : count64.ofJson (ofNat index) = .ok index := by
    show Except.map Int.toNat (if (0 : Int) ≤ index ∧ (index : Int) ≤ 18446744073709551615
      then _ else _) = _
    rw [if_pos hrange]
    rfl
  simp [recordVariant, recordOfJson, ofMembers, field?, missing?, Transition.stepFields,
    RecordField.needed, Decoder.map, hindex, text, leaf, bind, Except.bind, Except.map]

theorem Transition.reads {t : Transition} (h : t.Fits) :
    Transition.decoder.Reads t.toJson t := by
  cases t with
  | step index target =>
      refine reads_tagged rfl ?_ (by simp) (Transition.ofJson_step h target)
      exact List.forall_mem_cons.2 ⟨(reads_count64 h).whole,
        List.forall_mem_cons.2 ⟨rfl, List.forall_mem_nil _⟩⟩
  | thankYou =>
      exact reads_tagged rfl (List.forall_mem_nil _) (List.forall_mem_nil _) rfl

theorem Analytics.reads (a : Analytics) : Analytics.decoder.Reads a.toJson a :=
  reads_record
    (.needed (reads_text a.id) <| .needed (reads_text a.name) <| .needed (reads_text a.group) <|
      .needed (reads_text a.eventType) <| .needed (reads_text a.channel) <| .nil a)
    (by decide)

theorem Step.reads {s : Step} (h : s.Fits) : Step.decoder.Reads s.toJson s :=
  reads_record
    (.needed (reads_text s.stepId) <| .needed (reads_text s.submitId) <|
      .needed (Guard.reads s.guard) <| .needed (Capture.reads s.capture) <|
      .needed (reads_unsigned32 h.maxStars) <| .needed (Analytics.reads s.analytics) <|
      .needed (Transition.reads h.next) <| .nil s)
    (by decide)

theorem Closing.reads {c : Closing} (h : c.Fits) : Closing.decoder.Reads c.toJson c :=
  reads_record
    (.needed (reads_text c.stepId) <| .needed (reads_unsigned64 h.durationMs) <|
      .needed (reads_unsigned64 h.transitionDelayMs) <|
      .needed (reads_signed64 h.continueTime.1 h.continueTime.2) <| .nil c)
    (by decide)

theorem Manifest.reads {m : Manifest} (h : m.Fits) : Manifest.decoder.Reads m.toJson m := by
  have hsteps : List.Forall₂ Step.decoder.Reads (m.steps.map Step.toJson) m.steps := by
    rw [List.forall₂_map_left_iff, List.forall₂_same]
    exact fun s hs => Step.reads (h.steps s hs)
  exact reads_record
    (.needed (reads_text m.callback) <| .needed (Transition.reads h.initial) <|
      .needed (reads_list hsteps) <| .needed (Closing.reads h.closing) <| .nil m)
    (by decide)

theorem Transition.depth_toJson (t : Transition) : t.toJson.depth = 1 := by
  cases t with
  | step index target => rfl
  | thankYou => rfl

theorem Step.depth_toJson (s : Step) : s.toJson.depth = 2 := by
  have hnext := s.next.depth_toJson
  simp [Step.toJson, depth, depthMembers, ofNat, Analytics.toJson, hnext]

theorem Manifest.depth_toJson_le (m : Manifest) : m.toJson.depth ≤ greatestDepth := by
  have hinitial := m.initial.depth_toJson
  have hsteps : (Json.arr (m.steps.map Step.toJson)).depth ≤ 3 := by
    rw [depth_arr_le, List.forall_mem_map]
    exact fun s _ => Nat.le_of_eq s.depth_toJson
  -- the steps are the deepest part: their transitions are objects in objects in a list
  simp only [Manifest.toJson, Closing.toJson, depth, depthMembers, ofNat, ofInt, hinitial,
    greatestDepth] at hsteps ⊢
  omega

/-- **A manifest is read back from its own text.** -/
theorem Manifest.ofText_compactText {m : Manifest} (h : m.Fits) :
    Manifest.decoder.ofText m.toJson.compactText = .ok m :=
  (Manifest.reads h).ofText m.depth_toJson_le

/-! ## Activations -/

/-- The times of an entry are integers that are kept exactly. -/
def MarkupEntry.HasWholeTimes (e : MarkupEntry) : Prop :=
  hasWholeNumbers (.num e.startTime) = true ∧ hasWholeNumbers (.num e.endTime) = true

theorem reads_number {n : Decimal.Number} (h : hasWholeNumbers (.num n) = true) :
    anyNumber.Reads (.num n) n := by
  cases n with
  | integer n =>
      obtain ⟨hlow, hhigh⟩ := hasWholeNumbers_integer.1 h
      exact reads_anyNumber hlow hhigh
  | binary x => cases h

theorem MarkupEntry.reads {e : MarkupEntry} (h : e.HasWholeTimes) :
    MarkupEntry.decoder.Reads e.toJson e :=
  reads_record
    (.needed (reads_number h.1) <| .needed (reads_number h.2) <| .needed (reads_text e.template) <|
      .needed (reads_text e.zIndex) <| .needed (reads_text e.callback) <|
      .needed (reads_text e.action) <| .nil e)
    (by decide)

theorem FontEntry.reads (e : FontEntry) : FontEntry.decoder.Reads e.toJson e := by
  have hitems : List.Forall₂ text.Reads (e.styles.map .str) e.styles := by
    rw [List.forall₂_map_left_iff, List.forall₂_same]
    exact fun s _ => reads_text s
  have hstyles : stylesDecoder.Reads (.obj [("styles", .arr (e.styles.map .str))]) e.styles :=
    reads_record (.needed (reads_list hitems) <| .nil e.styles) (by decide)
  exact reads_record
    (.needed (reads_text e.name) <| .needed (reads_text e.url) <| .needed hstyles <| .nil e)
    (by decide)

theorem reads_listObject {α : Type} {d : Decoder α} {items : List Json} {found : List α}
    (h : List.Forall₂ d.Reads items found) : (listDecoder d).Reads (listObject items) found :=
  reads_record (.needed (reads_list h) <| .nil found) (by simp)

theorem Activation.reads {a : Activation} (h : ∀ e ∈ a.markup, e.HasWholeTimes) :
    Activation.decoder.Reads a.toJson a := by
  have hmarkup : List.Forall₂ MarkupEntry.decoder.Reads (a.markup.map MarkupEntry.toJson)
      a.markup := by
    rw [List.forall₂_map_left_iff, List.forall₂_same]
    exact fun e he => MarkupEntry.reads (h e he)
  have hfonts : List.Forall₂ FontEntry.decoder.Reads (a.fonts.map FontEntry.toJson) a.fonts := by
    rw [List.forall₂_map_left_iff, List.forall₂_same]
    exact fun e _ => FontEntry.reads e
  exact reads_record
    (.needed (reads_listObject hmarkup) <| .needed (reads_listObject hfonts) <| .nil a)
    (by decide)

theorem FontEntry.depth_toJson_le (e : FontEntry) : e.toJson.depth ≤ 3 := by
  have hstyles : (Json.arr (e.styles.map .str)).depth ≤ 1 := by
    rw [depth_arr_le, List.forall_mem_map]
    exact fun s _ => Nat.le_refl 0
  simp only [FontEntry.toJson, depth, depthMembers] at hstyles ⊢
  omega

theorem depth_listObject_le {items : List Json} {room : Nat} (h : ∀ v ∈ items, v.depth ≤ room) :
    (listObject items).depth ≤ room + 2 := by
  have hitems := depth_arr_le.2 h
  simp only [listObject, depth, depthMembers] at hitems ⊢
  omega

theorem Activation.depth_toJson_le (a : Activation) : a.toJson.depth ≤ greatestDepth := by
  have hmarkup : (listObject (a.markup.map MarkupEntry.toJson)).depth ≤ 3 :=
    depth_listObject_le (List.forall_mem_map.2 fun e _ => Nat.le_refl 1)
  have hfonts : (listObject (a.fonts.map FontEntry.toJson)).depth ≤ 5 :=
    depth_listObject_le (List.forall_mem_map.2 fun e _ => e.depth_toJson_le)
  simp only [Activation.toJson, depth, depthMembers, greatestDepth]
  omega

/-- **An activation is read back from its own text.** -/
theorem Activation.ofText_compactText {a : Activation} (h : ∀ e ∈ a.markup, e.HasWholeTimes) :
    Activation.decoder.ofText a.toJson.compactText = .ok a :=
  (Activation.reads h).ofText a.depth_toJson_le

end VideoSurvey.Overlay
