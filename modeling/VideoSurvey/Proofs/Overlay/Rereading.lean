import VideoSurvey.Proofs.Json.Yields
import VideoSurvey.Proofs.Overlay.Codec

/-!
# Manifests are written and read over and over

The document's script and the machine see a manifest only as a text. Whatever text is read as a
manifest, in whichever of the forms that the decoder takes, the numbers of the manifest fit their
types (`Manifest.yields`); and a manifest whose numbers fit is read back from the text that it is
written as. So the two agree on what a manifest is (`Manifest.reread`).
-/

set_option autoImplicit false

namespace VideoSurvey.Overlay

open Json

/-! ## What is read fits -/

theorem Transition.yields : Transition.decoder.Yields Transition.Fits := by
  have hfields : FieldsKeep (fun t : Nat × String => t.1 ≤ 18446744073709551615)
      Transition.stepFields :=
    .cons (yields_natural .count64 18446744073709551615) (fun _ _ hindex _ => hindex) <|
      .cons (Decoder.Yields.trivial text) (fun _ _ _ ht => ht) fieldsKeep_nil
  apply yields_tagged
  rintro k hk v t ht
  rcases List.mem_cons.1 hk with rfl | hk
  · -- the index comes out of the record behind the tag
    obtain ⟨found, hfound, rfl⟩ := map_eq_ok ht
    exact recordOfJson_keeps hfields (Nat.zero_le _) hfound
  · obtain rfl := List.mem_singleton.1 hk
    simp only [emptyVariant] at ht
    split at ht
    · cases ht
    · cases ht
      exact True.intro

theorem Step.blank_fits : Step.blank.Fits := ⟨Nat.zero_le _, True.intro⟩

theorem Step.yields : Step.decoder.Yields Step.Fits := by
  refine yields_record ?_ Step.blank_fits
  -- only the star count and the next transition hold numbers
  refine .cons (.trivial text) (fun _ _ _ h => ⟨h.maxStars, h.next⟩) <|
    .cons (.trivial text) (fun _ _ _ h => ⟨h.maxStars, h.next⟩) <|
    .cons (.trivial Guard.decoder) (fun _ _ _ h => ⟨h.maxStars, h.next⟩) <|
    .cons (.trivial Capture.decoder) (fun _ _ _ h => ⟨h.maxStars, h.next⟩) <|
    .cons (yields_natural .unsigned32 4294967295) (fun _ _ hstars h => ⟨hstars, h.next⟩) <|
    .cons (.trivial Analytics.decoder) (fun _ _ _ h => ⟨h.maxStars, h.next⟩) <|
    .cons Transition.yields (fun _ _ hnext h => ⟨h.maxStars, hnext⟩) fieldsKeep_nil

theorem Closing.blank_fits : Closing.blank.Fits := by
  refine ⟨Nat.zero_le _, Nat.zero_le _, ?_⟩
  decide

theorem Closing.yields : Closing.decoder.Yields Closing.Fits := by
  refine yields_record ?_ Closing.blank_fits
  refine .cons (.trivial text)
      (fun _ _ _ h => ⟨h.durationMs, h.transitionDelayMs, h.continueTime⟩) <|
    .cons (yields_natural .unsigned64 18446744073709551615)
      (fun _ _ hduration h => ⟨hduration, h.transitionDelayMs, h.continueTime⟩) <|
    .cons (yields_natural .unsigned64 18446744073709551615)
      (fun _ _ hdelay h => ⟨h.durationMs, hdelay, h.continueTime⟩) <|
    .cons (yields_integer .signed64 _ _)
      (fun _ _ htime h => ⟨h.durationMs, h.transitionDelayMs, htime⟩) fieldsKeep_nil

theorem Manifest.blank_fits : Manifest.blank.Fits := by
  refine ⟨True.intro, ?_, Closing.blank_fits⟩
  rintro s ⟨⟩

/-- **The numbers of a manifest that was read fit their types.** -/
theorem Manifest.yields : Manifest.decoder.Yields Manifest.Fits := by
  refine yields_record ?_ Manifest.blank_fits
  refine .cons (.trivial text) (fun _ _ _ h => ⟨h.initial, h.steps, h.closing⟩) <|
    .cons Transition.yields (fun _ _ hinitial h => ⟨hinitial, h.steps, h.closing⟩) <|
    .cons (yields_list Step.yields) (fun _ _ hsteps h => ⟨h.initial, hsteps, h.closing⟩) <|
    .cons Closing.yields (fun _ _ hclosing h => ⟨h.initial, h.steps, hclosing⟩) fieldsKeep_nil

/-! ## Reading again -/

/-- **A manifest is read back from the text that it is written as exactly when its numbers fit their
types:** durations and positions of 64 bits, star counts of 32, and a time of 64 bits with a sign.
So whatever text a manifest was read from, in whichever form, writing it and reading it again
changes nothing. -/
theorem Manifest.reread {m : Manifest} :
    (Manifest.decoder.ofText m.toJson.compactText = .ok m ↔ m.Fits) ∧
      ∀ raw, Manifest.decoder.ofText raw = .ok m →
        Manifest.decoder.ofText m.toJson.compactText = .ok m := by
  refine ⟨⟨Manifest.yields.ofText, Manifest.ofText_compactText⟩, ?_⟩
  intro raw hraw
  exact Manifest.ofText_compactText (Manifest.yields.ofText hraw)

/-- An array for a record, an unknown member, members out of order, an escape and the greatest
numbers. -/
theorem Manifest.reread_array :
    let raw := "[\"\",[\"step\",18446744073709551615,\"\\u0022\"],[]," ++
      "\x7b\"continueTime\":-9223372036854775808,\"x\":[],\"stepId\":\"s\"," ++
      "\"transitionDelayMs\":0,\"durationMs\":18446744073709551615\x7d]"
    let m : Manifest :=
      ⟨"", .step 18446744073709551615 "\"", [],
        ⟨"s", 18446744073709551615, 0, -9223372036854775808⟩⟩
    Manifest.decoder.ofText raw = .ok m ∧
      Manifest.decoder.ofText m.toJson.compactText = .ok m := by
  intro raw m
  have htold : (Manifest.decoder.ofText raw).toOption = some m := by
    decide +kernel
  have hraw : Manifest.decoder.ofText raw = .ok m := by
    cases hread : Manifest.decoder.ofText raw with
    | error e =>
        rw [hread] at htold
        cases htold
    | ok found =>
        rw [hread] at htold
        exact congrArg _ (Option.some.inj htold)
  exact ⟨hraw, Manifest.reread.2 raw hraw⟩

end VideoSurvey.Overlay
