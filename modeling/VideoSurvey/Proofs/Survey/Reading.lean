import VideoSurvey.Proofs.Json.Reading
import VideoSurvey.Proofs.Json.RoundTrip
import VideoSurvey.Proofs.Survey.Codec

/-!
# What a definition that was read has

Whatever numbers a text holds: the parameters of a video that was read stand in order and are
nested less deep than a text may be, and the times that are read as integers have 64 bits
(`Definition.legible_of_ofText`).
-/

set_option autoImplicit false

namespace VideoSurvey.Survey

open Json (Ordered)

/-- The parameters of a video are in order, with two brackets fewer around them than a text may
have, and the time at which it goes on is an integer of 64 bits. -/
structure Video.Legible (v : Video) : Prop where
  continueTime : ∀ n ∈ v.continueTime, -9223372036854775808 ≤ n ∧ n ≤ 9223372036854775807
  ordered : Ordered (.obj v.params)
  depth : (Json.obj v.params).depth ≤ 125

/-- The times of a video and the numbers in its parameters are integers that are kept exactly. -/
structure Video.HasWholeNumbers (v : Video) : Prop where
  startTime : ∀ n ∈ v.startTime, (Json.num n).hasWholeNumbers = true
  endTime : ∀ n ∈ v.endTime, (Json.num n).hasWholeNumbers = true
  params : (Json.obj v.params).hasWholeNumbers = true

theorem Video.blank_hasWholeNumbers : Video.blank.HasWholeNumbers := by
  refine ⟨?_, ?_, rfl⟩
  · rintro n ⟨⟩
  · rintro n ⟨⟩

theorem Video.Parts.legible {v : Video} (h : v.Parts fun w => Ordered w ∧ w.depth ≤ 125) :
    v.Legible where
  continueTime n hn := (Json.integer_eq_ok (h.continueTime n hn)).2
  ordered := h.params.1
  depth := h.params.2

/-- A text is read as an object in order. -/
theorem Definition.foundIn_of_ofText {raw : String} {d : Definition}
    (h : Definition.ofText raw = .ok d) :
    ∃ members : Json.Members, Ordered (.obj members) ∧
      (Json.obj members).depth ≤ Json.greatestDepth ∧ d.FoundIn members := by
  unfold Definition.ofText at h
  split at h
  · rename_i v hread
    have hordered := Json.read_ordered hread
    have hdepth := Json.depth_read_le hread
    cases v with
    | obj members =>
        obtain ⟨-, hd⟩ := Definition.ofJson_eq_ok.1 h
        have hdistinct := (Json.ordered_obj.1 hordered).1.distinct
        exact ⟨members, hordered, hdepth, (Definition.ofMembers_eq_ok hdistinct).1 hd⟩
    | null => cases h
    | bool b => cases h
    | num n => cases h
    | str s => cases h
    | arr items => cases h
  · cases h

/-- The compact text of a value describes what the value with its keys in order does. -/
theorem Definition.ofText_compactText {v : Json} (hwhole : v.hasWholeNumbers = true)
    (hdepth : v.depth ≤ Json.greatestDepth) :
    Definition.ofText v.compactText = Definition.ofJson v.sortKeys := by
  unfold Definition.ofText
  rw [Json.read_compactText hwhole hdepth]

/-- **A definition that was read from a text** has a legible video, and its closing message stands
for a time of 64 bits. -/
theorem Definition.legible_of_ofText {raw : String} {d : Definition}
    (h : Definition.ofText raw = .ok d) :
    d.video.Legible ∧ ∀ n ∈ d.thankYouDuration, n ≤ 18446744073709551615 := by
  obtain ⟨members, hordered, hdepth, hfound⟩ := foundIn_of_ofText h
  constructor
  · refine (hfound.video_parts ?_ ?_).legible
    · exact ⟨.obj List.Pairwise.nil (List.forall_mem_nil _), by decide⟩
    · intro v hlookup
      have hdepth' := Json.depth_obj_le.1 hdepth _ (Json.Members.mem_of_lookup hlookup)
      exact (hordered.lookup hlookup).each.and (Json.each_of_depth_le hdepth')
  · intro n hn
    have hduration := hfound.thankYouDuration
    rw [Option.mem_def.1 hn] at hduration
    rcases Json.found_eq_ok hduration with hnone | ⟨v, -, hv⟩
    · cases hnone
    · have hle := (Json.unsigned64_eq_ok (Json.optional_eq_some hv)).2
      omega

end VideoSurvey.Survey
