import VideoSurvey.Proofs.Json.Keeping
import VideoSurvey.Proofs.Survey.Written

/-!
# Surveys that their texts keep

A definition is storable when its own values are keepable and its members that it does not know are
in order and bear no key that it knows. Every definition that was read from keepable members is
storable (`Definition.FoundIn.storable`). A storable definition is a regular one
(`Definition.Storable.regular`), so how it is written and read back as members is known; what is
added here is that it fits into a text (`Definition.Storable.fits`).
-/

set_option autoImplicit false

namespace VideoSurvey.Survey

open Json (Members Fits Keepable)

/-- The times of a video are integers that are kept exactly, and so are its parameters. -/
structure Video.Storable (v : Video) : Prop where
  startTime : ∀ n ∈ v.startTime, (Json.num n).hasWholeNumbers = true
  endTime : ∀ n ∈ v.endTime, (Json.num n).hasWholeNumbers = true
  continueTime : ∀ n ∈ v.continueTime, Json.signed64.ofJson (.ofInt n) = .ok n
  params : Keepable 125 (.obj v.params)

/-! ## Storable definitions -/

/-- A definition that its text keeps. -/
structure Definition.Storable (d : Definition) : Prop where
  questions : ∀ q ∈ d.questions, q.Storable
  starScale : d.starScale.Storable
  video : d.video.Storable
  thankYouDuration : ∀ n ∈ d.thankYouDuration, Json.unsigned64.ofJson (.ofNat n) = .ok n
  extra : Keepable Json.greatestDepth (.obj d.extra)
  unknown : ∀ m ∈ d.extra, Definition.isKnown m.1 = false

namespace Definition.Storable

variable {d : Definition}

theorem orderly (h : d.Storable) : d.Orderly := ⟨(Json.keepable_obj.1 h.extra).1, h.unknown⟩

theorem regular (h : d.Storable) : d.Regular where
  questions := h.questions
  starScale := h.starScale
  video := {
    startTime := fun n _ => .num n
    endTime := fun n _ => .num n
    continueTime := h.video.continueTime
    params := h.video.params.ordered }
  thankYouDuration := h.thankYouDuration
  extra := h.extra.ordered
  unknown := h.unknown

/-- Every part of a storable definition is found among its members in order. -/
theorem foundIn_sortedMembers (h : d.Storable) : d.FoundIn d.sortedMembers :=
  h.regular.foundIn_sortedMembers

/-! ## Fitting into a text -/

theorem fits_question (q : Question) (room : Nat) : Fits (room + 1) q.toJson := by
  apply Json.fits_obj.2
  simp only [List.forall_mem_append, List.forall_mem_cons, forall_mem_optionalMember]
  simp [Json.fits_str]

theorem fits_starScale (h : d.Storable) (room : Nat) : Fits (room + 1) d.starScale.toJson := by
  refine Json.fits_obj.2 (forall_mem_optionalMember.2 ?_)
  intro n hn
  exact Json.fits_signed64 (h.starScale n hn) room

theorem fits_video (h : d.Storable) : Fits 126 d.video.toJson := by
  apply Json.fits_obj.2
  simp only [List.forall_mem_append, List.forall_mem_cons, forall_mem_optionalMember,
    List.not_mem_nil, false_implies, implies_true, and_true]
  refine ⟨⟨⟨⟨⟨Json.fits_str _ _, Json.fits_str _ _⟩, ?_⟩, ?_⟩, ?_⟩, h.video.params.fits⟩
  · intro n hn
    exact Json.fits_num (h.video.startTime n hn) 125
  · intro n hn
    exact Json.fits_num (h.video.endTime n hn) 125
  · intro n hn
    exact Json.fits_signed64 (h.video.continueTime n hn) 125

theorem fits_styling (s : Styling) (room : Nat) : Fits (room + 1) s.toJson := by
  apply Json.fits_obj.2
  simp only [List.forall_mem_append, forall_mem_optionalMember]
  simp [Json.fits_str]

/-- A storable definition fits into a text. -/
theorem fits (h : d.Storable) : Fits Json.greatestDepth d.toJson := by
  apply Json.fits_obj.2
  have hquestions : Fits 126 (.arr (d.questions.map Question.toJson)) := by
    apply Json.fits_arr.2
    intro v hv
    obtain ⟨q, -, rfl⟩ := List.mem_map.1 hv
    exact fits_question q 124
  have hduration : ∀ n ∈ d.thankYouDuration, Fits 126 (Json.ofNat n) := by
    intro n hn
    exact Json.fits_unsigned64 (h.thankYouDuration n hn) 126
  have hextra : ∀ m ∈ d.extra, Fits 126 m.2 := Json.fits_obj.1 h.extra.fits
  simp only [knownMembers, List.forall_mem_append, List.forall_mem_cons,
    forall_mem_optionalMember, List.not_mem_nil, false_implies, implies_true, and_true]
  refine ⟨⟨⟨⟨⟨⟨⟨⟨Json.fits_str _ _, ?_⟩, hquestions, h.fits_starScale 125, h.fits_video,
    fits_styling _ 125⟩, ?_⟩, ?_⟩, hduration⟩, ?_⟩, ?_⟩, hextra⟩
  all_goals exact fun s _ => Json.fits_str _ s

theorem keepable_sortedMembers (h : d.Storable) :
    Keepable Json.greatestDepth (.obj d.sortedMembers) := by
  rw [← d.toSortedJson_eq]
  exact h.fits.keepable_sortKeys

end Definition.Storable

/-! ## What is read is storable -/

theorem Video.Parts.storable {v : Video} (h : v.Parts (Keepable 125)) : v.Storable where
  startTime n hn := (h.startTime n hn).fits.whole
  endTime n hn := (h.endTime n hn).fits.whole
  continueTime := h.continueTime
  params := h.params

theorem Video.blank_storable : Video.blank.Storable :=
  (Video.blank_parts (Json.keepable_obj.2 ⟨List.Pairwise.nil, List.forall_mem_nil _⟩)).storable

/-- **A definition found among keepable members is storable.** -/
theorem Definition.FoundIn.storable {d : Definition} {members : Members} (h : d.FoundIn members)
    (hmembers : Keepable Json.greatestDepth (.obj members)) : d.Storable := by
  have hregular := h.regular hmembers.ordered
  refine ⟨hregular.questions, hregular.starScale, ?_, hregular.thankYouDuration, ?_,
    hregular.unknown⟩
  · refine (h.video_parts ?_ ?_).storable
    · exact Json.keepable_obj.2 ⟨List.Pairwise.nil, List.forall_mem_nil _⟩
    · intro v hlookup
      exact (hmembers.lookup hlookup).each
  · rw [h.extra]
    exact hmembers.filter _

/-- What is written of a definition has whole numbers only if its parts have. -/
theorem Definition.whole_parts {d : Definition} (h : d.toJson.hasWholeNumbers = true) :
    d.video.toJson.hasWholeNumbers = true ∧ (Json.obj d.extra).hasWholeNumbers = true := by
  have heach := Json.hasWholeNumbers_obj.1 h
  simp only [knownMembers, List.forall_mem_append, List.forall_mem_cons] at heach
  obtain ⟨⟨⟨⟨⟨⟨⟨-, -, -, hvideo, -⟩, -⟩, -⟩, -⟩, -⟩, -⟩, hextra⟩ := heach
  exact ⟨hvideo, Json.hasWholeNumbers_obj.2 hextra⟩

theorem Video.whole_parts {v : Video} (h : v.toJson.hasWholeNumbers = true) :
    (∀ n ∈ v.startTime, (Json.num n).hasWholeNumbers = true) ∧
      (∀ n ∈ v.endTime, (Json.num n).hasWholeNumbers = true) ∧
      (Json.obj v.params).hasWholeNumbers = true := by
  have heach := Json.hasWholeNumbers_obj.1 h
  simp only [List.forall_mem_append, List.forall_mem_cons, forall_mem_optionalMember] at heach
  obtain ⟨⟨⟨⟨-, hstart⟩, hend⟩, -⟩, hparams, -⟩ := heach
  exact ⟨hstart, hend, hparams⟩

end VideoSurvey.Survey
