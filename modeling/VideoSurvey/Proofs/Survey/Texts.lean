import VideoSurvey.Proofs.Json.Decoding
import VideoSurvey.Proofs.Survey.Storable

/-!
# Surveys that are read from texts

The document of a record is read straight into a definition, member by member, and the members that
it does not know are kept. What such a text gives is regular and nested no deeper than the reader
allows, whatever the text is (`Definition.regular_of_document`), so it is storable as soon as its
numbers are whole. A storable definition is read from its text exactly
(`Definition.Storable.ofText_text`): each kind of part has its own law, told of the members that are
written and of those that are left out.
-/

set_option autoImplicit false

namespace VideoSurvey.Survey

open Json (Decoder Members MembersRead Ordered RecordField)

/-! ## What a text gives -/

theorem Video.gives : Video.decoder.Gives 126 fun v =>
    v.Parts fun w => Ordered w ∧ w.depth ≤ 125 := by
  apply Json.gives_record
  · refine .cons (Decoder.Yields.gives (.trivial Json.text) _)
        (fun _ _ _ h => ⟨h.startTime, h.endTime, h.continueTime, h.params⟩) <|
      .cons (Decoder.Yields.gives (.trivial Json.text) _)
        (fun _ _ _ h => ⟨h.startTime, h.endTime, h.continueTime, h.params⟩) <|
      .cons (Decoder.Yields.gives (.trivial (Json.optional Json.anyNumber)) _)
        (fun _ _ _ h => ⟨fun n _ => ⟨.num n, Nat.zero_le _⟩, h.endTime, h.continueTime,
          h.params⟩) <|
      .cons (Decoder.Yields.gives (.trivial (Json.optional Json.anyNumber)) _)
        (fun _ _ _ h => ⟨h.startTime, fun n _ => ⟨.num n, Nat.zero_le _⟩, h.continueTime,
          h.params⟩) <|
      .cons ((Json.yields_optional Json.yields_signed64).gives _)
        (fun _ _ htime h => ⟨h.startTime, h.endTime, htime, h.params⟩) <|
      .cons (Json.gives_table _)
        (fun _ _ hparams h => ⟨h.startTime, h.endTime, h.continueTime, hparams⟩)
        Json.fieldsGive_nil
  · exact Video.blank_parts ⟨.obj List.Pairwise.nil (List.forall_mem_nil _), by decide⟩

/-- A regular definition that is nested no deeper than a text may be. -/
structure Definition.Decoded (d : Definition) : Prop where
  regular : d.Regular
  params : (Json.obj d.video.params).depth ≤ 125
  extra : (Json.obj d.extra).depth ≤ Json.greatestDepth

theorem Definition.blank_decoded : Definition.blank.Decoded where
  regular := {
    questions := nofun
    starScale := nofun
    video := Video.blank_parts (.obj List.Pairwise.nil (List.forall_mem_nil _))
    thankYouDuration := nofun
    extra := .obj List.Pairwise.nil (List.forall_mem_nil _)
    unknown := nofun }
  params := by decide
  extra := by decide

namespace Definition.Decoded

variable {d : Definition}

theorem keep (h : d.Decoded) {key : String} (hkey : Json.field? Definition.fields key = none)
    {v : Json} (hordered : Ordered v) (hdepth : v.depth ≤ 126) :
    (Definition.keep key v d).Decoded where
  regular := { h.regular with
    extra := h.regular.extra.insert key hordered
    unknown := by
      intro m hm
      rcases Members.mem_insert hm with rfl | hm
      · unfold Definition.isKnown
        rw [hkey]
        rfl
      · exact h.regular.unknown m hm }
  params := h.params
  extra := by
    apply Json.depth_obj_le.2
    intro m hm
    rcases Members.mem_insert hm with rfl | hm
    · exact hdepth
    · exact Json.depth_obj_le.1 h.extra m hm

theorem fields_give : Json.FieldsGive 126 Definition.Decoded Definition.fields := by
  refine .cons (Decoder.Yields.gives (.trivial Json.text) _)
      (fun _ _ _ h => ⟨{ h.regular with }, h.params, h.extra⟩) <|
    .cons (Decoder.Yields.gives (.trivial (Json.optional Json.text)) _)
      (fun _ _ _ h => ⟨{ h.regular with }, h.params, h.extra⟩) <|
    .cons ((Json.yields_list Question.yields).gives _)
      (fun _ _ hq h => ⟨{ h.regular with questions := hq }, h.params, h.extra⟩) <|
    .cons (StarScale.yields.gives _)
      (fun _ _ hstars h => ⟨{ h.regular with starScale := hstars }, h.params, h.extra⟩) <|
    .cons Video.gives (fun _ _ hvideo h =>
      ⟨{ h.regular with video := hvideo.imp fun _ hw => hw.1 }, hvideo.params.2, h.extra⟩) <|
    .cons (Decoder.Yields.gives (.trivial Styling.decoder) _)
      (fun _ _ _ h => ⟨{ h.regular with }, h.params, h.extra⟩) <|
    .cons (Decoder.Yields.gives (.trivial (Json.optional Json.text)) _)
      (fun _ _ _ h => ⟨{ h.regular with }, h.params, h.extra⟩) <|
    .cons (Decoder.Yields.gives (.trivial (Json.optional Json.text)) _)
      (fun _ _ _ h => ⟨{ h.regular with }, h.params, h.extra⟩) <|
    .cons ((Json.yields_optional Json.yields_unsigned64).gives _)
      (fun _ _ hn h => ⟨{ h.regular with thankYouDuration := hn }, h.params, h.extra⟩) <|
    .cons (Decoder.Yields.gives (.trivial (Json.optional Json.text)) _)
      (fun _ _ _ h => ⟨{ h.regular with }, h.params, h.extra⟩) <|
    .cons (Decoder.Yields.gives (.trivial (Json.optional Json.text)) _)
      (fun _ _ _ h => ⟨{ h.regular with }, h.params, h.extra⟩) Json.fieldsGive_nil

/-- **A definition that was read from a text is storable when it is written with whole numbers,**
whatever else stood in the text. -/
theorem storable (h : d.Decoded) (hwhole : d.toJson.hasWholeNumbers = true) : d.Storable := by
  obtain ⟨hvideo, hextra⟩ := Definition.whole_parts hwhole
  obtain ⟨hstart, hend, hparams⟩ := Video.whole_parts hvideo
  exact {
    questions := h.regular.questions
    starScale := h.regular.starScale
    video := ⟨hstart, hend, h.regular.video.continueTime, h.regular.video.params, h.params, hparams⟩
    thankYouDuration := h.regular.thankYouDuration
    extra := ⟨h.regular.extra, h.extra, hextra⟩
    unknown := h.regular.unknown }

end Definition.Decoded

/-- **What is read from a text is regular** and not nested too deep, whatever the text is. -/
theorem Definition.decoded_of_ofText {document : String} {d : Definition}
    (h : Definition.decoder.ofText document = .ok d) : d.Decoded := by
  obtain ⟨c, hread⟩ := Json.readWhole_eq_ok h
  exact Json.gives_open Decoded.fields_give
    (fun _ hkey _ hordered hdepth _ h => h.keep hkey hordered hdepth) blank_decoded hread

/-! ## What a written survey gives -/

section Members

variable {σ α : Type} {fields : List (RecordField σ)} {others : String → Decoder (σ → σ)}
  {members : Members} {s s' : σ} {key : String} {required : Bool}

/-- A member that is written only when it is there is read to what it was written for. -/
theorem membersRead_optional {d : Decoder α} {set : Option α → σ → σ}
    (hfield : Json.field? fields key = some ⟨key, required, (Json.optional d).map set⟩)
    {o : Option α} {toJson : α → Json} (hv : ∀ a ∈ o, d.Reads (toJson a) a ∧ toJson a ≠ .null)
    (hnone : set none s = s) (hrest : MembersRead fields others members (set o s) s') :
    MembersRead fields others (optionalMember key o toJson ++ members) s s' := by
  cases o with
  | none =>
      rw [hnone] at hrest
      exact hrest
  | some a =>
      obtain ⟨hreads, hnull⟩ := hv a rfl
      exact .field hfield (Json.reads_optional hreads hnull) hrest

theorem membersRead_texts {set : Option String → σ → σ}
    (hfield : Json.field? fields key = some ⟨key, required, (Json.optional Json.text).map set⟩)
    (o : Option String) (hnone : set none s = s)
    (hrest : MembersRead fields others members (set o s) s') :
    MembersRead fields others (optionalMember key o .str ++ members) s s' :=
  membersRead_optional hfield (fun a _ => ⟨Json.reads_text a, nofun⟩) hnone hrest

theorem membersRead_numbers {set : Option Decimal.Number → σ → σ}
    (hfield : Json.field? fields key =
      some ⟨key, required, (Json.optional Json.anyNumber).map set⟩)
    {o : Option Decimal.Number} (hwhole : ∀ n ∈ o, (Json.num n).hasWholeNumbers = true)
    (hnone : set none s = s) (hrest : MembersRead fields others members (set o s) s') :
    MembersRead fields others (optionalMember key o .num ++ members) s s' := by
  refine membersRead_optional hfield ?_ hnone hrest
  intro n hn
  refine ⟨?_, nofun⟩
  cases n with
  | integer n =>
      obtain ⟨hlow, hhigh⟩ := Json.hasWholeNumbers_integer.1 (hwhole _ hn)
      exact Json.reads_anyNumber hlow hhigh
  | binary x => cases hwhole _ hn

theorem membersRead_signed {set : Option Int → σ → σ}
    (hfield : Json.field? fields key =
      some ⟨key, required, (Json.optional Json.signed64).map set⟩)
    {o : Option Int} (hrange : ∀ n ∈ o, Json.signed64.ofJson (.ofInt n) = .ok n)
    (hnone : set none s = s) (hrest : MembersRead fields others members (set o s) s') :
    MembersRead fields others (optionalMember key o Json.ofInt ++ members) s s' := by
  refine membersRead_optional hfield ?_ hnone hrest
  intro n hn
  obtain ⟨-, hlow, hhigh⟩ := Json.integer_eq_ok (hrange n hn)
  exact ⟨Json.reads_signed64 hlow hhigh, nofun⟩

theorem membersRead_unsigned {set : Option Nat → σ → σ}
    (hfield : Json.field? fields key =
      some ⟨key, required, (Json.optional Json.unsigned64).map set⟩)
    {o : Option Nat} (hrange : ∀ n ∈ o, Json.unsigned64.ofJson (.ofNat n) = .ok n)
    (hnone : set none s = s) (hrest : MembersRead fields others members (set o s) s') :
    MembersRead fields others (optionalMember key o Json.ofNat ++ members) s s' := by
  refine membersRead_optional hfield ?_ hnone hrest
  intro n hn
  have hle := (Json.unsigned64_eq_ok (hrange n hn)).2
  exact ⟨Json.reads_unsigned64 (by omega), nofun⟩

end Members

theorem Question.Storable.reads {q : Question} (h : q.Storable) :
    Question.decoder.Reads q.toJson q := by
  refine Json.reads_object ?_ (Question.independent.distinct q.keys_toJson) ?_
  · rw [← List.append_nil (_ ++ _)]
    simp only [List.append_assoc, List.cons_append, List.nil_append]
    refine .field rfl (Json.reads_text q.kind.name) (.field rfl (Json.reads_text q.text) ?_)
    refine membersRead_texts rfl q.trackId rfl ?_
    refine membersRead_texts rfl q.trackName rfl ?_
    refine membersRead_texts rfl q.placeholder rfl ?_
    rw [show Kind.ofName q.kind.name = q.kind from h]
    exact .nil q
  · exact List.forall_mem_cons.2 ⟨fun _ => rfl, Json.forall_required rfl⟩

theorem StarScale.Storable.reads {s : StarScale} (h : s.Storable) :
    StarScale.decoder.Reads s.toJson s := by
  refine Json.reads_object ?_ (StarScale.independent.distinct (keys_optionalMember "maxStars" _))
    (Json.forall_required rfl)
  rw [← List.append_nil (optionalMember _ _ _)]
  exact membersRead_signed rfl h rfl (.nil s)

theorem Video.Storable.reads {v : Video} (h : v.Storable) :
    Video.decoder.Reads v.toJson v := by
  refine Json.reads_object ?_ (Video.independent.distinct v.keys_toJson) ?_
  · simp only [List.append_assoc, List.cons_append, List.nil_append]
    refine .field rfl (Json.reads_text v.host) (.field rfl (Json.reads_text v.videoId) ?_)
    refine membersRead_numbers rfl h.startTime rfl ?_
    refine membersRead_numbers rfl h.endTime rfl ?_
    refine membersRead_signed rfl h.continueTime rfl ?_
    exact .field rfl (Json.reads_table h.params.ordered h.params.fits.whole) (.nil v)
  · exact Json.forall_required rfl

theorem Styling.reads (s : Styling) : Styling.decoder.Reads s.toJson s := by
  refine Json.reads_object ?_ (Styling.independent.distinct s.keys_toJson) ?_
  · rw [← List.append_nil (_ ++ _)]
    simp only [List.append_assoc]
    refine membersRead_texts rfl s.primaryColor rfl ?_
    refine membersRead_texts rfl s.textColor rfl ?_
    refine membersRead_texts rfl s.borderColor rfl ?_
    refine membersRead_texts rfl s.cardBackground rfl ?_
    exact membersRead_texts rfl s.fontFamily rfl (.nil s)
  · exact Json.forall_required rfl

/-! ## Definitions -/

/-- The members that a definition does not know are put in the order of their keys. -/
theorem Definition.membersRead_unknown {members : Members}
    (hordered : ∀ m ∈ members, Ordered m.2)
    (hwhole : ∀ m ∈ members, m.2.hasWholeNumbers = true)
    (hunknown : ∀ m ∈ members, Definition.isKnown m.1 = false) (d : Definition) :
    MembersRead Definition.fields (Json.kept Definition.keep) members d
      { d with
        extra := members.foldl (fun found m => Members.insert m.1 m.2 found) d.extra } := by
  induction members generalizing d with
  | nil => exact .nil d
  | cons m members ih =>
      obtain ⟨hv, hordered⟩ := List.forall_mem_cons.1 hordered
      obtain ⟨hnumbers, hwhole⟩ := List.forall_mem_cons.1 hwhole
      obtain ⟨hkey, hunknown⟩ := List.forall_mem_cons.1 hunknown
      have hnone : Json.field? Definition.fields m.1 = none := by
        simpa [Definition.isKnown] using hkey
      have hread : (Json.memberDecoder Definition.fields (Json.kept Definition.keep) m.1).Reads
          m.2 (Definition.keep m.1 m.2) := by
        rw [Json.memberDecoder_other hnone]
        exact (Json.reads_anything hv hnumbers).map _
      exact .cons hread (ih hordered hwhole hunknown (Definition.keep m.1 m.2 d))

namespace Definition.Storable

variable {d : Definition}

theorem membersRead (h : d.Storable) : MembersRead Definition.fields
    (Json.kept Definition.keep) (d.knownMembers ++ d.extra) .blank d := by
  obtain ⟨hsorted, hextra⟩ := Json.keepable_obj.1 h.extra
  have hunknown := Definition.membersRead_unknown (fun m hm => (hextra m hm).ordered)
    (fun m hm => (hextra m hm).fits.whole) h.unknown { d with extra := [] }
  have hsame : d.extra.foldl (fun found m => Members.insert m.1 m.2 found) [] = d.extra :=
    hsorted.sorted_eq
  simp only [hsame] at hunknown
  have hquestions : (Json.list Question.decoder).Reads
      (.arr (d.questions.map Question.toJson)) d.questions := by
    apply Json.reads_list
    rw [List.forall₂_map_left_iff, List.forall₂_same]
    exact fun q hq => (h.questions q hq).reads
  unfold Definition.knownMembers
  simp only [List.append_assoc, List.cons_append, List.nil_append]
  refine .field rfl (Json.reads_text d.id) ?_
  refine membersRead_texts rfl d.title rfl ?_
  refine .field rfl hquestions ?_
  refine .field rfl h.starScale.reads ?_
  refine .field rfl h.video.reads ?_
  refine .field rfl d.styling.reads ?_
  refine membersRead_texts rfl d.thankYouMessage rfl ?_
  refine membersRead_texts rfl d.thankYouSubtext rfl ?_
  refine membersRead_unsigned rfl h.thankYouDuration rfl ?_
  refine membersRead_texts rfl d.createdAt rfl ?_
  exact membersRead_texts rfl d.updatedAt rfl hunknown

/-- **A storable definition is read from its text.** -/
theorem reads (h : d.Storable) : Definition.decoder.Reads d.toJson d :=
  ⟨h.fits.whole, fun l level _ hdepth =>
    Json.readsBack_open h.membersRead h.orderly.distinct (Json.forall_required rfl) l level hdepth⟩

theorem ofText_text (h : d.Storable) : Definition.decoder.ofText d.text = .ok d :=
  h.reads.ofText h.fits.depth

end Definition.Storable

end VideoSurvey.Survey
