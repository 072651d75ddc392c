import VideoSurvey.Proofs.Json.Records
import VideoSurvey.Survey.Codec

/-!
# Surveys out of members, field by field

A definition is read from members exactly when each of its fields finds its part among them
(`Definition.ofMembers_eq_ok`). The fields of a record set different parts of it, so none hinders
another, and the order of the members is of no account. What a video takes over as it stands has
whatever the value had that it was read from (`Video.parts_of_read`).
-/

set_option autoImplicit false

namespace VideoSurvey.Survey

open Json (Members RecordField Independent found)
open Results

/-! ## Fields hinder no other fields -/

theorem Question.independent : Independent Question.fields := by
  simp [Independent, Question.fields, RecordField.needed, RecordField.defaulted,
    RecordField.commutes_of_set]

theorem StarScale.independent : Independent StarScale.fields := by
  simp [Independent, StarScale.fields]

theorem Video.independent : Independent Video.fields := by
  simp [Independent, Video.fields, RecordField.defaulted, RecordField.commutes_of_set]

theorem Styling.independent : Independent Styling.fields := by
  simp [Independent, Styling.fields, RecordField.defaulted, RecordField.commutes_of_set]

theorem Definition.independent : Independent Definition.fields := by
  simp [Independent, Definition.fields, RecordField.defaulted, RecordField.commutes_of_set]

/-! ## What is taken over as it stands -/

/-- The parts of a video that are taken over have a property, and the time at which it goes on is
an integer of 64 bits. -/
structure Video.Parts (Q : Json → Prop) (v : Video) : Prop where
  startTime : ∀ n ∈ v.startTime, Q (.num n)
  endTime : ∀ n ∈ v.endTime, Q (.num n)
  continueTime : ∀ n ∈ v.continueTime, Json.signed64.ofJson (.ofInt n) = .ok n
  params : Q (.obj v.params)

theorem Video.blank_parts {Q : Json → Prop} (h : Q (.obj [])) : Video.blank.Parts Q := by
  refine ⟨?_, ?_, ?_, h⟩
  all_goals rintro n ⟨⟩

theorem Video.Parts.imp {Q Q' : Json → Prop} {v : Video} (h : v.Parts Q) (hQ : ∀ w, Q w → Q' w) :
    v.Parts Q' :=
  ⟨fun n hn => hQ _ (h.startTime n hn), fun n hn => hQ _ (h.endTime n hn), h.continueTime,
    hQ _ h.params⟩

/-- What holds of the parts of a value, the parts of a video have that is read from it. -/
theorem Video.parts_of_read {Q : Json → Prop} {v : Json} {video : Video} (hblank : Q (.obj []))
    (hparts : v.Each Q) (h : Video.decoder.ofJson v = .ok video) : video.Parts Q := by
  refine Json.record_invariant (Q := Q) ?_ (Video.blank_parts hblank) hparts h
  intro f hf w change video hw hchange hvideo
  simp only [Video.fields, List.mem_cons, List.not_mem_nil, or_false] at hf
  rcases hf with rfl | rfl | rfl | rfl | rfl | rfl
  · obtain ⟨_, -, rfl⟩ := RecordField.change_eq_ok hchange
    exact ⟨hvideo.startTime, hvideo.endTime, hvideo.continueTime, hvideo.params⟩
  · obtain ⟨_, -, rfl⟩ := RecordField.change_eq_ok hchange
    exact ⟨hvideo.startTime, hvideo.endTime, hvideo.continueTime, hvideo.params⟩
  · obtain ⟨o, ho, rfl⟩ := RecordField.change_eq_ok hchange
    refine ⟨?_, hvideo.endTime, hvideo.continueTime, hvideo.params⟩
    rintro n ⟨⟩
    exact Json.anyNumber_eq_ok.1 (Json.optional_eq_some ho) ▸ hw
  · obtain ⟨o, ho, rfl⟩ := RecordField.change_eq_ok hchange
    refine ⟨hvideo.startTime, ?_, hvideo.continueTime, hvideo.params⟩
    rintro n ⟨⟩
    exact Json.anyNumber_eq_ok.1 (Json.optional_eq_some ho) ▸ hw
  · obtain ⟨o, ho, rfl⟩ := RecordField.change_eq_ok hchange
    refine ⟨hvideo.startTime, hvideo.endTime, ?_, hvideo.params⟩
    rintro n ⟨⟩
    have hread := Json.optional_eq_some ho
    rw [← Json.signed64_eq_ok hread]
    exact hread
  · -- the parameters are taken over whole, whatever they hold
    obtain ⟨members, hmembers, rfl⟩ := RecordField.change_eq_ok hchange
    refine ⟨hvideo.startTime, hvideo.endTime, hvideo.continueTime, ?_⟩
    exact Json.table_eq_ok.1 hmembers ▸ hw

/-! ## Definitions, field by field -/

/-- Each part of a definition is what its field finds among some members, and the members with
other keys are kept. -/
structure Definition.FoundIn (members : Members) (d : Definition) : Prop where
  id : found members "id" Json.text "" = .ok d.id
  title : found members "title" (Json.optional Json.text) none = .ok d.title
  questions : found members "questions" (Json.list Question.decoder) [] = .ok d.questions
  starScale : found members "starRating" StarScale.decoder .blank = .ok d.starScale
  video : found members "videoConfig" Video.decoder .blank = .ok d.video
  styling : found members "styling" Styling.decoder .blank = .ok d.styling
  thankYouMessage :
    found members "thankYouMessage" (Json.optional Json.text) none = .ok d.thankYouMessage
  thankYouSubtext :
    found members "thankYouSubtext" (Json.optional Json.text) none = .ok d.thankYouSubtext
  thankYouDuration :
    found members "thankYouDuration" (Json.optional Json.unsigned64) none = .ok d.thankYouDuration
  createdAt : found members "createdAt" (Json.optional Json.text) none = .ok d.createdAt
  updatedAt : found members "updatedAt" (Json.optional Json.text) none = .ok d.updatedAt
  extra : d.extra = members.filter fun m => !Definition.isKnown m.1

/-- The video of a definition has the parts of the member that it was read from. -/
theorem Definition.FoundIn.video_parts {members : Members} {d : Definition}
    (h : d.FoundIn members) {Q : Json → Prop} (hblank : Q (.obj []))
    (hparts : ∀ v, members.lookup "videoConfig" = some v → v.Each Q) : d.video.Parts Q := by
  rcases Json.found_eq_ok h.video with hnone | ⟨v, hlookup, hv⟩
  · -- no video is given
    rw [hnone]
    exact Video.blank_parts hblank
  · exact Video.parts_of_read hblank (hparts v hlookup) hv

/-- The known members are read as the fields make changes of them, in any order. -/
theorem Definition.ofMembers_iff_applied {members : Members} (h : members.Distinct)
    {known : Definition} :
    (∃ seen, Json.ofMembers Definition.fields [] .blank members = .ok (seen, known)) ↔
      Json.applied Definition.fields members .blank = .ok known :=
  Json.ofMembers_iff_applied Definition.independent h fun _ _ => List.not_mem_nil

/-- **A definition is read from members exactly when each field finds its part.** -/
theorem Definition.ofMembers_eq_ok {members : Members} (h : members.Distinct) {d : Definition} :
    Definition.ofMembers members = .ok d ↔ d.FoundIn members := by
  have happlied := fun known => @Definition.ofMembers_iff_applied members h known
  constructor
  · intro hread
    obtain ⟨⟨seen, known⟩, hknown, hd⟩ := bind_eq_ok.1 hread
    have hfields := (happlied known).1 ⟨seen, hknown⟩
    -- one field after the other, in the order in which the codec lists them
    obtain ⟨_, hid, hfields⟩ := (Json.applied_cons_eq_ok "" rfl).1 hfields
    obtain ⟨_, htitle, hfields⟩ := (Json.applied_cons_eq_ok none rfl).1 hfields
    obtain ⟨_, hquestions, hfields⟩ := (Json.applied_cons_eq_ok [] rfl).1 hfields
    obtain ⟨_, hstars, hfields⟩ := (Json.applied_cons_eq_ok StarScale.blank rfl).1 hfields
    obtain ⟨_, hvideo, hfields⟩ := (Json.applied_cons_eq_ok Video.blank rfl).1 hfields
    obtain ⟨_, hstyling, hfields⟩ := (Json.applied_cons_eq_ok Styling.blank rfl).1 hfields
    obtain ⟨_, hmessage, hfields⟩ := (Json.applied_cons_eq_ok none rfl).1 hfields
    obtain ⟨_, hsubtext, hfields⟩ := (Json.applied_cons_eq_ok none rfl).1 hfields
    obtain ⟨_, hduration, hfields⟩ := (Json.applied_cons_eq_ok none rfl).1 hfields
    obtain ⟨_, hcreated, hfields⟩ := (Json.applied_cons_eq_ok none rfl).1 hfields
    obtain ⟨_, hupdated, hfields⟩ := (Json.applied_cons_eq_ok none rfl).1 hfields
    cases hfields
    cases hd
    exact ⟨hid, htitle, hquestions, hstars, hvideo, hstyling, hmessage, hsubtext, hduration,
      hcreated, hupdated, rfl⟩
  · intro hfound
    -- the fields leave the unknown members alone; these are added last
    have hfields : Json.applied Definition.fields members .blank =
        .ok { d with extra := [] } := by
      refine (Json.applied_cons_eq_ok "" rfl).2 ⟨_, hfound.id, ?_⟩
      refine (Json.applied_cons_eq_ok none rfl).2 ⟨_, hfound.title, ?_⟩
      refine (Json.applied_cons_eq_ok [] rfl).2 ⟨_, hfound.questions, ?_⟩
      refine (Json.applied_cons_eq_ok StarScale.blank rfl).2 ⟨_, hfound.starScale, ?_⟩
      refine (Json.applied_cons_eq_ok Video.blank rfl).2 ⟨_, hfound.video, ?_⟩
      refine (Json.applied_cons_eq_ok Styling.blank rfl).2 ⟨_, hfound.styling, ?_⟩
      refine (Json.applied_cons_eq_ok none rfl).2 ⟨_, hfound.thankYouMessage, ?_⟩
      refine (Json.applied_cons_eq_ok none rfl).2 ⟨_, hfound.thankYouSubtext, ?_⟩
      refine (Json.applied_cons_eq_ok none rfl).2 ⟨_, hfound.thankYouDuration, ?_⟩
      refine (Json.applied_cons_eq_ok none rfl).2 ⟨_, hfound.createdAt, ?_⟩
      exact (Json.applied_cons_eq_ok none rfl).2 ⟨_, hfound.updatedAt, rfl⟩
    obtain ⟨seen, hknown⟩ := (happlied _).2 hfields
    refine bind_eq_ok.2 ⟨_, hknown, ?_⟩
    simp only [← hfound.extra]

/-- Some definition is read from members exactly when each field can tell its change. -/
theorem Definition.exists_ofMembers_iff {members : Members} (h : members.Distinct) :
    (∃ d, Definition.ofMembers members = .ok d) ↔
      ∀ f ∈ Definition.fields, ∀ v, members.lookup f.key = some v →
        ∃ change, f.change.ofJson v = .ok change := by
  refine Iff.trans ?_ (Json.exists_applied_iff (s := Definition.blank))
  constructor
  · rintro ⟨d, hread⟩
    obtain ⟨⟨seen, known⟩, hknown, -⟩ := bind_eq_ok.1 hread
    exact ⟨known, (Definition.ofMembers_iff_applied h).1 ⟨seen, hknown⟩⟩
  · rintro ⟨known, happlied⟩
    obtain ⟨seen, hknown⟩ := (Definition.ofMembers_iff_applied h).2 happlied
    exact ⟨_, bind_eq_ok.2 ⟨_, hknown, rfl⟩⟩

theorem shapeFault?_congr {members members' : Members}
    (h : members.lookup "questions" = members'.lookup "questions") :
    shapeFault? members = shapeFault? members' := by
  unfold shapeFault?
  rw [h]

/-- A definition is read from an object that has the right shape and members of the right types. -/
theorem Definition.ofJson_eq_ok {members : Members} {d : Definition} :
    Definition.ofJson (.obj members) = .ok d ↔
      shapeFault? members = none ∧ Definition.ofMembers members = .ok d := by
  unfold Definition.ofJson
  simp only
  cases shapeFault? members with
  | some fault =>
      constructor
      · intro h
        cases h
      · rintro ⟨h, -⟩
        cases h
  | none =>
      cases Definition.ofMembers members with
      | error mismatch =>
          constructor
          · intro h
            cases h
          · rintro ⟨-, h⟩
            cases h
      | ok d' =>
          constructor
          · intro h
            cases h
            exact ⟨rfl, rfl⟩
          · rintro ⟨-, h⟩
            cases h
            rfl

end VideoSurvey.Survey
