import VideoSurvey.Proofs.Json.Yields
import VideoSurvey.Proofs.Survey.Codec

/-!
# Surveys and the members they are written as

A definition is regular when what it holds as it was given is in order, its integers are those of
their types, and its unknown members bear no key that it knows. Whatever is read from an object in
order is regular (`Definition.FoundIn.regular`). A regular definition is written as members with
distinct keys and is read back from them exactly (`Definition.Regular.ofJson_toSortedJson`), with
its unknown members among them as they were (`Definition.Orderly.lookup_unknown`). Each kind of part
has its own law, from which that of a definition is put together. No text comes in here, so nothing
is asked of the numbers.
-/

set_option autoImplicit false

namespace VideoSurvey.Survey

open Json (Members RecordField Independent found Ordered)
open Results

/-! ## Members that may be left out -/

section OptionalMember

variable {α : Type} {toJson : α → Json}

@[simp] theorem lookup_optionalMember (key key' : String) (o : Option α) :
    Members.lookup key (optionalMember key' o toJson) =
      if key' = key then o.map toJson else none := by
  cases o with
  | none => simp [optionalMember]
  | some a => simp [optionalMember]

theorem forall_mem_optionalMember {P : String × Json → Prop} {key : String} {o : Option α} :
    (∀ m ∈ optionalMember key o toJson, P m) ↔ ∀ a ∈ o, P (key, toJson a) := by
  cases o with
  | none => simp [optionalMember]
  | some a => simp [optionalMember]

theorem keys_optionalMember (key : String) (o : Option α) :
    ((optionalMember key o toJson).map Prod.fst).Sublist [key] := by
  cases o with
  | none => exact List.nil_sublist _
  | some a => exact List.Sublist.refl _

end OptionalMember

/-! ## Parts are read back -/

section Parts

variable {read : Members} {key : String}

theorem found_text {s : String} (h : read.lookup key = some (Json.str s)) (default : String) :
    found read key Json.text default = .ok s :=
  Json.found_some h _ _

theorem found_texts {o : Option String} (h : read.lookup key = o.map Json.str) :
    found read key (Json.optional Json.text) none = .ok o := by
  apply Json.found_optional h (fun _ _ => rfl)
  intro s hnull
  cases hnull

theorem found_numbers {o : Option Decimal.Number} (h : read.lookup key = o.map Json.num) :
    found read key (Json.optional Json.anyNumber) none = .ok o := by
  apply Json.found_optional h (fun _ _ => rfl)
  intro n hnull
  cases hnull

theorem found_signed {o : Option Int} (h : read.lookup key = o.map Json.ofInt)
    (hrange : ∀ n ∈ o, Json.signed64.ofJson (.ofInt n) = .ok n) :
    found read key (Json.optional Json.signed64) none = .ok o := by
  apply Json.found_optional h hrange
  intro n hnull
  cases hnull

theorem found_unsigned {o : Option Nat} (h : read.lookup key = o.map Json.ofNat)
    (hrange : ∀ n ∈ o, Json.unsigned64.ofJson (.ofNat n) = .ok n) :
    found read key (Json.optional Json.unsigned64) none = .ok o := by
  apply Json.found_optional h hrange
  intro n hnull
  cases hnull

end Parts

@[simp] theorem sortKeys_str (s : String) : Json.sortKeys (.str s) = .str s := rfl

@[simp] theorem sortKeys_comp_str : Json.sortKeys ∘ Json.str = Json.str := rfl

@[simp] theorem sortKeys_comp_num : Json.sortKeys ∘ Json.num = Json.num := rfl

@[simp] theorem sortKeys_comp_ofInt : Json.sortKeys ∘ Json.ofInt = Json.ofInt := rfl

@[simp] theorem sortKeys_comp_ofNat : Json.sortKeys ∘ Json.ofNat = Json.ofNat := rfl

theorem Question.keys_toJson (q : Question) :
    (([("type", Json.str q.kind.name), ("text", .str q.text)] ++
      optionalMember "trackId" q.trackId .str ++
      optionalMember "trackName" q.trackName .str ++
      optionalMember "placeholder" q.placeholder .str).map Prod.fst).Sublist
        (Question.fields.map RecordField.key) := by
  simp only [List.map_append]
  exact (((List.Sublist.refl ["type", "text"]).append (keys_optionalMember "trackId" _)).append
    (keys_optionalMember "trackName" _)).append (keys_optionalMember "placeholder" _)

/-- The kind of a question is told by its name. -/
def Question.Storable (q : Question) : Prop := Kind.ofName q.kind.name = q.kind

theorem Question.Storable.read_toJson {q : Question} (h : q.Storable) :
    Question.decoder.ofJson q.toJson.sortKeys = .ok q := by
  refine Json.record_sortKeys Question.independent q.keys_toJson ?_ ?_
  · exact List.forall_mem_cons.2 ⟨fun _ => rfl, Json.forall_required rfl⟩
  · intro read hread
    have hkind := found_text (by simpa using hread "type") "text"
    have htext := found_text (by simpa using hread "text") ""
    have hid := found_texts (by simpa using hread "trackId")
    have hname := found_texts (by simpa using hread "trackName")
    have hplaceholder := found_texts (by simpa using hread "placeholder")
    refine (Json.applied_cons_eq_ok "text" rfl).2 ⟨_, hkind, ?_⟩
    refine (Json.applied_cons_eq_ok "" rfl).2 ⟨_, htext, ?_⟩
    refine (Json.applied_cons_eq_ok none rfl).2 ⟨_, hid, ?_⟩
    refine (Json.applied_cons_eq_ok none rfl).2 ⟨_, hname, ?_⟩
    refine (Json.applied_cons_eq_ok none rfl).2 ⟨_, hplaceholder, ?_⟩
    show Except.ok _ = _
    rw [show Kind.ofName q.kind.name = q.kind from h]

/-- The stars are an integer of 64 bits. -/
def StarScale.Storable (s : StarScale) : Prop :=
  ∀ n ∈ s.maxStars, Json.signed64.ofJson (.ofInt n) = .ok n

theorem StarScale.Storable.read_toJson {s : StarScale} (h : s.Storable) :
    StarScale.decoder.ofJson s.toJson.sortKeys = .ok s := by
  refine Json.record_sortKeys StarScale.independent (keys_optionalMember "maxStars" _)
    (Json.forall_required rfl) ?_
  intro read hread
  have hstars := found_signed (by simpa using hread "maxStars") h
  exact (Json.applied_cons_eq_ok none rfl).2 ⟨_, hstars, rfl⟩

theorem Video.keys_toJson (v : Video) :
    (([("host", Json.str v.host), ("videoId", .str v.videoId)] ++
      optionalMember "startTime" v.startTime .num ++
      optionalMember "endTime" v.endTime .num ++
      optionalMember "continueTime" v.continueTime Json.ofInt ++
      [("params", Json.obj v.params)]).map Prod.fst).Sublist
        (Video.fields.map RecordField.key) := by
  simp only [List.map_append]
  exact ((((List.Sublist.refl ["host", "videoId"]).append
    (keys_optionalMember "startTime" _)).append (keys_optionalMember "endTime" _)).append
    (keys_optionalMember "continueTime" _)).append (List.Sublist.refl ["params"])

theorem Video.Parts.read_toJson {v : Video} (h : v.Parts Ordered) :
    Video.decoder.ofJson v.toJson.sortKeys = .ok v := by
  refine Json.record_sortKeys Video.independent v.keys_toJson ?_ ?_
  · exact Json.forall_required rfl
  · intro read hread
    have hhost := found_text (by simpa using hread "host") ""
    have hid := found_text (by simpa using hread "videoId") ""
    have hstart := found_numbers (by simpa using hread "startTime")
    have hend := found_numbers (by simpa using hread "endTime")
    have hcontinue := found_signed (by simpa using hread "continueTime") h.continueTime
    have hparams : found read "params" Json.table [] = .ok v.params := by
      have hlookup : read.lookup "params" = some (Json.sortKeys (.obj v.params)) := by
        simpa using hread "params"
      rw [Json.sortKeys_of_ordered h.params] at hlookup
      exact Json.found_some hlookup _ _
    refine (Json.applied_cons_eq_ok "" rfl).2 ⟨_, hhost, ?_⟩
    refine (Json.applied_cons_eq_ok "" rfl).2 ⟨_, hid, ?_⟩
    refine (Json.applied_cons_eq_ok none rfl).2 ⟨_, hstart, ?_⟩
    refine (Json.applied_cons_eq_ok none rfl).2 ⟨_, hend, ?_⟩
    refine (Json.applied_cons_eq_ok none rfl).2 ⟨_, hcontinue, ?_⟩
    exact (Json.applied_cons_eq_ok [] rfl).2 ⟨_, hparams, rfl⟩

theorem Styling.keys_toJson (s : Styling) :
    ((optionalMember "primaryColor" s.primaryColor Json.str ++
      optionalMember "textColor" s.textColor .str ++
      optionalMember "borderColor" s.borderColor .str ++
      optionalMember "cardBackground" s.cardBackground .str ++
      optionalMember "fontFamily" s.fontFamily .str).map Prod.fst).Sublist
        (Styling.fields.map RecordField.key) := by
  simp only [List.map_append]
  exact ((((keys_optionalMember "primaryColor" _).append (keys_optionalMember "textColor" _)).append
    (keys_optionalMember "borderColor" _)).append (keys_optionalMember "cardBackground" _)).append
    (keys_optionalMember "fontFamily" _)

theorem Styling.read_toJson (s : Styling) : Styling.decoder.ofJson s.toJson.sortKeys = .ok s := by
  refine Json.record_sortKeys Styling.independent s.keys_toJson ?_ ?_
  · exact Json.forall_required rfl
  · intro read hread
    have hprimary := found_texts (by simpa using hread "primaryColor")
    have htext := found_texts (by simpa using hread "textColor")
    have hborder := found_texts (by simpa using hread "borderColor")
    have hcard := found_texts (by simpa using hread "cardBackground")
    have hfont := found_texts (by simpa using hread "fontFamily")
    refine (Json.applied_cons_eq_ok none rfl).2 ⟨_, hprimary, ?_⟩
    refine (Json.applied_cons_eq_ok none rfl).2 ⟨_, htext, ?_⟩
    refine (Json.applied_cons_eq_ok none rfl).2 ⟨_, hborder, ?_⟩
    refine (Json.applied_cons_eq_ok none rfl).2 ⟨_, hcard, ?_⟩
    exact (Json.applied_cons_eq_ok none rfl).2 ⟨_, hfont, rfl⟩

/-! ## Members in order -/

/-- The members that a definition does not know stand in order and bear no key that it knows. -/
structure Definition.Orderly (d : Definition) : Prop where
  sorted : d.extra.Sorted
  unknown : ∀ m ∈ d.extra, Definition.isKnown m.1 = false

theorem Definition.keys_knownMembers (d : Definition) :
    (d.knownMembers.map Prod.fst).Sublist (Definition.fields.map RecordField.key) := by
  simp only [Definition.knownMembers, List.map_append]
  exact (((((((List.Sublist.refl ["id"]).append (keys_optionalMember "title" _)).append
    (List.Sublist.refl ["questions", "starRating", "videoConfig", "styling"])).append
    (keys_optionalMember "thankYouMessage" _)).append
    (keys_optionalMember "thankYouSubtext" _)).append
    (keys_optionalMember "thankYouDuration" _)).append
    (keys_optionalMember "createdAt" _)).append (keys_optionalMember "updatedAt" _)

theorem Definition.isKnown_iff {key : String} :
    Definition.isKnown key = true ↔ key ∈ Definition.fields.map RecordField.key := by
  unfold Definition.isKnown Json.field?
  rw [List.find?_isSome, List.mem_map]
  constructor
  · rintro ⟨f, hf, hkey⟩
    exact ⟨f, hf, of_decide_eq_true hkey⟩
  · rintro ⟨f, hf, hkey⟩
    exact ⟨f, hf, decide_eq_true hkey⟩

theorem Definition.isKnown_of_mem {d : Definition} {m : String × Json}
    (hm : m ∈ d.knownMembers) : Definition.isKnown m.1 = true :=
  Definition.isKnown_iff.2 (d.keys_knownMembers.subset (List.mem_map_of_mem hm))

namespace Definition.Orderly

variable {d : Definition}

/-- No two members of a definition bear one key. -/
theorem distinct (h : d.Orderly) : Members.Distinct (d.knownMembers ++ d.extra) := by
  refine List.pairwise_append.2 ⟨?_, h.sorted.distinct, ?_⟩
  · exact Definition.independent.distinct d.keys_knownMembers
  · intro a ha b hb heq
    have hunknown := h.unknown b hb
    rw [← heq, Definition.isKnown_of_mem ha] at hunknown
    cases hunknown

theorem lookup_extra (h : d.Orderly) {key : String} (hkey : Definition.isKnown key = true) :
    d.extra.lookup key = none := by
  apply Members.lookup_eq_none.2
  intro m hm heq
  have hunknown := h.unknown m hm
  rw [heq, hkey] at hunknown
  cases hunknown

end Definition.Orderly

/-- The members of a definition in the order of their keys. -/
def Definition.sortedMembers (d : Definition) : Members :=
  Members.sorted ((d.knownMembers ++ d.extra).map fun m => (m.1, m.2.sortKeys))

theorem Definition.toSortedJson_eq (d : Definition) : d.toSortedJson = .obj d.sortedMembers :=
  Json.sortKeys_obj _

theorem Definition.sortedMembers_ordered (d : Definition) : Ordered (.obj d.sortedMembers) := by
  rw [← d.toSortedJson_eq]
  exact Json.sortKeys_ordered d.toJson

namespace Definition.Orderly

variable {d : Definition}

theorem lookup_known (h : d.Orderly) (key : String) (hkey : Definition.isKnown key = true) :
    d.sortedMembers.lookup key = (d.knownMembers.lookup key).map Json.sortKeys := by
  rw [Definition.sortedMembers, Json.lookup_sortKeys h.distinct, Members.lookup_append,
    h.lookup_extra hkey, Option.or_none]

theorem lookup_unknown (h : d.Orderly) {key : String} (hkey : Definition.isKnown key = false) :
    d.sortedMembers.lookup key = (d.extra.lookup key).map Json.sortKeys := by
  have hknown : d.knownMembers.lookup key = none := by
    apply Members.lookup_eq_none.2
    intro m hm heq
    have hm' := Definition.isKnown_of_mem hm
    rw [heq, hkey] at hm'
    cases hm'
  rw [Definition.sortedMembers, Json.lookup_sortKeys h.distinct, Members.lookup_append, hknown,
    Option.none_or]

end Definition.Orderly

/-! ## The shape of what is written -/

/-- A question that is written has its type. -/
theorem Question.questionFault?_toJson (q : Question) :
    questionFault? q.toJson.sortKeys = none := by
  have hdistinct := Question.independent.distinct q.keys_toJson
  have htype := Json.lookup_sortKeys hdistinct "type"
  unfold Question.toJson
  rw [Json.sortKeys_obj]
  simp only [questionFault?, htype]
  rfl

theorem firstFault?_eq_none {questions : List Json}
    (h : ∀ v ∈ questions, questionFault? v = none) (position : Nat) :
    firstFault? position questions = none := by
  induction questions generalizing position with
  | nil => rfl
  | cons v r ih =>
      unfold firstFault?
      rw [h v List.mem_cons_self]
      exact ih (fun w hw => h w (List.mem_cons_of_mem v hw)) (position + 1)

theorem Definition.Orderly.lookup_questions {d : Definition} (h : d.Orderly) :
    d.sortedMembers.lookup "questions" =
      some (Json.sortKeys (.arr (d.questions.map Question.toJson))) := by
  simpa [Definition.knownMembers] using h.lookup_known "questions" rfl

theorem Definition.Orderly.shapeFault?_sortedMembers {d : Definition} (h : d.Orderly) :
    shapeFault? d.sortedMembers = none := by
  unfold shapeFault?
  rw [h.lookup_questions, Json.sortKeys_arr]
  apply firstFault?_eq_none
  intro v hv
  rw [List.map_map] at hv
  obtain ⟨q, -, rfl⟩ := List.mem_map.1 hv
  exact q.questionFault?_toJson

/-! ## Regular definitions -/

/-- A definition such as an object in order is read as. -/
structure Definition.Regular (d : Definition) : Prop where
  questions : ∀ q ∈ d.questions, q.Storable
  starScale : d.starScale.Storable
  video : d.video.Parts Ordered
  thankYouDuration : ∀ n ∈ d.thankYouDuration, Json.unsigned64.ofJson (.ofNat n) = .ok n
  extra : Ordered (.obj d.extra)
  unknown : ∀ m ∈ d.extra, Definition.isKnown m.1 = false

namespace Definition.Regular

variable {d : Definition}

theorem orderly (h : d.Regular) : d.Orderly := ⟨(Json.ordered_obj.1 h.extra).1, h.unknown⟩

theorem read_questions (h : d.Regular) :
    (Json.list Question.decoder).ofJson (Json.sortKeys (.arr (d.questions.map Question.toJson))) =
      .ok d.questions := by
  rw [Json.sortKeys_arr]
  refine Json.list_eq_ok.2 ⟨_, rfl, ?_⟩
  rw [List.map_map, List.forall₂_map_left_iff]
  apply List.forall₂_same.2
  intro q hq
  exact (h.questions q hq).read_toJson

/-- **Every part of a regular definition is found among its members in order.** -/
theorem foundIn_sortedMembers (h : d.Regular) : d.FoundIn d.sortedMembers where
  id := found_text (by simpa [knownMembers] using h.orderly.lookup_known "id" rfl) _
  title := found_texts (by simpa [knownMembers] using h.orderly.lookup_known "title" rfl)
  questions := by
    rw [Json.found_some h.orderly.lookup_questions, h.read_questions]
  starScale := by
    have hlookup : d.sortedMembers.lookup "starRating" = some d.starScale.toJson.sortKeys := by
      simpa [knownMembers] using h.orderly.lookup_known "starRating" rfl
    rw [Json.found_some hlookup, h.starScale.read_toJson]
  video := by
    have hlookup : d.sortedMembers.lookup "videoConfig" = some d.video.toJson.sortKeys := by
      simpa [knownMembers] using h.orderly.lookup_known "videoConfig" rfl
    rw [Json.found_some hlookup, h.video.read_toJson]
  styling := by
    have hlookup : d.sortedMembers.lookup "styling" = some d.styling.toJson.sortKeys := by
      simpa [knownMembers] using h.orderly.lookup_known "styling" rfl
    rw [Json.found_some hlookup, d.styling.read_toJson]
  thankYouMessage :=
    found_texts (by simpa [knownMembers] using h.orderly.lookup_known "thankYouMessage" rfl)
  thankYouSubtext :=
    found_texts (by simpa [knownMembers] using h.orderly.lookup_known "thankYouSubtext" rfl)
  thankYouDuration :=
    found_unsigned (by simpa [knownMembers] using h.orderly.lookup_known "thankYouDuration" rfl)
      h.thankYouDuration
  createdAt := found_texts (by simpa [knownMembers] using h.orderly.lookup_known "createdAt" rfl)
  updatedAt := found_texts (by simpa [knownMembers] using h.orderly.lookup_known "updatedAt" rfl)
  extra := by
    have hsorted : d.sortedMembers.Sorted := Members.sorted_sorted _
    apply (Json.ordered_obj.1 h.extra).1.ext (hsorted.filter _)
    -- both are in order, so it is enough to compare what is looked up in them
    intro key
    have hfilter := Members.lookup_filter key (fun key => !Definition.isKnown key) d.sortedMembers
    rw [hfilter]
    cases hkey : Definition.isKnown key with
    | true => exact h.orderly.lookup_extra hkey
    | false =>
        have hunknown := h.orderly.lookup_unknown hkey
        rw [h.extra.lookup_map_sortKeys] at hunknown
        exact hunknown.symm

/-- A regular definition is read back from its JSON form. -/
theorem ofJson_toSortedJson (h : d.Regular) : Definition.ofJson d.toSortedJson = .ok d := by
  rw [d.toSortedJson_eq]
  apply Definition.ofJson_eq_ok.2
  refine ⟨h.orderly.shapeFault?_sortedMembers, ?_⟩
  exact (Definition.ofMembers_eq_ok (Members.sorted_sorted _).distinct).2 h.foundIn_sortedMembers

end Definition.Regular

/-! ## What is read is regular -/

theorem Question.yields : Question.decoder.Yields Question.Storable := by
  refine Json.yields_record ?_ rfl
  -- whatever name a kind is given, it is told by the name that it is written with
  refine .cons (.trivial Json.text)
      (fun name _ _ _ => congrArg Kind.ofName (Kind.name_ofName name)) <|
    .cons (.trivial Json.text) (fun _ _ _ h => h) <|
    .cons (.trivial (Json.optional Json.text)) (fun _ _ _ h => h) <|
    .cons (.trivial (Json.optional Json.text)) (fun _ _ _ h => h) <|
    .cons (.trivial (Json.optional Json.text)) (fun _ _ _ h => h) Json.fieldsKeep_nil

theorem StarScale.yields : StarScale.decoder.Yields StarScale.Storable := by
  refine Json.yields_record ?_ nofun
  exact .cons (Json.yields_optional Json.yields_signed64) (fun _ _ hstars _ => hstars)
    Json.fieldsKeep_nil

theorem Definition.FoundIn.orderly {d : Definition} {members : Members} (h : d.FoundIn members)
    (hmembers : members.Sorted) : d.Orderly := by
  refine ⟨?_, ?_⟩
  · rw [h.extra]
    exact hmembers.filter _
  · intro m hm
    rw [h.extra] at hm
    simpa using (List.mem_filter.1 hm).2

/-- **A definition found among members in order is regular.** -/
theorem Definition.FoundIn.regular {d : Definition} {members : Members} (h : d.FoundIn members)
    (hmembers : Ordered (.obj members)) : d.Regular where
  questions := by
    intro q hq
    rcases Json.found_eq_ok h.questions with hnil | ⟨v, -, hv⟩
    · rw [hnil] at hq
      cases hq
    · obtain ⟨items, rfl, heach⟩ := Json.list_eq_ok.1 hv
      obtain ⟨w, -, hw⟩ := exists_of_forall₂ heach hq
      exact Question.yields.ofJson hw
  starScale := by
    rcases Json.found_eq_ok h.starScale with hblank | ⟨v, -, hv⟩
    · rw [hblank]
      rintro n ⟨⟩
    · exact StarScale.yields.ofJson hv
  video := by
    apply h.video_parts (.obj List.Pairwise.nil (List.forall_mem_nil _))
    intro v hlookup
    exact (hmembers.lookup hlookup).each
  thankYouDuration := by
    intro n hn
    have hfound := h.thankYouDuration
    rw [Option.mem_def.1 hn] at hfound
    rcases Json.found_eq_ok hfound with hnone | ⟨v, -, hv⟩
    · cases hnone
    · have hread := Json.optional_eq_some hv
      rw [← (Json.unsigned64_eq_ok hread).1]
      exact hread
  extra := by
    rw [h.extra]
    exact hmembers.filter _
  unknown := (h.orderly (Json.ordered_obj.1 hmembers).1).unknown

/-- Unknown members are written as they were read. -/
theorem Definition.FoundIn.lookup_unknown {d : Definition} {members : Members}
    (h : d.FoundIn members) (hmembers : Ordered (.obj members)) {key : String}
    (hkey : Definition.isKnown key = false) :
    d.sortedMembers.lookup key = members.lookup key := by
  have hregular := h.regular hmembers
  have hfilter := Members.lookup_filter key (fun key => !Definition.isKnown key) members
  rw [if_pos (by simp [hkey]), ← h.extra] at hfilter
  rw [hregular.orderly.lookup_unknown hkey, hregular.extra.lookup_map_sortKeys, hfilter]

/-- **What is read and written is read again.** Take any object that describes a survey, with
members that are not known, options that are null and records that are written as arrays. The
members of the survey's JSON form that are not known are those of the object, with the same values
and no other; the survey's text bears each key once; and the JSON form describes the very same
survey. -/
theorem Definition.json_form_of_read {members : Members} {d : Definition}
    (hmembers : Ordered (.obj members)) (h : Definition.ofJson (.obj members) = .ok d) :
    (∃ written : Members, d.toSortedJson = .obj written ∧ Ordered (.obj written) ∧
        ∀ key, key ∉ ["id", "title", "questions", "starRating", "videoConfig", "styling",
            "thankYouMessage", "thankYouSubtext", "thankYouDuration", "createdAt", "updatedAt"] →
          written.lookup key = members.lookup key) ∧
      (∃ listed : Members, d.text = (Json.obj listed).compactText ∧
        (listed.map Prod.fst).Nodup) ∧
      Definition.ofJson d.toSortedJson = .ok d := by
  have hdistinct := (Json.ordered_obj.1 hmembers).1.distinct
  have hfound := (Definition.ofMembers_eq_ok hdistinct).1 (Definition.ofJson_eq_ok.1 h).2
  have hregular := hfound.regular hmembers
  refine ⟨⟨d.sortedMembers, d.toSortedJson_eq, d.sortedMembers_ordered, ?_⟩, ⟨_, rfl, ?_⟩,
    hregular.ofJson_toSortedJson⟩
  · intro key hkey
    apply hfound.lookup_unknown hmembers
    exact Bool.eq_false_iff.2 fun hknown => hkey (Definition.isKnown_iff.1 hknown)
  · exact List.pairwise_map.2 hregular.orderly.distinct

/-- A survey with a member that is not known, a question of an unrecognized type, a star scale that
is written as an array, and no title. -/
theorem Definition.json_form_of_read_mixed :
    let members : Members :=
      [("questions", .arr [.obj [("hint", .null), ("type", .str "slider")]]),
        ("starRating", .arr [Json.ofInt 4]), ("title", .null),
        ("zone", .obj [("a", .arr [.null])])]
    ∃ d : Definition, Ordered (.obj members) ∧ Definition.ofJson (.obj members) = .ok d ∧
      d.starScale = ⟨some 4⟩ ∧
      (∃ written : Members, d.toSortedJson = .obj written ∧
        written.lookup "zone" = some (.obj [("a", .arr [.null])])) ∧
      Definition.ofJson d.toSortedJson = .ok d := by
  intro members
  have hordered : Ordered (.obj members) := Json.sortKeys_ordered (.obj members)
  refine ⟨_, hordered, rfl, rfl, ?_, (Definition.json_form_of_read hordered rfl).2.2⟩
  obtain ⟨⟨written, hwritten, -, hkeys⟩, -⟩ := Definition.json_form_of_read hordered rfl
  exact ⟨written, hwritten, hkeys "zone" (by decide)⟩

end VideoSurvey.Survey
