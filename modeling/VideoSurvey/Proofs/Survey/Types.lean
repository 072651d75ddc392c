import VideoSurvey.Proofs.Json.Acceptance
import VideoSurvey.Proofs.Survey.Codec

/-!
# The types of a survey's members

The tables say which values the known members of a survey may have, and of its questions, its star
scale, its video and its styling. A survey is read from an object exactly when its members fit
(`Definition.exists_ofMembers_iff_membersFit`), once each question is an object with a type. Then a
question is of the kind that its type names (`Question.kind_of_read`), and the star scale is the
number that stands there (`StarScale.maxStars_of_read`).
-/

set_option autoImplicit false

namespace VideoSurvey.Survey

open Json (Members Types Ordered RecordField Agree isText isNumber isTable isIntegerIn orNull isListOf
  isRecordOf membersFit found)
open Results

/-! ## Tables -/

/-- An integer of 64 bits with a sign, or `null`. -/
def isSigned64OrNull : Json → Bool :=
  orNull (isIntegerIn (-9223372036854775808) 9223372036854775807)

/-- Members of a question. -/
def Question.types : Types :=
  [("type", isText), ("text", isText), ("trackId", orNull isText), ("trackName", orNull isText),
    ("placeholder", orNull isText)]

/-- Members of a star scale. -/
def StarScale.types : Types := [("maxStars", isSigned64OrNull)]

/-- Members of a video. -/
def Video.types : Types :=
  [("host", isText), ("videoId", isText), ("startTime", orNull isNumber),
    ("endTime", orNull isNumber), ("continueTime", isSigned64OrNull), ("params", isTable)]

/-- Members of a styling. -/
def Styling.types : Types :=
  [("primaryColor", orNull isText), ("textColor", orNull isText), ("borderColor", orNull isText),
    ("cardBackground", orNull isText), ("fontFamily", orNull isText)]

/-- Members of a survey. -/
def Definition.types : Types :=
  [("id", isText), ("title", orNull isText),
    ("questions", isListOf (isRecordOf Question.types)),
    ("starRating", isRecordOf StarScale.types), ("videoConfig", isRecordOf Video.types),
    ("styling", isRecordOf Styling.types), ("thankYouMessage", orNull isText),
    ("thankYouSubtext", orNull isText),
    ("thankYouDuration", orNull (isIntegerIn 0 18446744073709551615)),
    ("createdAt", orNull isText), ("updatedAt", orNull isText)]

/-! ## The fields of each record -/

theorem Question.agree : Agree (fun _ _ => True) Question.types Question.fields := by
  simp [Agree, Question.types, Question.fields, RecordField.needed, RecordField.defaulted]

theorem StarScale.agree : Agree (fun _ _ => True) StarScale.types StarScale.fields := by
  simp [Agree, StarScale.types, StarScale.fields, RecordField.defaulted, isSigned64OrNull]

theorem Video.agree : Agree (fun _ _ => True) Video.types Video.fields := by
  simp [Agree, Video.types, Video.fields, RecordField.defaulted, isSigned64OrNull]

theorem Styling.agree : Agree (fun _ _ => True) Styling.types Styling.fields := by
  simp [Agree, Styling.types, Styling.fields, RecordField.defaulted]

theorem StarScale.takes_eq {v : Json} (hv : Ordered v) :
    StarScale.decoder.takes v = isRecordOf StarScale.types v :=
  Json.takes_record StarScale.independent StarScale.agree (by decide) hv

theorem Video.takes_eq {v : Json} (hv : Ordered v) :
    Video.decoder.takes v = isRecordOf Video.types v :=
  Json.takes_record Video.independent Video.agree (by decide) hv

theorem Styling.takes_eq {v : Json} (hv : Ordered v) :
    Styling.decoder.takes v = isRecordOf Styling.types v :=
  Json.takes_record Styling.independent Styling.agree (by decide) hv

/-! ## Questions with a type -/

/-- The type of a question, if it is an object with a string for one. -/
def typeOf? (question : Json) : Option String :=
  (question.members?.bind (·.lookup "type")).bind Json.str?

theorem typeOf?_eq_some {question : Json} {name : String} :
    typeOf? question = some name ↔
      ∃ members : Members, question = .obj members ∧ members.lookup "type" = some (.str name) := by
  constructor
  · intro h
    obtain ⟨w, hw, hname⟩ := Option.bind_eq_some_iff.1 h
    obtain ⟨members, hmembers, hlookup⟩ := Option.bind_eq_some_iff.1 hw
    cases question with
    | obj found =>
        cases hmembers
        cases w with
        | str s =>
            cases hname
            exact ⟨_, rfl, hlookup⟩
        | _ => cases hname
    | _ => cases hmembers
  · rintro ⟨members, rfl, hlookup⟩
    show (members.lookup "type").bind Json.str? = some name
    rw [hlookup]
    rfl

/-- The shape of a question is right when it has a type. -/
theorem questionFault?_eq_none_iff {question : Json} :
    questionFault? question = none ↔ (typeOf? question).isSome = true := by
  rw [Option.isSome_iff_exists]
  simp only [typeOf?_eq_some]
  unfold questionFault?
  cases question with
  | obj members =>
      cases hlookup : Members.lookup "type" members with
      | none => simp [hlookup]
      | some w => cases w <;> simp [hlookup]
  | _ => simp

section Question

variable {question : Json} {name : String}

/-- A question that has a type is taken when its members fit. -/
theorem Question.takes_of_type (hv : Ordered question) (htype : typeOf? question = some name) :
    Question.decoder.takes question = isRecordOf Question.types question := by
  obtain ⟨members, rfl, hlookup⟩ := typeOf?_eq_some.1 htype
  refine Json.takes_record_obj Question.independent (Json.ordered_obj.1 hv).1.distinct ?_
    (Question.agree.mono fun _ _ _ => trivial)
  -- the type is the one member that has to be there
  exact List.forall_mem_cons.2
    ⟨fun _ => Option.isSome_iff_exists.2 ⟨_, hlookup⟩, Json.forall_required rfl⟩

/-- **A question is of the kind that its type names.** -/
theorem Question.kind_of_read (hv : Ordered question) (htype : typeOf? question = some name)
    {q : Question} (h : Question.decoder.ofJson question = .ok q) : q.kind = .ofName name := by
  obtain ⟨members, rfl, hlookup⟩ := typeOf?_eq_some.1 htype
  have hfields :=
    Json.applied_of_record Question.independent (Json.ordered_obj.1 hv).1.distinct h
  -- the first field sets the kind, and the others leave it alone
  obtain ⟨s, hs, hfields⟩ := (Json.applied_cons_eq_ok "text" rfl).1 hfields
  obtain ⟨_, -, hfields⟩ := (Json.applied_cons_eq_ok "" rfl).1 hfields
  obtain ⟨_, -, hfields⟩ := (Json.applied_cons_eq_ok none rfl).1 hfields
  obtain ⟨_, -, hfields⟩ := (Json.applied_cons_eq_ok none rfl).1 hfields
  obtain ⟨_, -, hfields⟩ := (Json.applied_cons_eq_ok none rfl).1 hfields
  rw [Json.found_some hlookup] at hs
  cases hs
  cases hfields
  rfl

end Question

/-! ## The star scale -/

/-- An integer, if a value is one. -/
def integer? : Json → Option Int
  | .num (.integer n) => some n
  | _ => none

/-- The number of stars that a star scale gives, in either of its forms. -/
def starsOf? : Json → Option Int
  | .obj members => (Members.lookup "maxStars" members).bind integer?
  | .arr (v :: _) => integer? v
  | _ => none

theorem eq_integer?_of_read {v : Json} {o : Option Int}
    (h : (Json.optional Json.signed64).ofJson v = .ok o) : o = integer? v := by
  cases o with
  | some n =>
      rw [Json.signed64_eq_ok (Json.optional_eq_some h)]
      rfl
  | none =>
      by_cases hv : v = .null
      · rw [hv]
        rfl
      · rw [Json.optional_ofJson hv] at h
        cases hn : Json.signed64.ofJson v with
        | error e =>
            rw [hn] at h
            cases h
        | ok n =>
            rw [hn] at h
            cases h

/-- **A star scale holds the number that it gives.** -/
theorem StarScale.maxStars_of_read {v : Json} (hv : Ordered v) {s : StarScale}
    (h : StarScale.decoder.ofJson v = .ok s) : s.maxStars = starsOf? v := by
  cases v with
  | obj members =>
      have hfields :=
        Json.applied_of_record StarScale.independent (Json.ordered_obj.1 hv).1.distinct h
      obtain ⟨o, ho, hfields⟩ := (Json.applied_cons_eq_ok none rfl).1 hfields
      cases hfields
      show o = (Members.lookup "maxStars" members).bind integer?
      cases hlookup : Members.lookup "maxStars" members with
      | none =>
          rw [Json.found_none hlookup] at ho
          cases ho
          rfl
      | some w =>
          rw [Json.found_some hlookup] at ho
          exact eq_integer?_of_read ho
  | arr items =>
      -- an array gives the number as its first item, and has no other
      cases items with
      | nil =>
          cases h
          rfl
      | cons w r =>
          obtain ⟨change, hchange, h⟩ := bind_eq_ok.1 h
          obtain ⟨o, ho, rfl⟩ := RecordField.change_eq_ok hchange
          cases r with
          | nil =>
              cases h
              exact eq_integer?_of_read ho
          | cons w' r => cases h
  | _ => cases h

/-! ## Surveys -/

variable {members : Members}

/-- The tests say what the fields of a survey make of members whose questions have types. -/
theorem Definition.agree (hmembers : Ordered (.obj members))
    (hquestions : ∀ items, members.lookup "questions" = some (.arr items) →
      ∀ q ∈ items, (typeOf? q).isSome = true) :
    Agree (fun key v => members.lookup key = some v) Definition.types Definition.fields := by
  have hlist : ∀ v, members.lookup "questions" = some v →
      isListOf Question.decoder.takes v = isListOf (isRecordOf Question.types) v := by
    intro v hv
    cases v with
    | arr items =>
        show items.all Question.decoder.takes = items.all (isRecordOf Question.types)
        rw [Bool.eq_iff_iff, List.all_eq_true, List.all_eq_true]
        refine forall₂_congr fun q hq => ?_
        obtain ⟨name, hname⟩ := Option.isSome_iff_exists.1 (hquestions items hv q hq)
        rw [Question.takes_of_type (Json.ordered_arr.1 (hmembers.lookup hv) q hq) hname]
    | _ => rfl
  simp only [Agree, Definition.types, Definition.fields, RecordField.defaulted,
    List.forall₂_cons, Json.takes_map, Json.takes_text, Json.takes_optional,
    Json.takes_list, Json.takes_unsigned64, implies_true, true_and]
  exact ⟨hlist, fun v hv => StarScale.takes_eq (hmembers.lookup hv),
    fun v hv => Video.takes_eq (hmembers.lookup hv),
    fun v hv => Styling.takes_eq (hmembers.lookup hv), .nil⟩

/-- **A survey is read from members that fit.** -/
theorem Definition.exists_ofMembers_iff_membersFit (hmembers : Ordered (.obj members))
    (hquestions : ∀ items, members.lookup "questions" = some (.arr items) →
      ∀ q ∈ items, (typeOf? q).isSome = true) :
    (∃ d, Definition.ofMembers members = .ok d) ↔ membersFit Definition.types members = true := by
  rw [Definition.exists_ofMembers_iff (Json.ordered_obj.1 hmembers).1.distinct,
    ← Json.exists_applied_iff (s := Definition.blank)]
  exact (Definition.agree hmembers hquestions).exists_applied_iff

end VideoSurvey.Survey
