import VideoSurvey.Proofs.Survey.Written

/-!
# Surveys key by key

An object describes a survey exactly when each of its members does so by itself (`Accepts`,
`Definition.exists_ofJson_iff`), and what the survey's JSON form has under a key is told by what the
object has under that key (`Definition.FoundIn.member?_congr`). So no member of an object helps or
hinders another.
-/

set_option autoImplicit false

namespace VideoSurvey.Survey

open Json (Members Ordered)

/-- A member describes a survey by itself. -/
def Accepts (key : String) (v : Json) : Prop :=
  ∃ q, Definition.ofJson (.obj [(key, v)]) = .ok q

/-- What the JSON form of a definition has under a key. -/
def Definition.member? (d : Definition) (key : String) : Option Json :=
  d.toSortedJson.members?.bind fun members => members.lookup key

theorem Definition.member?_eq (d : Definition) (key : String) :
    d.member? key = d.sortedMembers.lookup key := by
  unfold Definition.member?
  rw [d.toSortedJson_eq]
  rfl

/-! ## Members by themselves -/

section Single

variable {key : String} {v : Json}

theorem distinct_single (key : String) (v : Json) : Members.Distinct [(key, v)] :=
  List.pairwise_singleton _ _

theorem ordered_single (key : String) (h : Ordered v) : Ordered (.obj [(key, v)]) := by
  refine .obj (List.pairwise_singleton _ _) ?_
  intro m hm
  obtain rfl := List.mem_singleton.1 hm
  exact h

/-- A member by itself has the right shape, unless it is a list of questions that has not. -/
theorem accepts_iff :
    Accepts key v ↔ shapeFault? [(key, v)] = none ∧
      ∀ f ∈ Definition.fields, f.key = key → ∃ change, f.change.ofJson v = .ok change := by
  have hmembers := Definition.exists_ofMembers_iff (distinct_single key v)
  have hlookup : ∀ f : Json.RecordField Definition, ∀ w,
      Members.lookup f.key [(key, v)] = some w ↔ f.key = key ∧ w = v := by
    intro f w
    rw [Members.lookup_cons]
    by_cases hkey : key = f.key
    · rw [if_pos hkey]
      exact ⟨fun h => ⟨hkey.symm, (Option.some.inj h).symm⟩, fun h => congrArg some h.2.symm⟩
    · rw [if_neg hkey]
      exact ⟨fun h => (nomatch h), fun h => absurd h.1.symm hkey⟩
  simp only [hlookup] at hmembers
  unfold Accepts
  simp only [Definition.ofJson_eq_ok, exists_and_left, hmembers]
  refine and_congr_right fun _ => ⟨?_, ?_⟩
  · intro h f hf hkey
    exact h f hf v ⟨hkey, rfl⟩
  · rintro h f hf w ⟨hkey, rfl⟩
    exact h f hf hkey

end Single

theorem shapeFault?_of_no_questions {members : Members} (h : members.lookup "questions" = none) :
    shapeFault? members = none := by
  unfold shapeFault?
  rw [h]

theorem shapeFault?_eq_none_iff {members : Members} :
    shapeFault? members = none ↔
      ∀ key v, members.lookup key = some v → shapeFault? [(key, v)] = none := by
  constructor
  · intro h key v hlookup
    by_cases hkey : key = "questions"
    · subst hkey
      rw [← h]
      exact shapeFault?_congr (by rw [hlookup, Members.lookup_cons, if_pos rfl])
    · -- the shape is that of the questions alone
      apply shapeFault?_of_no_questions
      rw [Members.lookup_cons, if_neg hkey, Members.lookup_nil]
  · intro h
    cases hlookup : members.lookup "questions" with
    | none => exact shapeFault?_of_no_questions hlookup
    | some v =>
        rw [← h "questions" v hlookup]
        exact shapeFault?_congr (by rw [hlookup, Members.lookup_cons, if_pos rfl])

/-- **An object describes a survey exactly when each of its members does.** -/
theorem Definition.exists_ofJson_iff {members : Members} (h : members.Distinct) :
    (∃ d, Definition.ofJson (.obj members) = .ok d) ↔
      ∀ key v, members.lookup key = some v → Accepts key v := by
  simp only [Definition.ofJson_eq_ok, exists_and_left, Definition.exists_ofMembers_iff h,
    @shapeFault?_eq_none_iff members, accepts_iff]
  constructor
  · rintro ⟨hshape, hfields⟩ key v hlookup
    refine ⟨hshape key v hlookup, ?_⟩
    rintro f hf rfl
    exact hfields f hf v hlookup
  · intro h
    exact ⟨fun key v hlookup => (h key v hlookup).1,
      fun f hf v hlookup => (h f.key v hlookup).2 f hf rfl⟩

/-! ## What is written under a key -/

section Congr

variable {a a' : Members} {d d' : Definition} {key : String}

theorem eq_of_found {α : Type} {decoder : Json.Decoder α} {default x y : α}
    (hx : Json.found a key decoder default = .ok x) (hy : Json.found a' key decoder default = .ok y)
    (h : a.lookup key = a'.lookup key) : x = y :=
  Except.ok.inj (hx.symm.trans ((Json.found_eq_of_lookup h decoder default).trans hy))

/-- The known members of two definitions agree under a key under which their objects agree. -/
theorem Definition.FoundIn.lookup_known_congr (h : d.FoundIn a) (h' : d'.FoundIn a')
    (hkey : Definition.isKnown key = true) (hsame : a.lookup key = a'.lookup key) :
    d.knownMembers.lookup key = d'.knownMembers.lookup key := by
  have hmem : key ∈ ["id", "title", "questions", "starRating", "videoConfig", "styling",
      "thankYouMessage", "thankYouSubtext", "thankYouDuration", "createdAt", "updatedAt"] :=
    Definition.isKnown_iff.1 hkey
  simp only [List.mem_cons, List.not_mem_nil, or_false] at hmem
  rcases hmem with rfl | rfl | rfl | rfl | rfl | rfl | rfl | rfl | rfl | rfl | rfl
  · simp [knownMembers, eq_of_found h.id h'.id hsame]
  · simp [knownMembers, eq_of_found h.title h'.title hsame]
  · simp [knownMembers, eq_of_found h.questions h'.questions hsame]
  · simp [knownMembers, eq_of_found h.starScale h'.starScale hsame]
  · simp [knownMembers, eq_of_found h.video h'.video hsame]
  · simp [knownMembers, eq_of_found h.styling h'.styling hsame]
  · simp [knownMembers, eq_of_found h.thankYouMessage h'.thankYouMessage hsame]
  · simp [knownMembers, eq_of_found h.thankYouSubtext h'.thankYouSubtext hsame]
  · simp [knownMembers, eq_of_found h.thankYouDuration h'.thankYouDuration hsame]
  · simp [knownMembers, eq_of_found h.createdAt h'.createdAt hsame]
  · simp [knownMembers, eq_of_found h.updatedAt h'.updatedAt hsame]

/-- **What is written under a key is told by what was read there.** -/
theorem Definition.FoundIn.member?_congr (h : d.FoundIn a) (h' : d'.FoundIn a')
    (ha : Ordered (.obj a)) (ha' : Ordered (.obj a')) (hsame : a.lookup key = a'.lookup key) :
    d.member? key = d'.member? key := by
  rw [Definition.member?_eq, Definition.member?_eq]
  cases hkey : Definition.isKnown key with
  | false => rw [h.lookup_unknown ha hkey, h'.lookup_unknown ha' hkey, hsame]
  | true =>
      rw [(h.regular ha).orderly.lookup_known key hkey,
        (h'.regular ha').orderly.lookup_known key hkey, h.lookup_known_congr h' hkey hsame]

end Congr

end VideoSurvey.Survey
