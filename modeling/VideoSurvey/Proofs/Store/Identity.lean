import VideoSurvey.Overlay.Bundle
import VideoSurvey.Proofs.Store.Records

/-!
# Surveys without their identity

The id and the times of a record tell which record it is, not what survey it holds. A draft makes a
record exactly when the draft without these members is a definition (`newRecord_of_direct`,
`direct_of_newRecord`), and then the two differ in the id and the times alone. What is compiled from
a definition depends on none of them, nor on the members that are not known (`compile_plain`).
-/

set_option autoImplicit false

namespace VideoSurvey

open Json (Members)

/-! ## Definitions with another identity -/

namespace Survey

/-- A key of a member that tells which record it is. -/
def isIdentity (key : String) : Bool := key = "id" || key = "createdAt" || key = "updatedAt"

/-- Members without those that tell which record it is. -/
def withoutIdentity (members : Members) : Members := members.filter fun m => !isIdentity m.1

/-- A definition with another id and other times. -/
def Definition.withIdentity (d : Definition) (id : String) (createdAt updatedAt : Option String) :
    Definition :=
  { d with id, createdAt, updatedAt }

theorem lookup_withoutIdentity {key : String} (h : isIdentity key = false) (members : Members) :
    (withoutIdentity members).lookup key = members.lookup key := by
  have hfilter := Members.lookup_filter key (fun key => !isIdentity key) members
  rw [if_pos (by simp [h])] at hfilter
  exact hfilter

theorem lookup_withoutIdentity_self {key : String} (h : isIdentity key = true)
    (members : Members) : (withoutIdentity members).lookup key = none := by
  have hfilter := Members.lookup_filter key (fun key => !isIdentity key) members
  rw [if_neg (by simp [h])] at hfilter
  exact hfilter

/-- Members that differ only in who the record is describe one survey. -/
theorem Definition.FoundIn.withIdentity {members members' : Members} {d : Definition}
    (h : d.FoundIn members) (hsorted : members.Sorted) (hsorted' : members'.Sorted)
    (hsame : ∀ key, isIdentity key = false → members'.lookup key = members.lookup key)
    {id : String} {createdAt updatedAt : Option String}
    (hid : Json.found members' "id" Json.text "" = .ok id)
    (hcreated : Json.found members' "createdAt" (Json.optional Json.text) none = .ok createdAt)
    (hupdated : Json.found members' "updatedAt" (Json.optional Json.text) none = .ok updatedAt) :
    (d.withIdentity id createdAt updatedAt).FoundIn members' where
  id := hid
  createdAt := hcreated
  updatedAt := hupdated
  title := (Json.found_eq_of_lookup (hsame _ rfl) _ _).trans h.title
  questions := (Json.found_eq_of_lookup (hsame _ rfl) _ _).trans h.questions
  starScale := (Json.found_eq_of_lookup (hsame _ rfl) _ _).trans h.starScale
  video := (Json.found_eq_of_lookup (hsame _ rfl) _ _).trans h.video
  styling := (Json.found_eq_of_lookup (hsame _ rfl) _ _).trans h.styling
  thankYouMessage := (Json.found_eq_of_lookup (hsame _ rfl) _ _).trans h.thankYouMessage
  thankYouSubtext := (Json.found_eq_of_lookup (hsame _ rfl) _ _).trans h.thankYouSubtext
  thankYouDuration := (Json.found_eq_of_lookup (hsame _ rfl) _ _).trans h.thankYouDuration
  extra := by
    show d.extra = _
    rw [h.extra]
    apply (hsorted.filter _).ext (hsorted'.filter _)
    intro key
    have hlookup := fun members =>
      Members.lookup_filter key (fun key => !Definition.isKnown key) members
    rw [hlookup, hlookup]
    by_cases hidentity : isIdentity key = true
    · -- whoever the record is, these keys are known
      have hknown : Definition.isKnown key = true := by
        simp only [isIdentity, Bool.or_eq_true, decide_eq_true_eq] at hidentity
        rcases hidentity with (rfl | rfl) | rfl <;> rfl
      rw [if_neg (by simp [hknown]), if_neg (by simp [hknown])]
    · rw [hsame key (by simpa using hidentity)]

end Survey

/-! ## Records and definitions -/

namespace Store

open Survey (Definition isIdentity withoutIdentity)

variable {draft : Members} {d : Definition}

theorem lookup_stamped {stamp : Stamp} {key : String} (h : isIdentity key = false) :
    (stamped stamp draft).lookup key = (withoutIdentity draft).lookup key := by
  rw [Survey.lookup_withoutIdentity h]
  simp only [isIdentity, Bool.or_eq_false_iff, decide_eq_false_iff_not] at h
  obtain ⟨⟨hid, hcreated⟩, hupdated⟩ := h
  exact lookup_stamped_of_ne hid hcreated hupdated

/-- A definition becomes a record with the id and the time of a stamp. -/
theorem newRecord_of_direct (stamp : Stamp) (hdraft : draft.Sorted)
    (h : Definition.ofJson (.obj (withoutIdentity draft)) = .ok d) :
    newRecord stamp (.obj draft) = .ok (d.withIdentity stamp.id (some stamp.time) none) := by
  have hplain : (withoutIdentity draft).Sorted := hdraft.filter _
  obtain ⟨hshape, hread⟩ := Definition.ofJson_eq_ok.1 h
  have hfound := (Definition.ofMembers_eq_ok hplain.distinct).1 hread
  apply definitionOf_eq_ok.2
  apply Definition.ofJson_eq_ok.2
  refine ⟨?_, ?_⟩
  · rw [← hshape]
    exact Survey.shapeFault?_congr (lookup_stamped rfl)
  · apply (Definition.ofMembers_eq_ok (stamped_sorted hdraft).distinct).2
    apply hfound.withIdentity hplain (stamped_sorted hdraft) (fun key hkey => lookup_stamped hkey)
    · exact Json.found_some lookup_stamped_id _ _
    · exact Json.found_some lookup_stamped_createdAt _ _
    · exact Json.found_none lookup_stamped_updatedAt _ _

/-- A record was a definition before it got an id and a time. -/
theorem direct_of_newRecord {stamp : Stamp} (hdraft : draft.Sorted)
    (h : newRecord stamp (.obj draft) = .ok d) :
    Definition.ofJson (.obj (withoutIdentity draft)) = .ok (d.withIdentity "" none none) := by
  have hplain : (withoutIdentity draft).Sorted := hdraft.filter _
  obtain ⟨hshape, hread⟩ := Definition.ofJson_eq_ok.1 (definitionOf_eq_ok.1 h)
  have hfound := (Definition.ofMembers_eq_ok (stamped_sorted hdraft).distinct).1 hread
  apply Definition.ofJson_eq_ok.2
  refine ⟨?_, ?_⟩
  · rw [← hshape]
    exact Survey.shapeFault?_congr (lookup_stamped rfl).symm
  · apply (Definition.ofMembers_eq_ok hplain.distinct).2
    apply hfound.withIdentity (stamped_sorted hdraft) hplain
      (fun key hkey => (lookup_stamped hkey).symm)
    · exact Json.found_none (Survey.lookup_withoutIdentity_self rfl _) _ _
    · exact Json.found_none (Survey.lookup_withoutIdentity_self rfl _) _ _
    · exact Json.found_none (Survey.lookup_withoutIdentity_self rfl _) _ _

end Store

/-! ## What is compiled -/

namespace Overlay

open Survey (Definition)

/-- A bundle depends neither on the id and the times of a definition nor on its unknown members. -/
theorem compile_plain (render : Renderer) (d : Definition) (settings : Settings)
    (id : String) (createdAt updatedAt : Option String) (extra : Members) :
    compile render { d with id, createdAt, updatedAt, extra } settings =
      compile render d settings := rfl

end Overlay

end VideoSurvey
