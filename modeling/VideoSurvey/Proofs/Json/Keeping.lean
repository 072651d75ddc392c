import VideoSurvey.Proofs.Json.Reading
import VideoSurvey.Proofs.Json.Records
import VideoSurvey.Proofs.Json.RoundTrip

/-!
# Values that a text keeps

A value fits when it is nested no deeper than there is room for and its numbers are integers that
are kept exactly. A value that fits and is in order is keepable: the text it is written as is read
as the very same value (`Keepable.read`). Every value that was read from a text with such integers
alone is keepable (`keepable_of_read`), and inserting, erasing and putting in order keep that.
-/

set_option autoImplicit false

namespace VideoSurvey.Json

/-! ## Fitting -/

/-- Nested no deeper than there is room for, and with no numbers but integers that are kept
exactly. -/
structure Fits (room : Nat) (v : Json) : Prop where
  depth : v.depth ≤ room
  whole : v.hasWholeNumbers = true

theorem fits_str (room : Nat) (s : String) : Fits room (.str s) := ⟨Nat.zero_le room, rfl⟩

theorem fits_num {n : Decimal.Number} (h : (Json.num n).hasWholeNumbers = true) (room : Nat) :
    Fits room (.num n) :=
  ⟨Nat.zero_le room, h⟩

theorem fits_signed64 {v : Json} {n : Int} (h : signed64.ofJson v = .ok n) (room : Nat) :
    Fits room (ofInt n) := by
  obtain ⟨-, hlow, hhigh⟩ := integer_eq_ok h
  refine fits_num (hasWholeNumbers_integer.2 ?_) room
  unfold leastInteger greatestInteger
  omega

theorem fits_unsigned64 {v : Json} {n : Nat} (h : unsigned64.ofJson v = .ok n) (room : Nat) :
    Fits room (ofNat n) := by
  obtain ⟨-, hhigh⟩ := unsigned64_eq_ok h
  refine fits_num (hasWholeNumbers_integer.2 ?_) room
  unfold leastInteger greatestInteger
  omega

theorem fits_arr {items : List Json} {room : Nat} :
    Fits (room + 1) (.arr items) ↔ ∀ v ∈ items, Fits room v := by
  constructor
  · rintro ⟨hdepth, hwhole⟩ v hv
    exact ⟨depth_arr_le.1 hdepth v hv, hasWholeNumbers_arr.1 hwhole v hv⟩
  · intro h
    exact ⟨depth_arr_le.2 fun v hv => (h v hv).depth,
      hasWholeNumbers_arr.2 fun v hv => (h v hv).whole⟩

theorem fits_obj {members : Members} {room : Nat} :
    Fits (room + 1) (.obj members) ↔ ∀ m ∈ members, Fits room m.2 := by
  constructor
  · rintro ⟨hdepth, hwhole⟩ m hm
    exact ⟨depth_obj_le.1 hdepth m hm, hasWholeNumbers_obj.1 hwhole m hm⟩
  · intro h
    exact ⟨depth_obj_le.2 fun m hm => (h m hm).depth,
      hasWholeNumbers_obj.2 fun m hm => (h m hm).whole⟩

/-! ## Keeping -/

/-- A value that is in order and fits. -/
structure Keepable (room : Nat) (v : Json) : Prop where
  ordered : Ordered v
  fits : Fits room v

theorem keepable_str (room : Nat) (s : String) : Keepable room (.str s) :=
  ⟨.str s, fits_str room s⟩

theorem keepable_arr {items : List Json} {room : Nat} :
    Keepable (room + 1) (.arr items) ↔ ∀ v ∈ items, Keepable room v := by
  constructor
  · rintro ⟨hordered, hfits⟩ v hv
    exact ⟨ordered_arr.1 hordered v hv, fits_arr.1 hfits v hv⟩
  · intro h
    exact ⟨.arr fun v hv => (h v hv).ordered, fits_arr.2 fun v hv => (h v hv).fits⟩

theorem keepable_obj {members : Members} {room : Nat} :
    Keepable (room + 1) (.obj members) ↔
      members.Sorted ∧ ∀ m ∈ members, Keepable room m.2 := by
  constructor
  · rintro ⟨hordered, hfits⟩
    obtain ⟨hsorted, heach⟩ := ordered_obj.1 hordered
    exact ⟨hsorted, fun m hm => ⟨heach m hm, fits_obj.1 hfits m hm⟩⟩
  · rintro ⟨hsorted, heach⟩
    exact ⟨.obj hsorted fun m hm => (heach m hm).ordered,
      fits_obj.2 fun m hm => (heach m hm).fits⟩

/-- The parts of a keepable value are keepable, with one bracket less around them. -/
theorem Keepable.each {v : Json} {room : Nat} (h : Keepable (room + 1) v) :
    v.Each (Keepable room) := by
  cases v with
  | arr items => exact keepable_arr.1 h
  | obj members => exact (keepable_obj.1 h).2
  | _ => exact trivial

/-- **A keepable value is read back from its text.** -/
theorem Keepable.read {v : Json} (h : Keepable greatestDepth v) :
    Json.read v.compactText = .ok v := by
  rw [read_compactText h.fits.whole h.fits.depth, sortKeys_of_ordered h.ordered]

/-- **What was read is keepable**, if its numbers are integers that are kept exactly. -/
theorem keepable_of_read {text : String} {v : Json} (h : Json.read text = .ok v)
    (hwhole : v.hasWholeNumbers = true) : Keepable greatestDepth v :=
  ⟨read_ordered h, depth_read_le h, hwhole⟩

/-- Putting a value in order makes it keepable. -/
theorem Fits.keepable_sortKeys {room : Nat} {v : Json} (h : Fits room v) :
    Keepable room v.sortKeys :=
  ⟨sortKeys_ordered v, depth_sortKeys_le h.depth, hasWholeNumbers_sortKeys h.whole⟩

section Members

variable {room : Nat} {members : Members}

theorem Keepable.insert (h : Keepable (room + 1) (.obj members)) (key : String) {v : Json}
    (hv : Keepable room v) : Keepable (room + 1) (.obj (members.insert key v)) := by
  obtain ⟨hsorted, heach⟩ := keepable_obj.1 h
  refine keepable_obj.2 ⟨hsorted.insert key v, ?_⟩
  intro m hm
  rcases Members.mem_insert hm with rfl | hm
  · exact hv
  · exact heach m hm

theorem Keepable.filter (h : Keepable (room + 1) (.obj members)) (p : String × Json → Bool) :
    Keepable (room + 1) (.obj (members.filter p)) := by
  obtain ⟨hsorted, heach⟩ := keepable_obj.1 h
  refine keepable_obj.2 ⟨hsorted.filter p, ?_⟩
  intro m hm
  exact heach m (List.mem_filter.1 hm).1

theorem Keepable.erase (h : Keepable (room + 1) (.obj members)) (key : String) :
    Keepable (room + 1) (.obj (members.erase key)) :=
  h.filter _

theorem Keepable.lookup (h : Keepable (room + 1) (.obj members)) {key : String} {v : Json}
    (hv : members.lookup key = some v) : Keepable room v :=
  (keepable_obj.1 h).2 _ (Members.mem_of_lookup hv)

end Members

end VideoSurvey.Json
