import VideoSurvey.Proofs.Store.Identity

/-!
# One patch after another

A record that a patch has changed is changed by a second patch as the record before both is changed
by one patch that joins them (`merged_joined`). The record in between is normalized: members are
filled in, dropped and written another way than the patch had them. What counts is that it is
found both among its own members and among those that it was made of, so that a field which the
second patch leaves alone finds the same in either (`Definition.FoundIn.transfer`).
-/

set_option autoImplicit false

namespace VideoSurvey

open Json (Members Decoder)

/-! ## Fields that are left alone -/

namespace Survey

/-- A field that finds the same in two objects finds it in the objects that were made of them. -/
theorem found_transfer {α : Type} {a a' b b' : Members} {key : String} {d : Decoder α}
    {default x y : α} (hx : Json.found a key d default = .ok x)
    (hx' : Json.found a' key d default = .ok x) (hy : Json.found b' key d default = .ok y)
    (h : b.lookup key = b'.lookup key ∨
      b.lookup key = a.lookup key ∧ b'.lookup key = a'.lookup key) :
    Json.found b key d default = .ok y := by
  rcases h with h | ⟨h, h'⟩
  · exact (Json.found_eq_of_lookup h d default).trans hy
  · rw [Json.found_eq_of_lookup h d default, hx, ← hx', ← Json.found_eq_of_lookup h' d default, hy]

variable {a a' b b' : Members} {d₁ d₂ : Definition}

/-- A definition that is found in two objects stands for either, wherever another definition is
found in an object that differs from one of them. -/
theorem Definition.FoundIn.transfer (h₁ : d₁.FoundIn a) (h₁' : d₁.FoundIn a') (h₂ : d₂.FoundIn b')
    (hb : b.Sorted) (hb' : b'.Sorted)
    (hsame : ∀ key, b.lookup key = b'.lookup key ∨
      b.lookup key = a.lookup key ∧ b'.lookup key = a'.lookup key) : d₂.FoundIn b where
  id := found_transfer h₁.id h₁'.id h₂.id (hsame _)
  title := found_transfer h₁.title h₁'.title h₂.title (hsame _)
  questions := found_transfer h₁.questions h₁'.questions h₂.questions (hsame _)
  starScale := found_transfer h₁.starScale h₁'.starScale h₂.starScale (hsame _)
  video := found_transfer h₁.video h₁'.video h₂.video (hsame _)
  styling := found_transfer h₁.styling h₁'.styling h₂.styling (hsame _)
  thankYouMessage :=
    found_transfer h₁.thankYouMessage h₁'.thankYouMessage h₂.thankYouMessage (hsame _)
  thankYouSubtext :=
    found_transfer h₁.thankYouSubtext h₁'.thankYouSubtext h₂.thankYouSubtext (hsame _)
  thankYouDuration :=
    found_transfer h₁.thankYouDuration h₁'.thankYouDuration h₂.thankYouDuration (hsame _)
  createdAt := found_transfer h₁.createdAt h₁'.createdAt h₂.createdAt (hsame _)
  updatedAt := found_transfer h₁.updatedAt h₁'.updatedAt h₂.updatedAt (hsame _)
  extra := by
    rw [h₂.extra]
    apply (hb'.filter _).ext (hb.filter _)
    intro key
    have hlookup := fun members =>
      Members.lookup_filter key (fun key => !Definition.isKnown key) members
    -- the unknown members of the first definition are those of both its objects
    have hextra := congrArg (Members.lookup key) (h₁.extra.symm.trans h₁'.extra)
    rw [hlookup, hlookup] at hextra ⊢
    by_cases hkey : (!Definition.isKnown key) = true
    · rw [if_pos hkey, if_pos hkey] at hextra ⊢
      rcases hsame key with h | ⟨h, h'⟩
      · exact h.symm
      · rw [h, h', hextra]
    · rw [if_neg hkey, if_neg hkey]

end Survey

/-! ## Two patches in one -/

namespace Store

open Survey (Definition)

/-- A patch and a later one in one. The later one has the last word. -/
def joined (earlier later : Members) : Members :=
  later.foldl (fun found m => found.insert m.1 m.2) earlier

variable {patch earlier later existing : Members}

theorem joined_sorted (h : earlier.Sorted) : (joined earlier later).Sorted :=
  Members.foldl_insert_sorted later h

theorem lookup_joined (h : later.Sorted) (key : String) :
    (joined earlier later).lookup key = (later.lookup key).or (earlier.lookup key) :=
  h.distinct.lookup_foldl_insert earlier key

/-- Without a common key no patch is the later one. -/
theorem joined_comm (hearlier : earlier.Sorted) (hlater : later.Sorted)
    (hapart : ∀ key, earlier.lookup key = none ∨ later.lookup key = none) :
    joined earlier later = joined later earlier := by
  apply (joined_sorted hearlier).ext (joined_sorted hlater)
  intro key
  rw [lookup_joined hlater, lookup_joined hearlier]
  rcases hapart key with h | h
  · rw [h, Option.none_or, Option.or_none]
  · rw [h, Option.none_or, Option.or_none]

/-- What is not fixed, a patch changes. -/
theorem lookup_overlaid_of_free {key : String} (h : isFixed key = false)
    (hpatch : patch.Distinct) :
    (overlaid patch existing).lookup key = (patch.lookup key).or (existing.lookup key) := by
  unfold overlaid
  -- member by member, as the patch is laid over
  induction patch generalizing existing with
  | nil => rfl
  | cons m r ih =>
      obtain ⟨hhead, htail⟩ := List.pairwise_cons.1 hpatch
      rw [List.foldl_cons, ih htail, Members.lookup_cons]
      by_cases hk : m.1 = key
      · have hfree : ¬ isFixed m.1 = true := by
          rw [hk, h]
          exact Bool.false_ne_true
        have hr : Members.lookup key r = none :=
          Members.lookup_eq_none.2 fun a ha => hk ▸ Ne.symm (hhead a ha)
        rw [hr, if_neg hfree, if_pos hk, ← hk, Members.lookup_insert_self]
        rfl
      · rw [if_neg hk]
        by_cases hfixed : isFixed m.1 = true
        · rw [if_pos hfixed]
        · rw [if_neg hfixed, Members.lookup_insert_of_ne (Ne.symm hk)]

/-- What a changed record is made of, key by key. -/
theorem lookup_changed (d : Definition) (time : String) (hpatch : patch.Distinct) {key : String}
    (hkey : key ≠ "updatedAt") :
    (changed d time patch).lookup key =
      if isFixed key = true then d.sortedMembers.lookup key
      else (patch.lookup key).or (d.sortedMembers.lookup key) := by
  unfold changed
  rw [Members.lookup_insert_of_ne hkey]
  by_cases h : isFixed key = true
  · rw [if_pos h, lookup_overlaid h]
  · rw [if_neg h, lookup_overlaid_of_free (Bool.not_eq_true _ ▸ h) hpatch]

theorem lookup_changed_updatedAt (d : Definition) (time : String) (patch : Members) :
    (changed d time patch).lookup "updatedAt" = some (.str time) :=
  Members.lookup_insert_self _ _ _

variable {e d₁ d₂ : Definition} {t₁ t₂ : String}

/-- A record is changed when its changed members have the right shape and describe it. -/
theorem merged_eq_ok_iff {d : Definition} {time : String} :
    merged e time (.obj patch) = .ok d ↔
      Survey.shapeFault? (changed e time patch) = none ∧ d.FoundIn (changed e time patch) := by
  rw [merged_obj, definitionOf_eq_ok, Definition.ofJson_eq_ok,
    Definition.ofMembers_eq_ok (changed_sorted e time patch).distinct]

/-- **Two patches one after the other change a record as one patch that joins them,** at the later
time. -/
theorem merged_joined (hearlier : earlier.Sorted) (hlater : later.Sorted)
    (h₁ : merged e t₁ (.obj earlier) = .ok d₁) (hd₁ : d₁.FoundIn d₁.sortedMembers)
    (h₂ : merged d₁ t₂ (.obj later) = .ok d₂) :
    merged e t₂ (.obj (joined earlier later)) = .ok d₂ := by
  obtain ⟨hshape₁, hfound₁⟩ := merged_eq_ok_iff.1 h₁
  obtain ⟨hshape₂, hfound₂⟩ := merged_eq_ok_iff.1 h₂
  -- each member comes from the later patch, or is left alone by it
  have hsame : ∀ key,
      (changed e t₂ (joined earlier later)).lookup key = (changed d₁ t₂ later).lookup key ∨
        (changed e t₂ (joined earlier later)).lookup key = (changed e t₁ earlier).lookup key ∧
          (changed d₁ t₂ later).lookup key = d₁.sortedMembers.lookup key := by
    intro key
    by_cases hkey : key = "updatedAt"
    · subst hkey
      exact .inl ((lookup_changed_updatedAt _ _ _).trans (lookup_changed_updatedAt _ _ _).symm)
    · rw [lookup_changed e t₂ (joined_sorted hearlier).distinct hkey,
        lookup_changed d₁ t₂ hlater.distinct hkey, lookup_changed e t₁ hearlier.distinct hkey]
      by_cases hfixed : isFixed key = true
      · rw [if_pos hfixed, if_pos hfixed, if_pos hfixed]
        exact .inr ⟨rfl, rfl⟩
      · rw [if_neg hfixed, if_neg hfixed, if_neg hfixed, lookup_joined hlater]
        cases later.lookup key with
        | none => exact .inr ⟨rfl, rfl⟩
        | some v => exact .inl rfl
  apply merged_eq_ok_iff.2
  refine ⟨?_, ?_⟩
  · rcases hsame "questions" with h | ⟨h, -⟩
    · exact (Survey.shapeFault?_congr h).trans hshape₂
    · exact (Survey.shapeFault?_congr h).trans hshape₁
  · exact hfound₁.transfer hd₁ hfound₂ (changed_sorted _ _ _) (changed_sorted _ _ _) hsame

end Store

end VideoSurvey
