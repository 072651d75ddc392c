import VideoSurvey.Proofs.Survey.Texts
import VideoSurvey.Store.Database

/-!
# Records as a store makes them

A new record bears the id and the time of its stamp and no time of a change, whatever the draft says
(`newRecord_identity`); a record that a patch has changed bears the id and the time of creation of
the record before (`merged_identity`). Out of bodies that are keepable only storable records come
(`newRecord_storable`, `merged_storable`), and the document of a storable record is read as that
record (`storedDefinition_text`).
-/

set_option autoImplicit false

namespace VideoSurvey.Store

open Json (Members Keepable Ordered)
open Survey (Definition)

/-- A fault that is not one of the database: there is no such record, or the body describes none. -/
def StoreFault.IsOrdinary (fault : StoreFault) : Prop :=
  (∃ id, fault = .notFound id) ∨ fault = .bodyNotAnObject ∨ ∃ f, fault = .invalid f

/-! ## Definitions of members -/

theorem definitionOf_eq_ok {members : Members} {d : Definition} :
    definitionOf members = .ok d ↔ Definition.ofJson (.obj members) = .ok d := by
  unfold definitionOf
  cases Definition.ofJson (.obj members) with
  | error fault =>
      constructor
      · intro h
        cases h
      · intro h
        cases h
  | ok d' =>
      constructor
      · intro h
        cases h
        rfl
      · intro h
        cases h
        rfl

theorem definitionOf_found {members : Members} (hmembers : members.Sorted) {d : Definition}
    (h : definitionOf members = .ok d) : d.FoundIn members := by
  obtain ⟨-, hread⟩ := Definition.ofJson_eq_ok.1 (definitionOf_eq_ok.1 h)
  exact (Definition.ofMembers_eq_ok hmembers.distinct).1 hread

theorem definitionOf_eq_error {members : Members} {fault : StoreFault}
    (h : definitionOf members = .error fault) : ∃ f, fault = .invalid f := by
  unfold definitionOf at h
  split at h
  · cases h
  · cases h
    exact ⟨_, rfl⟩

/-- The document of a storable record is read as that record. -/
theorem storedDefinition_text {d : Definition} (h : d.Storable) :
    storedDefinition d.text = .ok d := by
  unfold storedDefinition
  rw [h.ofText_text]

/-- Of the documents of an id the first one counts. -/
@[simp] theorem loaded_cons (id document : String) (r : List String) :
    loaded id (.documents (document :: r)) = storedDefinition document := rfl

/-- Whatever stands in a document, the definition that is read from it is regular and not nested too
deep. -/
theorem decoded_of_stored {document : String} {d : Definition}
    (h : storedDefinition document = .ok d) : d.Decoded := by
  unfold storedDefinition at h
  split at h
  · rename_i hread
    cases h
    exact Survey.Definition.decoded_of_ofText hread
  · cases h

/-! ## Parts of a record that are looked up -/

section Found

variable {members : Members} {d : Definition} {s : String}

theorem id_of_lookup (h : d.FoundIn members) (hlookup : members.lookup "id" = some (.str s)) :
    d.id = s := by
  have hfound := h.id
  rw [Json.found_some hlookup] at hfound
  cases hfound
  rfl

theorem createdAt_of_lookup (h : d.FoundIn members)
    (hlookup : members.lookup "createdAt" = some (.str s)) : d.createdAt = some s := by
  have hfound := h.createdAt
  rw [Json.found_some hlookup] at hfound
  exact (Except.ok.inj hfound).symm

theorem updatedAt_of_lookup (h : d.FoundIn members)
    (hlookup : members.lookup "updatedAt" = none) : d.updatedAt = none := by
  have hfound := h.updatedAt
  rw [Json.found_none hlookup] at hfound
  exact (Except.ok.inj hfound).symm

end Found

/-! ## New records -/

section Stamped

variable {stamp : Stamp} {draft : Members}

@[simp] theorem lookup_stamped_id : (stamped stamp draft).lookup "id" = some (.str stamp.id) := by
  unfold stamped
  rw [Members.lookup_erase_of_ne (by decide), Members.lookup_insert_of_ne (by decide),
    Members.lookup_insert_self]

@[simp] theorem lookup_stamped_createdAt :
    (stamped stamp draft).lookup "createdAt" = some (.str stamp.time) := by
  unfold stamped
  rw [Members.lookup_erase_of_ne (by decide), Members.lookup_insert_self]

@[simp] theorem lookup_stamped_updatedAt : (stamped stamp draft).lookup "updatedAt" = none := by
  unfold stamped
  rw [Members.lookup_erase_self]

theorem lookup_stamped_of_ne {key : String} (hid : key ≠ "id") (hcreated : key ≠ "createdAt")
    (hupdated : key ≠ "updatedAt") : (stamped stamp draft).lookup key = draft.lookup key := by
  unfold stamped
  rw [Members.lookup_erase_of_ne hupdated, Members.lookup_insert_of_ne hcreated,
    Members.lookup_insert_of_ne hid]

theorem stamped_sorted (h : draft.Sorted) : (stamped stamp draft).Sorted :=
  ((h.insert _ _).insert _ _).erase _

theorem stamped_ordered (h : Ordered (.obj draft)) : Ordered (.obj (stamped stamp draft)) :=
  ((h.insert _ (.str _)).insert _ (.str _)).filter _

theorem stamped_keepable (h : Keepable Json.greatestDepth (.obj draft)) :
    Keepable Json.greatestDepth (.obj (stamped stamp draft)) :=
  ((h.insert _ (Json.keepable_str 126 _)).insert _ (Json.keepable_str 126 _)).erase _

end Stamped

theorem newRecord_eq_ok {stamp : Stamp} {body : Json} {d : Definition}
    (h : newRecord stamp body = .ok d) (hbody : Ordered body) :
    ∃ draft : Members, body = .obj draft ∧ draft.Sorted ∧ d.FoundIn (stamped stamp draft) := by
  cases body with
  | obj draft =>
      have hsorted := (Json.ordered_obj.1 hbody).1
      exact ⟨draft, rfl, hsorted, definitionOf_found (stamped_sorted hsorted) h⟩
  | null => cases h
  | bool b => cases h
  | num n => cases h
  | str s => cases h
  | arr items => cases h

/-- **A new record bears what its stamp says.** -/
theorem newRecord_identity {stamp : Stamp} {body : Json} {d : Definition}
    (h : newRecord stamp body = .ok d) (hbody : Ordered body) :
    d.id = stamp.id ∧ d.createdAt = some stamp.time ∧ d.updatedAt = none := by
  obtain ⟨draft, -, -, hfound⟩ := newRecord_eq_ok h hbody
  refine ⟨?_, ?_, ?_⟩
  · exact id_of_lookup hfound lookup_stamped_id
  · exact createdAt_of_lookup hfound lookup_stamped_createdAt
  · exact updatedAt_of_lookup hfound lookup_stamped_updatedAt

theorem newRecord_orderly {stamp : Stamp} {body : Json} {d : Definition}
    (h : newRecord stamp body = .ok d) (hbody : Ordered body) : d.Orderly := by
  obtain ⟨draft, -, hsorted, hfound⟩ := newRecord_eq_ok h hbody
  exact hfound.orderly (stamped_sorted hsorted)

theorem newRecord_regular {stamp : Stamp} {body : Json} {d : Definition}
    (h : newRecord stamp body = .ok d) (hbody : Ordered body) : d.Regular := by
  obtain ⟨draft, rfl, -, hfound⟩ := newRecord_eq_ok h hbody
  exact hfound.regular (stamped_ordered hbody)

theorem newRecord_storable {stamp : Stamp} {body : Json} {d : Definition}
    (h : newRecord stamp body = .ok d) (hbody : Keepable Json.greatestDepth body) :
    d.Storable := by
  obtain ⟨draft, rfl, -, hfound⟩ := newRecord_eq_ok h hbody.ordered
  exact hfound.storable (stamped_keepable hbody)

theorem newRecord_eq_error {stamp : Stamp} {body : Json} {fault : StoreFault}
    (h : newRecord stamp body = .error fault) : fault.IsOrdinary := by
  unfold newRecord at h
  split at h
  · exact .inr (.inr (definitionOf_eq_error h))
  · cases h
    exact .inr (.inl rfl)

/-- A row that is new under its id is inserted. -/
theorem Table.run_create_of_new {table : Table} {stamp : Stamp} {body : Json} {d : Definition}
    (hd : newRecord stamp body = .ok d) (hbody : Ordered body)
    (hnew : ∀ row ∈ table, row.id ≠ stamp.id) :
    (Table.create stamp body).run table =
      (.ok d, table ++ [⟨stamp.id, d.text, stamp.time, none⟩]) := by
  obtain ⟨hid, hcreated, -⟩ := newRecord_identity hd hbody
  -- the constraint of the table: an id that is there already is refused
  have hfree : ¬ (table.any fun row => decide (row.id = stamp.id)) = true := by
    intro hany
    obtain ⟨row, hrow, heq⟩ := List.any_eq_true.1 hany
    exact hnew row hrow (of_decide_eq_true heq)
  unfold Table.create
  simp only [hd, Script.run, Statement.run, hcreated, hid]
  rw [if_neg hfree]
  rfl

/-! ## Changed records -/

section Overlaid

variable {patch existing : Members}

/-- What is fixed, a patch does not change. -/
theorem lookup_overlaid {key : String} (h : isFixed key = true) :
    (overlaid patch existing).lookup key = existing.lookup key := by
  unfold overlaid
  -- the patch is laid over member by member, so what lies below it changes at each step
  induction patch generalizing existing with
  | nil => rfl
  | cons m r ih =>
      rw [List.foldl_cons, ih]
      by_cases hm : isFixed m.1 = true
      · rw [if_pos hm]
      · rw [if_neg hm]
        refine Members.lookup_insert_of_ne ?_ m.2 existing
        intro heq
        exact hm (heq ▸ h)

theorem overlaid_sorted (h : existing.Sorted) : (overlaid patch existing).Sorted := by
  unfold overlaid
  induction patch generalizing existing with
  | nil => exact h
  | cons m r ih =>
      rw [List.foldl_cons]
      apply ih
      by_cases hm : isFixed m.1 = true
      · rwa [if_pos hm]
      · rw [if_neg hm]
        exact h.insert m.1 m.2

/-- What lies there in the end is of the patch, or was there. -/
theorem mem_overlaid {m : String × Json} (h : m ∈ overlaid patch existing) :
    m ∈ patch ∨ m ∈ existing := by
  unfold overlaid at h
  induction patch generalizing existing with
  | nil => exact .inr h
  | cons m' r ih =>
      rw [List.foldl_cons] at h
      rcases ih h with hr | hrest
      · exact .inl (List.mem_cons_of_mem m' hr)
      · by_cases hm : isFixed m'.1 = true
        · rw [if_pos hm] at hrest
          exact .inr hrest
        · rw [if_neg hm] at hrest
          rcases Members.mem_insert hrest with rfl | hold
          · exact .inl List.mem_cons_self
          · exact .inr hold

theorem overlaid_ordered (h : Ordered (.obj existing)) (hpatch : Ordered (.obj patch)) :
    Ordered (.obj (overlaid patch existing)) := by
  refine Json.ordered_obj.2 ⟨overlaid_sorted (Json.ordered_obj.1 h).1, ?_⟩
  intro m hm
  rcases mem_overlaid hm with hm | hm
  · exact (Json.ordered_obj.1 hpatch).2 m hm
  · exact (Json.ordered_obj.1 h).2 m hm

theorem overlaid_keepable {room : Nat} (h : Keepable (room + 1) (.obj existing))
    (hpatch : ∀ m ∈ patch, Keepable room m.2) :
    Keepable (room + 1) (.obj (overlaid patch existing)) := by
  refine Json.keepable_obj.2 ⟨overlaid_sorted (Json.keepable_obj.1 h).1, ?_⟩
  intro m hm
  rcases mem_overlaid hm with hm | hm
  · exact hpatch m hm
  · exact (Json.keepable_obj.1 h).2 m hm

end Overlaid

/-- The members that a record is changed to. -/
def changed (existing : Definition) (time : String) (patch : Members) : Members :=
  (overlaid patch existing.sortedMembers).insert "updatedAt" (.str time)

theorem merged_obj (existing : Definition) (time : String) (patch : Members) :
    merged existing time (.obj patch) = definitionOf (changed existing time patch) := by
  unfold merged changed
  rw [existing.toSortedJson_eq]
  rfl

theorem changed_sorted (existing : Definition) (time : String) (patch : Members) :
    (changed existing time patch).Sorted :=
  (overlaid_sorted (Members.sorted_sorted _)).insert _ _

theorem changed_ordered (existing : Definition) (time : String) {patch : Members}
    (hpatch : Ordered (.obj patch)) : Ordered (.obj (changed existing time patch)) :=
  (overlaid_ordered existing.sortedMembers_ordered hpatch).insert _ (.str time)

theorem merged_eq_ok {existing d : Definition} {time : String} {body : Json}
    (h : merged existing time body = .ok d) :
    ∃ patch : Members, body = .obj patch ∧ d.FoundIn (changed existing time patch) := by
  cases body with
  | obj patch =>
      rw [merged_obj] at h
      exact ⟨patch, rfl, definitionOf_found (changed_sorted existing time patch) h⟩
  | null => cases h
  | bool b => cases h
  | num n => cases h
  | str s => cases h
  | arr items => cases h

/-- **A changed record keeps its id and the time of its creation.** -/
theorem merged_identity {existing d : Definition} {time : String} {body : Json}
    (h : merged existing time body = .ok d) (hexisting : existing.Orderly) :
    d.id = existing.id ∧ ∀ created ∈ existing.createdAt, d.createdAt = some created := by
  obtain ⟨patch, -, hfound⟩ := merged_eq_ok h
  -- what is fixed and known is looked up in the record before, the time of change apart
  have hfixed : ∀ key, isFixed key = true → Definition.isKnown key = true → key ≠ "updatedAt" →
      (changed existing time patch).lookup key =
        (existing.knownMembers.lookup key).map Json.sortKeys := by
    intro key hkey hknown hne
    unfold changed
    rw [Members.lookup_insert_of_ne hne, lookup_overlaid hkey, hexisting.lookup_known key hknown]
  refine ⟨?_, ?_⟩
  · apply id_of_lookup hfound
    rw [hfixed "id" rfl rfl (by decide)]
    simp [Definition.knownMembers]
  · intro created hcreated
    apply createdAt_of_lookup hfound
    rw [hfixed "createdAt" rfl rfl (by decide)]
    simp [Definition.knownMembers, Option.mem_def.1 hcreated]

theorem merged_orderly {existing d : Definition} {time : String} {body : Json}
    (h : merged existing time body = .ok d) : d.Orderly := by
  obtain ⟨patch, -, hfound⟩ := merged_eq_ok h
  exact hfound.orderly (changed_sorted existing time patch)

theorem merged_regular {existing d : Definition} {time : String} {body : Json}
    (h : merged existing time body = .ok d) (hbody : Ordered body) : d.Regular := by
  obtain ⟨patch, rfl, hfound⟩ := merged_eq_ok h
  exact hfound.regular (changed_ordered existing time hbody)

theorem merged_storable {existing d : Definition} {time : String} {body : Json}
    (h : merged existing time body = .ok d) (hexisting : existing.Storable)
    (hbody : Keepable Json.greatestDepth body) : d.Storable := by
  obtain ⟨patch, rfl, hfound⟩ := merged_eq_ok h
  have hoverlaid := overlaid_keepable hexisting.keepable_sortedMembers (Json.keepable_obj.1 hbody).2
  exact hfound.storable (hoverlaid.insert _ (Json.keepable_str 126 time))

theorem merged_eq_error {existing : Definition} {time : String} {body : Json} {fault : StoreFault}
    (h : merged existing time body = .error fault) : fault.IsOrdinary := by
  unfold merged at h
  split at h
  · exact .inr (.inr (definitionOf_eq_error h))
  · cases h
    exact .inr (.inl rfl)

/-! ## A bare record -/

/-- A record with no survey in it. -/
def bareRecord : Definition :=
  { Definition.blank with id := "a", createdAt := some "2024-01-01" }

theorem bareRecord_storable : bareRecord.Storable where
  questions := nofun
  starScale := nofun
  video := Survey.Video.blank_storable
  thankYouDuration := nofun
  extra := Json.keepable_obj.2 ⟨List.Pairwise.nil, nofun⟩
  unknown := nofun

/-- A table with that record. -/
def bareTable : Table := [⟨"a", bareRecord.text, "2024-01-01", none⟩]

end VideoSurvey.Store
