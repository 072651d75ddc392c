import Mathlib.Data.List.Nodup
import VideoSurvey.Proofs.Store.Records
import VideoSurvey.Store.Memory

/-!
# Rows that mirror records

The table of some records holds one row for each (`Table.ofRecords`). While the records are sound,
that is storable, created at some time and of different ids, each operation on the table answers
what the operation on the records answers, and leaves the table of the records that it leaves
(`run_create` to `run_delete`). The operations keep records sound.
-/

set_option autoImplicit false

namespace VideoSurvey.Store

open Json (Keepable)
open Results
open Survey (Definition)

/-- The row of a record. -/
def Row.ofRecord (d : Definition) : Row := ⟨d.id, d.text, d.createdAt.getD "", d.updatedAt⟩

/-- The table of some records. -/
def Table.ofRecords (m : Memory) : Table := m.map Row.ofRecord

namespace Memory

/-- Records as a store keeps them: what they are, their texts tell, and each has an id of its
own. -/
structure Sound (m : Memory) : Prop where
  storable : ∀ d ∈ m, d.Storable
  created : ∀ d ∈ m, ∃ time, d.createdAt = some time
  ids : (m.map Definition.id).Nodup

theorem sound_nil : Sound [] where
  storable := fun _ h => absurd h List.not_mem_nil
  created := fun _ h => absurd h List.not_mem_nil
  ids := List.nodup_nil

variable {m : Memory}

/-! ## Records by their ids -/

theorem get_eq_ok {id : String} {d : Definition} :
    m.get id = .ok d ↔ List.find? (fun d => d.id = id) m = some d := by
  unfold get find?
  cases List.find? (fun d => decide (d.id = id)) m with
  | none =>
      constructor
      · intro h
        cases h
      · intro h
        cases h
  | some d' =>
      constructor
      · intro h
        cases h
        rfl
      · intro h
        cases h
        rfl

theorem mem_of_get {id : String} {d : Definition} (h : m.get id = .ok d) : d ∈ m ∧ d.id = id := by
  have hfind := get_eq_ok.1 h
  refine ⟨List.mem_of_find?_eq_some hfind, ?_⟩
  simpa using List.find?_some hfind

theorem mem_replace {other : String} {record d : Definition} (h : d ∈ m.replace other record) :
    d = record ∨ d ∈ m := by
  induction m with
  | nil => cases h
  | cons d' r ih =>
      unfold replace at h
      by_cases hd : d'.id = other
      · rw [if_pos hd] at h
        exact (List.mem_cons.1 h).imp_right (List.mem_cons_of_mem d')
      · rw [if_neg hd] at h
        rcases List.mem_cons.1 h with rfl | hr
        · exact .inr List.mem_cons_self
        · exact (ih hr).imp_right (List.mem_cons_of_mem d')

/-- With different ids, replacing the first record of an id replaces all. -/
theorem replace_eq_map (hids : (m.map Definition.id).Nodup) (id : String) (record : Definition) :
    m.replace id record = m.map fun d => if d.id = id then record else d := by
  induction m with
  | nil => rfl
  | cons d r ih =>
      rw [List.map_cons] at hids
      obtain ⟨hnew, hrest⟩ := List.nodup_cons.1 hids
      unfold replace
      rw [List.map_cons]
      by_cases hd : d.id = id
      · rw [if_pos hd, if_pos hd]
        -- no later record has this id, so nothing behind it is replaced
        have hkept : r.map (fun d => if d.id = id then record else d) = r := by
          refine (List.map_congr_left ?_).trans (List.map_id r)
          intro d' hd'
          apply if_neg
          intro heq
          exact hnew (hd.trans heq.symm ▸ List.mem_map_of_mem hd')
        rw [hkept]
      · rw [if_neg hd, if_neg hd, ih hrest]

/-! ## Operations keep records sound -/

theorem Sound.create (h : m.Sound) {stamp : Stamp} {body : Json}
    (hbody : Keepable Json.greatestDepth body) (hnew : stamp.id ∉ m.map Definition.id) :
    Sound (m.create stamp body).2 := by
  unfold Memory.create
  cases hd : newRecord stamp body with
  | error fault => exact h
  | ok d =>
      obtain ⟨hid, hcreated, -⟩ := newRecord_identity hd hbody.ordered
      refine ⟨?_, ?_, ?_⟩
      · intro d' hd'
        rcases List.mem_append.1 hd' with hold | hlast
        · exact h.storable d' hold
        · rw [List.mem_singleton.1 hlast]
          exact newRecord_storable hd hbody
      · intro d' hd'
        rcases List.mem_append.1 hd' with hold | hlast
        · exact h.created d' hold
        · rw [List.mem_singleton.1 hlast]
          exact ⟨stamp.time, hcreated⟩
      · -- the id of the stamp is fresh, so it stands behind the others only once
        rw [List.map_append, List.map_singleton, hid]
        refine List.nodup_append.2 ⟨h.ids, List.pairwise_singleton _ _, ?_⟩
        intro a ha b hb heq
        rw [List.mem_singleton.1 hb] at heq
        exact hnew (heq ▸ ha)

theorem mem_ids_create {stamp : Stamp} {body : Json} (hbody : Keepable Json.greatestDepth body)
    {id : String} (hid : id ∈ (m.create stamp body).2.map Definition.id) :
    id ∈ m.map Definition.id ∨ id = stamp.id := by
  unfold create at hid
  cases hd : newRecord stamp body with
  | error fault =>
      rw [hd] at hid
      exact .inl hid
  | ok d =>
      rw [hd] at hid
      simp only [List.map_append, List.map_singleton] at hid
      rcases List.mem_append.1 hid with hold | hlast
      · exact .inl hold
      · rw [List.mem_singleton.1 hlast]
        exact .inr (newRecord_identity hd hbody.ordered).1

theorem ids_replace (h : m.Sound) {existing record : Definition} (hid : record.id = existing.id) :
    (m.replace existing.id record).map Definition.id = m.map Definition.id := by
  rw [replace_eq_map h.ids, List.map_map]
  apply List.map_congr_left
  intro d _
  by_cases hd : d.id = existing.id
  · simp [hd, hid]
  · simp [hd]

theorem Sound.replace (h : m.Sound) {existing record : Definition} {time : String} {body : Json}
    (hexisting : existing ∈ m) (hrecord : merged existing time body = .ok record)
    (hbody : Keepable Json.greatestDepth body) : Sound (m.replace existing.id record) := by
  obtain ⟨hid, hcreated⟩ := merged_identity hrecord (h.storable existing hexisting).orderly
  refine ⟨?_, ?_, ?_⟩
  · intro d hd
    rcases mem_replace hd with rfl | hold
    · exact merged_storable hrecord (h.storable existing hexisting) hbody
    · exact h.storable d hold
  · intro d hd
    rcases mem_replace hd with rfl | hold
    · obtain ⟨created, hsome⟩ := h.created existing hexisting
      exact ⟨created, hcreated created hsome⟩
    · exact h.created d hold
  · rw [ids_replace h hid]
    exact h.ids

theorem Sound.update (h : m.Sound) (id time : String) {patch : Json}
    (hpatch : Keepable Json.greatestDepth patch) :
    Sound (m.update id time patch).2 ∧
      (m.update id time patch).2.map Definition.id = m.map Definition.id := by
  unfold Memory.update
  cases hget : m.get id with
  | error fault => exact ⟨h, rfl⟩
  | ok existing =>
      obtain ⟨hmem, rfl⟩ := mem_of_get hget
      simp only
      cases hrecord : merged existing time patch with
      | error fault => exact ⟨h, rfl⟩
      | ok record =>
          have hid := (merged_identity hrecord (h.storable existing hmem).orderly).1
          exact ⟨h.replace hmem hrecord hpatch, ids_replace h hid⟩

theorem Sound.filter (h : m.Sound) (p : Definition → Bool) : Sound (m.filter p) where
  storable := fun d hd => h.storable d (List.mem_filter.1 hd).1
  created := fun d hd => h.created d (List.mem_filter.1 hd).1
  ids := h.ids.sublist (List.filter_sublist.map _)

theorem Sound.delete (h : m.Sound) (id : String) : Sound (m.delete id).2 := by
  unfold Memory.delete
  simp only
  split
  · exact h
  · exact h.filter _

theorem delete_sublist (m : Memory) (id : String) : (m.delete id).2.Sublist m := by
  unfold delete
  simp only
  split
  · exact List.Sublist.refl m
  · exact List.filter_sublist

/-! ## Faults of operations -/

theorem create_eq_error {stamp : Stamp} {body : Json} {fault : StoreFault}
    (h : (m.create stamp body).1 = .error fault) : fault.IsOrdinary := by
  unfold create at h
  cases hd : newRecord stamp body with
  | error fault' =>
      rw [hd] at h
      cases h
      exact newRecord_eq_error hd
  | ok d =>
      rw [hd] at h
      cases h

theorem get_eq_error {id : String} {fault : StoreFault} (h : m.get id = .error fault) :
    fault.IsOrdinary := by
  unfold get at h
  split at h
  · cases h
  · cases h
    exact .inl ⟨id, rfl⟩

theorem update_eq_error {id time : String} {patch : Json} {fault : StoreFault}
    (h : (m.update id time patch).1 = .error fault) : fault.IsOrdinary := by
  unfold update at h
  cases hget : m.get id with
  | error fault' =>
      rw [hget] at h
      cases h
      exact get_eq_error hget
  | ok existing =>
      rw [hget] at h
      simp only at h
      cases hrecord : merged existing time patch with
      | error fault' =>
          rw [hrecord] at h
          cases h
          exact merged_eq_error hrecord
      | ok record =>
          rw [hrecord] at h
          cases h

theorem delete_eq_error {id : String} {fault : StoreFault}
    (h : (m.delete id).1 = .error fault) : fault.IsOrdinary := by
  unfold delete at h
  simp only at h
  split at h
  · cases h
    exact .inl ⟨id, rfl⟩
  · cases h

end Memory

/-! ## Scripts on the table of records -/

namespace Table

variable {m : Memory}

theorem run_documentOf (m : Memory) (id : String) :
    Statement.run (ofRecords m) (.documentOf id) =
      (.documents ((m.filter fun d => d.id = id).map Definition.text), ofRecords m) := by
  show (Outcome.documents (((m.map Row.ofRecord).filter fun row => row.id = id).map Row.document),
    ofRecords m) = _
  rw [List.filter_map, List.map_map]
  rfl

/-- The record that is loaded is the record in memory. -/
theorem loaded_documents (h : m.Sound) (id : String) :
    loaded id (.documents ((m.filter fun d => d.id = id).map Definition.text)) = m.get id := by
  unfold Memory.get Memory.find?
  -- of all documents of an id the first one is loaded, and that of the first record is found
  rw [← List.head?_filter]
  cases hfilter : m.filter fun d => d.id = id with
  | nil => rfl
  | cons d r =>
      have hd : d ∈ m.filter fun d => d.id = id := by
        rw [hfilter]
        exact List.mem_cons_self
      rw [List.map_cons, loaded_cons, List.head?_cons]
      exact storedDefinition_text (h.storable d (List.mem_filter.1 hd).1)

theorem run_get (h : m.Sound) (id : String) :
    (get id).run (ofRecords m) = (m.get id, ofRecords m) := by
  unfold get
  rw [Script.run, run_documentOf]
  simp only [Script.run, loaded_documents h]

/-- The documents of the rows are read as the records. -/
theorem read_documents (h : m.Sound) :
    ((ofRecords m).map Row.document).mapM storedDefinition = .ok m := by
  apply mapM_eq_ok.2
  unfold ofRecords
  rw [List.map_map, List.forall₂_map_left_iff]
  apply List.forall₂_same.2
  intro d hd
  exact storedDefinition_text (h.storable d hd)

theorem run_list (h : m.Sound) : list.run (ofRecords m) = (.ok m, ofRecords m) := by
  unfold list
  simp only [Script.run, Statement.run, Outcome.texts, read_documents h]

theorem run_create {stamp : Stamp} {body : Json} (hbody : Keepable Json.greatestDepth body)
    (hnew : stamp.id ∉ m.map Definition.id) :
    (create stamp body).run (ofRecords m) =
      ((m.create stamp body).1, ofRecords (m.create stamp body).2) := by
  cases hd : newRecord stamp body with
  | error fault =>
      unfold create Memory.create
      rw [hd]
      rfl
  | ok d =>
      have hfree : ∀ row ∈ ofRecords m, row.id ≠ stamp.id := by
        intro row hrow heq
        obtain ⟨d', hd', rfl⟩ := List.mem_map.1 hrow
        exact hnew (heq ▸ List.mem_map_of_mem hd')
      obtain ⟨hid, hcreated, hupdated⟩ := newRecord_identity hd hbody.ordered
      have hrow : Row.ofRecord d = ⟨stamp.id, d.text, stamp.time, none⟩ := by
        rw [Row.ofRecord, hid, hcreated, hupdated]
        rfl
      rw [run_create_of_new hd hbody.ordered hfree]
      unfold Memory.create ofRecords
      simp only [hd, List.map_append, List.map_singleton, hrow]

theorem map_replaced (h : m.Sound) {existing record : Definition} (hexisting : existing ∈ m)
    (hid : record.id = existing.id)
    (hcreated : ∀ created ∈ existing.createdAt, record.createdAt = some created) :
    ((ofRecords m).map fun row =>
      if row.id = existing.id then
        { row with document := record.text, updatedAt := record.updatedAt } else row) =
      ofRecords (m.replace existing.id record) := by
  unfold ofRecords
  rw [Memory.replace_eq_map h.ids, List.map_map, List.map_map]
  apply List.map_congr_left
  intro d hd
  by_cases heq : d.id = existing.id
  · -- only the record itself bears its id
    obtain rfl := List.inj_on_of_nodup_map h.ids hd hexisting heq
    obtain ⟨created, hsome⟩ := h.created d hd
    simp [Row.ofRecord, hid, hsome, hcreated created hsome]
  · simp [Row.ofRecord, heq]

theorem run_update (h : m.Sound) (id time : String) (body : Json) :
    (update id time body).run (ofRecords m) =
      ((m.update id time body).1, ofRecords (m.update id time body).2) := by
  unfold update Memory.update
  rw [Script.run, run_documentOf]
  simp only [loaded_documents h]
  cases hget : m.get id with
  | error fault => rfl
  | ok existing =>
      simp only
      obtain ⟨hmem, rfl⟩ := Memory.mem_of_get hget
      cases hrecord : merged existing time body with
      | error fault => rfl
      | ok record =>
          obtain ⟨hid, hcreated⟩ := merged_identity hrecord (h.storable existing hmem).orderly
          simp only [Script.run, Statement.run]
          rw [map_replaced h hmem hid hcreated]

theorem run_delete (m : Memory) (id : String) :
    (delete id).run (ofRecords m) = ((m.delete id).1, ofRecords (m.delete id).2) := by
  have hcount : (ofRecords m).countP (fun row => row.id = id) = m.countP fun d => d.id = id := by
    unfold ofRecords
    rw [List.countP_map]
    rfl
  have hkept : (ofRecords m).filter (fun row => row.id ≠ id) =
      ofRecords (m.filter fun d => d.id ≠ id) := by
    unfold ofRecords
    rw [List.filter_map]
    rfl
  -- the script counts the rows that go, the memory compares the lengths before and after
  have hzero : m.countP (fun d => d.id = id) = 0 ↔
      (m.filter fun d => d.id ≠ id).length = m.length := by
    rw [List.countP_eq_zero, List.length_filter_eq_length_iff]
    simp
  unfold delete Memory.delete
  simp only [Script.run, Statement.run, Outcome.count, hcount, hkept]
  by_cases hnone : m.countP (fun d => d.id = id) = 0
  · have hall : (m.filter fun d => d.id ≠ id) = m :=
      List.filter_sublist.eq_of_length (hzero.1 hnone)
    rw [if_pos hnone, if_pos (hzero.1 hnone), hall]
  · rw [if_neg hnone, if_neg (mt hzero.2 hnone)]

end Table

end VideoSurvey.Store
