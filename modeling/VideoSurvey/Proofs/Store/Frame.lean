import VideoSurvey.Proofs.Store.Calls
import VideoSurvey.Proofs.Store.Mirror

/-!
# Records of other ids

What a repository holds under an id changes only when an operation names that id. For a table this
holds statement by statement, and so of every script (`Script.under_run`). For records in memory it
needs that their unknown members bear no known key, since else a changed record could take another
id (`Memory.under_update`). A record that is there behind a call was there before, or the call has
made it out of a draft or a patch (`Memory.origin_of_mem`). Two repositories that hold the same
under an id give the same record for it (`Repository.SameAt.get_eq`).
-/

set_option autoImplicit false

namespace VideoSurvey.Store

open Json (Keepable Ordered)
open Survey (Definition)

/-! ## Tables -/

/-- The rows of an id. -/
def Table.under (table : Table) (id : String) : Table := List.filter (fun row => row.id = id) table

/-- The id of the rows that a statement may change. -/
def Statement.target? : Statement → Option String
  | .insert id _ _ => some id
  | .replace id _ _ => some id
  | .delete id => some id
  | .documentOf _ => none
  | .allDocuments => none

/-- No statement of a script changes rows of an id. -/
def Script.Leaves {α : Type} (id : String) : Script α → Prop
  | .done _ => True
  | .step statement next =>
      (∀ target ∈ statement.target?, target ≠ id) ∧ ∀ outcome, (next outcome).Leaves id

/-- A statement on rows of other ids leaves those of an id. -/
theorem Statement.under_run {statement : Statement} {id : String}
    (h : ∀ target ∈ statement.target?, target ≠ id) (table : Table) :
    (statement.run table).2.under id = table.under id := by
  cases statement with
  | insert target document createdAt =>
      have hne := h target rfl
      cases createdAt with
      | none => rfl
      | some time =>
          simp only [run]
          split
          · rfl
          · simp [Table.under, List.filter_append, hne]
  | documentOf target => rfl
  | allDocuments => rfl
  | replace target document updatedAt =>
      have hne := h target rfl
      show List.filter _ (List.map _ table) = _
      unfold Table.under
      induction table with
      | nil => rfl
      | cons row r ih =>
          rw [List.map_cons, List.filter_cons, List.filter_cons, ih]
          -- a replaced row keeps its id, so it is under neither more nor fewer ids than before
          by_cases hrow : row.id = target
          · simp [hrow, hne]
          · simp [hrow]
  | delete target =>
      have hne := h target rfl
      show List.filter _ (List.filter _ table) = _
      unfold Table.under
      rw [List.filter_filter]
      apply List.filter_congr
      intro row _
      by_cases hrow : row.id = id
      · simp [hrow, Ne.symm hne]
      · simp [hrow]

/-- **A script on rows of other ids leaves those of an id.** -/
theorem Script.under_run {α : Type} {script : Script α} {id : String} (h : script.Leaves id)
    (table : Table) : (script.run table).2.under id = table.under id := by
  -- each statement keeps the rows, and what comes next runs on the table that it leaves
  induction script generalizing table with
  | done result => rfl
  | step statement next ih =>
      obtain ⟨hstatement, hnext⟩ := h
      exact (ih _ (hnext _) _).trans (Statement.under_run hstatement table)

namespace Table

variable {id : String}

theorem create_leaves {stamp : Stamp} {body : Json} (hbody : Ordered body) (hne : stamp.id ≠ id) :
    (create stamp body).Leaves id := by
  unfold create
  cases hd : newRecord stamp body with
  | error fault => trivial
  | ok d =>
      refine ⟨?_, ?_⟩
      · rintro target ⟨⟩
        rw [(newRecord_identity hd hbody).1]
        exact hne
      · intro outcome
        cases outcome <;> trivial

theorem get_leaves (other : String) : (get other).Leaves id := by
  refine ⟨?_, fun _ => trivial⟩
  rintro target ⟨⟩

theorem list_leaves : list.Leaves id := by
  refine ⟨?_, fun _ => trivial⟩
  rintro target ⟨⟩

theorem update_leaves {other : String} (hne : other ≠ id) (time : String) (patch : Json) :
    (update other time patch).Leaves id := by
  refine ⟨?_, ?_⟩
  · rintro target ⟨⟩
  · intro outcome
    simp only
    cases loaded other outcome with
    | error fault => trivial
    | ok existing =>
        simp only
        cases merged existing time patch with
        | error fault => trivial
        | ok record =>
            refine ⟨?_, fun _ => trivial⟩
            rintro target ⟨⟩
            exact hne

theorem delete_leaves {other : String} (hne : other ≠ id) : (delete other).Leaves id := by
  refine ⟨?_, fun _ => trivial⟩
  rintro target ⟨⟩
  exact hne

/-- What is loaded for an id is in its rows. -/
theorem get_run (table : Table) (id : String) :
    (get id).run table = (loaded id (.documents ((table.under id).map Row.document)), table) := rfl

end Table

/-! ## Records in memory -/

namespace Memory

/-- The records of an id. -/
def under (m : Memory) (id : String) : Memory := List.filter (fun d => d.id = id) m

/-- The unknown members of every record bear no known key. -/
def Orderly (m : Memory) : Prop := ∀ d ∈ m, d.Orderly

variable {m : Memory} {id : String}

theorem get_under (m : Memory) (id : String) : m.get id =
    match (m.under id).head? with
    | some record => .ok record
    | none => .error (.notFound id) := by
  have hhead : (m.under id).head? = m.find? id := List.head?_filter
  unfold get
  cases hfind : m.find? id with
  | none => simp only [hhead.trans hfind]
  | some record => simp only [hhead.trans hfind]

theorem under_create {stamp : Stamp} {body : Json} (hbody : Ordered body) (hne : stamp.id ≠ id) :
    (m.create stamp body).2.under id = m.under id := by
  unfold create
  cases hd : newRecord stamp body with
  | error fault => rfl
  | ok d =>
      have hid : d.id ≠ id := (newRecord_identity hd hbody).1 ▸ hne
      simp [under, List.filter_append, hid]

theorem under_replace {other : String} {record : Definition} (hrecord : record.id ≠ id)
    (hne : other ≠ id) : (m.replace other record).under id = m.under id := by
  unfold under
  induction m with
  | nil => rfl
  | cons d r ih =>
      unfold replace
      by_cases hd : d.id = other
      · have hd' : d.id ≠ id := hd ▸ hne
        rw [if_pos hd, List.filter_cons, List.filter_cons]
        simp [hrecord, hd']
      · rw [if_neg hd, List.filter_cons, List.filter_cons, ih]

theorem under_update (h : m.Orderly) {other : String} (hne : other ≠ id) (time : String)
    (patch : Json) : (m.update other time patch).2.under id = m.under id := by
  unfold update
  cases hget : m.get other with
  | error fault => rfl
  | ok existing =>
      simp only
      cases hrecord : merged existing time patch with
      | error fault => rfl
      | ok record =>
          obtain ⟨hmem, rfl⟩ := mem_of_get hget
          -- the record keeps the id under which it was found, so it comes under no other
          have hid := (merged_identity hrecord (h existing hmem)).1
          exact under_replace (hid ▸ hne) hne

theorem under_delete {other : String} (hne : other ≠ id) :
    (m.delete other).2.under id = m.under id := by
  have hfilter : under (m.filter fun d => d.id ≠ other) id = m.under id := by
    unfold under
    rw [List.filter_filter]
    apply List.filter_congr
    intro d _
    by_cases hd : d.id = id
    · simp [hd, Ne.symm hne]
    · simp [hd]
  unfold delete
  simp only
  split
  · rfl
  · exact hfilter

/-- Where a record comes from that is there behind a call. -/
inductive Origin (m : Memory) (c : Call) (d : Definition) : Prop where
  | kept (there : d ∈ m)
  | made (stamp : Stamp) (body : Json) (call : c = .create stamp body)
      (made : newRecord stamp body = .ok d)
  | changed (id time : String) (patch : Json) (existing : Definition)
      (call : c = .update id time patch) (there : existing ∈ m)
      (made : merged existing time patch = .ok d)

/-- **A record was there, or the call has made it.** -/
theorem origin_of_mem {m m' : Memory} {c : Call} (h : (c.run (.memory m)).2 = .memory m')
    {d : Definition} (hd : d ∈ m') : m.Origin c d := by
  cases c with
  | create stamp body =>
      cases h
      cases hrecord : newRecord stamp body with
      | error fault =>
          rw [hrecord] at hd
          exact .kept hd
      | ok record =>
          rw [hrecord] at hd
          rcases List.mem_append.1 hd with hold | hlast
          · exact .kept hold
          · obtain rfl := List.mem_singleton.1 hlast
            exact .made stamp body rfl hrecord
  | get id =>
      cases h
      exact .kept hd
  | list =>
      cases h
      exact .kept hd
  | update id time patch =>
      cases h
      cases hget : m.get id with
      | error fault =>
          rw [hget] at hd
          exact .kept hd
      | ok existing =>
          rw [hget] at hd
          simp only at hd
          cases hrecord : merged existing time patch with
          | error fault =>
              rw [hrecord] at hd
              exact .kept hd
          | ok record =>
              rw [hrecord] at hd
              rcases mem_replace hd with rfl | hold
              · exact .changed id time patch existing rfl (mem_of_get hget).1 hrecord
              · exact .kept hold
  | delete id =>
      cases h
      exact .kept ((delete_sublist m id).subset hd)

end Memory

/-! ## Repositories -/

namespace Repository

/-- Two repositories of one kind hold the same under an id. -/
def SameAt (id : String) : Repository → Repository → Prop
  | .memory m, .memory m' => m.under id = m'.under id
  | .database table, .database table' => table.under id = table'.under id
  | _, _ => False

/-- A repository holds nothing under an id. -/
def Lacks (id : String) : Repository → Prop
  | .memory m => m.under id = []
  | .database table => table.under id = []

/-- Records in memory are orderly; of rows nothing is asked. -/
def Orderly : Repository → Prop
  | .memory m => m.Orderly
  | .database _ => True

variable {id : String} {r r' r'' : Repository}

theorem SameAt.refl (id : String) (r : Repository) : r.SameAt id r := by
  cases r <;> exact rfl

theorem SameAt.trans (h : SameAt id r r') (h' : SameAt id r' r'') : SameAt id r r'' := by
  cases r <;> cases r' <;> cases r'' <;> first | exact Eq.trans h h' | cases h | cases h'

theorem SameAt.lacks (h : SameAt id r r') (hr : r.Lacks id) : r'.Lacks id := by
  cases r <;> cases r' <;> first | exact Eq.trans (Eq.symm h) hr | cases h

/-- The record under an id is the same where the same is held under it. -/
theorem SameAt.get_eq (h : SameAt id r r') : (r.get id).1 = (r'.get id).1 := by
  cases r with
  | memory m =>
      cases r' with
      | memory m' =>
          replace h : m.under id = m'.under id := h
          show m.get id = m'.get id
          rw [Memory.get_under, Memory.get_under, h]
      | database table' => cases h
  | database table =>
      cases r' with
      | memory m' => cases h
      | database table' =>
          replace h : table.under id = table'.under id := h
          show (Script.run table (Table.get id)).1 = (Script.run table' (Table.get id)).1
          rw [Table.get_run, Table.get_run, h]

/-- A call keeps the records orderly. -/
theorem Orderly.run (h : r.Orderly) {c : Call} (hbody : ∀ v ∈ c.body?, Ordered v) :
    (c.run r).2.Orderly := by
  cases hr : (c.run r).2 with
  | database table => trivial
  | memory m' =>
      cases r with
      | database table => cases c <;> cases hr
      | memory m =>
          intro d hd
          cases Memory.origin_of_mem hr hd with
          | kept there => exact h d there
          | made stamp body call made => exact newRecord_orderly made (hbody body (call ▸ rfl))
          | changed id time patch existing call there made => exact merged_orderly made

theorem sameAt_onTable {α : Type} {script : Script α} (h : script.Leaves id) (table : Table) :
    SameAt id (.database table) (script.onTable table).2 :=
  (Script.under_run h table).symm

/-- **A call that leaves an id changes nothing under it.** -/
theorem sameAt_run (h : r.Orderly) {c : Call} (hleaves : c.Leaves id)
    (hbody : ∀ v ∈ c.body?, Ordered v) : r.SameAt id (c.run r).2 ∧ (c.run r).2.Orderly := by
  refine ⟨?_, h.run hbody⟩
  cases r with
  | memory m =>
      cases c with
      | create stamp body => exact (Memory.under_create (hbody body rfl) hleaves).symm
      | get other => exact SameAt.refl id _
      | list => exact SameAt.refl id _
      | update other time patch => exact (Memory.under_update h hleaves time patch).symm
      | delete other => exact (Memory.under_delete hleaves).symm
  | database table =>
      cases c with
      | create stamp body =>
          exact sameAt_onTable (Table.create_leaves (hbody body rfl) hleaves) table
      | get other => exact sameAt_onTable (Table.get_leaves other) table
      | list => exact sameAt_onTable Table.list_leaves table
      | update other time patch =>
          exact sameAt_onTable (Table.update_leaves hleaves time patch) table
      | delete other => exact sameAt_onTable (Table.delete_leaves hleaves) table

/-! ## What is created is there -/

variable {stamp : Stamp} {body : Json}

/-- Where nothing is held under an id, a record is created with it exactly when the body describes
one, and then it is there. -/
theorem create_get (h : r.Lacks stamp.id) (hbody : Keepable Json.greatestDepth body) :
    (r.create stamp body).1 = newRecord stamp body ∧
      ∀ d, newRecord stamp body = .ok d → ((r.create stamp body).2.get stamp.id).1 = .ok d := by
  cases hd : newRecord stamp body with
  | error fault =>
      refine ⟨?_, fun d hd' => by cases hd'⟩
      cases r with
      | memory m =>
          show (m.create stamp body).1 = _
          unfold Memory.create
          rw [hd]
      | database table =>
          show (Script.run table (Table.create stamp body)).1 = _
          unfold Table.create
          rw [hd]
          rfl
  | ok d =>
      have hid := (newRecord_identity hd hbody.ordered).1
      cases r with
      | memory m =>
          replace h : m.under stamp.id = [] := h
          have hcreate : m.create stamp body = (.ok d, m ++ [d]) := by
            unfold Memory.create
            rw [hd]
          have hunder : Memory.under (m ++ [d]) stamp.id = [d] := by
            unfold Memory.under at h ⊢
            simp [List.filter_append, h, hid]
          refine ⟨congrArg Prod.fst hcreate, ?_⟩
          rintro d' ⟨⟩
          show (m.create stamp body).2.get stamp.id = .ok d
          rw [hcreate, Memory.get_under, hunder]
          rfl
      | database table =>
          replace h : table.under stamp.id = [] := h
          -- the insertion is refused only when a row has the id
          have hnew : ∀ row ∈ table, row.id ≠ stamp.id := by
            intro row hrow heq
            have hmem : row ∈ table.under stamp.id :=
              List.mem_filter.2 ⟨hrow, decide_eq_true heq⟩
            rw [h] at hmem
            cases hmem
          have hcreate := Table.run_create_of_new hd hbody.ordered hnew
          have hunder : Table.under (table ++ [⟨stamp.id, d.text, stamp.time, none⟩]) stamp.id =
              [⟨stamp.id, d.text, stamp.time, none⟩] := by
            unfold Table.under at h ⊢
            simp [List.filter_append, h]
          refine ⟨congrArg Prod.fst hcreate, ?_⟩
          rintro d' ⟨⟩
          show (Script.run (Script.run table (Table.create stamp body)).2
            (Table.get stamp.id)).1 = _
          simp only [hcreate, Table.get_run, hunder, List.map_cons, loaded_cons]
          exact storedDefinition_text (newRecord_storable hd hbody)

end Repository

end VideoSurvey.Store
