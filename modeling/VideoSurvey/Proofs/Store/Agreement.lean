import VideoSurvey.Proofs.Files.Reopening
import VideoSurvey.Proofs.Store.Calls
import VideoSurvey.Proofs.Store.Mirror

/-!
# Both repositories answer the same

A session is a sequence of turns: calls, and points at which the repository is closed and opened
again, which changes nothing in memory. With bodies and patches that were read from texts and have
no numbers but integers that are kept exactly, and with ids that are fresh, a session on a database
gets the answers of the same session in memory. The rows mirror the records in memory, each call
keeps that (`Call.mirrored`), and so does a session (`session_mirrored`).
-/

set_option autoImplicit false

namespace VideoSurvey.Store

open Files (Path Tree)
open Json (Keepable)
open Results
open Survey (Definition)

/-! ## Sessions -/

/-- A turn of a session. -/
inductive Turn where
  | call (c : Call)
  | reopening

/-- The body or patch that a turn brings. -/
def Turn.body? : Turn → Option Json
  | .call c => c.body?
  | .reopening => none

/-- The id that a turn brings for a new record. -/
def Turn.newId? : Turn → Option String
  | .call c => c.newId?
  | .reopening => none

/-- The repository that is there when the one in use is closed and opened again. -/
def Repository.reopened (files : Tree) (path : Path) : Repository →
    Except StoreFault Repository × Tree
  | .memory m => (.ok (.memory m), files)
  | .database table =>
      let (result, files) := (files.keepDatabase path table).openDatabase path
      (result.map fun found => .database found.1, files)

/-- The answers of a session, and the repository that it leaves. -/
def Repository.session (path : Path) : Tree → Repository → List Turn →
    Except StoreFault (List Answer × Repository)
  | _, r, [] => .ok ([], r)
  | files, r, .call c :: turns => do
      let (answers, last) ← session path files (c.run r).2 turns
      .ok ((c.run r).1 :: answers, last)
  | files, r, .reopening :: turns =>
      match r.reopened files path with
      | (.error fault, _) => .error fault
      | (.ok r, files) => session path files r turns

/-! ## One call -/

section Call

variable {m : Memory}

/-- A call gives an answer on records and on their table, and leaves sound records and their table.
-/
structure Call.Mirrored (m : Memory) (c : Call) (a : Answer) (m' : Memory) : Prop where
  memory : c.run (.memory m) = (a, .memory m')
  database : c.run (.database (Table.ofRecords m)) = (a, .database (Table.ofRecords m'))
  sound : m'.Sound
  ids : ∀ id ∈ m'.map Definition.id, id ∈ m.map Definition.id ∨ id ∈ c.newId?
  ordinary : ∀ fault ∈ a.fault?, fault.IsOrdinary

/-- What a script answers on the table of records, and the table that it leaves. -/
theorem onTable_ofRecords {α : Type} {script : Script α} {result : α} {m' : Memory}
    (h : script.run (Table.ofRecords m) = (result, Table.ofRecords m')) (answer : α → Answer) :
    (answer (script.onTable (Table.ofRecords m)).1, (script.onTable (Table.ofRecords m)).2) =
      (answer result, .database (Table.ofRecords m')) := by
  unfold Script.onTable
  rw [h]

theorem Answer.survey_fault {result : Except StoreFault Definition} {fault : StoreFault}
    (h : fault ∈ (Answer.survey result).fault?) : result = .error fault := by
  cases result with
  | error fault' =>
      cases h
      rfl
  | ok d => cases h

theorem Answer.deleted_fault {result : Except StoreFault Unit} {fault : StoreFault}
    (h : fault ∈ (Answer.deleted result).fault?) : result = .error fault := by
  cases result with
  | error fault' =>
      cases h
      rfl
  | ok _ => cases h

theorem Call.create_mirrored (h : m.Sound) {stamp : Stamp} {body : Json}
    (hbody : Keepable Json.greatestDepth body) (hnew : stamp.id ∉ m.map Definition.id) :
    Call.Mirrored m (.create stamp body) (.survey (m.create stamp body).1)
      (m.create stamp body).2 where
  memory := rfl
  database := onTable_ofRecords (Table.run_create hbody hnew) .survey
  sound := h.create hbody hnew
  ids := by
    intro id hid
    rcases Memory.mem_ids_create hbody hid with hold | rfl
    · exact .inl hold
    · exact .inr rfl
  ordinary := fun _ hfault => Memory.create_eq_error (Answer.survey_fault hfault)

theorem Call.get_mirrored (h : m.Sound) (id : String) :
    Call.Mirrored m (.get id) (.survey (m.get id)) m where
  memory := rfl
  database := onTable_ofRecords (Table.run_get h id) .survey
  sound := h
  ids := fun _ hid => .inl hid
  ordinary := fun _ hfault => Memory.get_eq_error (Answer.survey_fault hfault)

theorem Call.list_mirrored (h : m.Sound) : Call.Mirrored m .list (.surveys (.ok m)) m where
  memory := rfl
  database := onTable_ofRecords (Table.run_list h) .surveys
  sound := h
  ids := fun _ hid => .inl hid
  ordinary := fun _ hfault => by cases hfault

theorem Call.update_mirrored (h : m.Sound) (id time : String) {patch : Json}
    (hpatch : Keepable Json.greatestDepth patch) :
    Call.Mirrored m (.update id time patch) (.survey (m.update id time patch).1)
      (m.update id time patch).2 where
  memory := rfl
  database := onTable_ofRecords (Table.run_update h id time patch) .survey
  sound := (h.update id time hpatch).1
  ids := fun _ hid => .inl ((h.update id time hpatch).2 ▸ hid)
  ordinary := fun _ hfault => Memory.update_eq_error (Answer.survey_fault hfault)

theorem Call.delete_mirrored (h : m.Sound) (id : String) :
    Call.Mirrored m (.delete id) (.deleted (m.delete id).1) (m.delete id).2 where
  memory := rfl
  database := onTable_ofRecords (Table.run_delete m id) .deleted
  sound := h.delete id
  ids := fun _ hid => .inl (((Memory.delete_sublist m id).map _).subset hid)
  ordinary := fun _ hfault => Memory.delete_eq_error (Answer.deleted_fault hfault)

/-- **Each call is mirrored.** -/
theorem Call.mirrored (h : m.Sound) (c : Call)
    (hbody : ∀ v ∈ c.body?, Keepable Json.greatestDepth v)
    (hnew : ∀ id ∈ c.newId?, id ∉ m.map Definition.id) : ∃ a m', c.Mirrored m a m' := by
  cases c with
  | create stamp body =>
      exact ⟨_, _, Call.create_mirrored h (hbody body rfl) (hnew stamp.id rfl)⟩
  | get id => exact ⟨_, _, Call.get_mirrored h id⟩
  | list => exact ⟨_, _, Call.list_mirrored h⟩
  | update id time patch => exact ⟨_, _, Call.update_mirrored h id time (hbody patch rfl)⟩
  | delete id => exact ⟨_, _, Call.delete_mirrored h id⟩

end Call

/-! ## Whole sessions -/

theorem Repository.session_call {path : Path} {files : Tree} {r r' last : Repository} {c : Call}
    {turns : List Turn} {a : Answer} {answers : List Answer} (hrun : c.run r = (a, r'))
    (hrest : session path files r' turns = .ok (answers, last)) :
    session path files r (.call c :: turns) = .ok (a :: answers, last) := by
  unfold session
  rw [hrun, hrest]
  rfl

/-- A session on sound records and one on their table give the same answers, and leave sound
records and their table. -/
theorem session_mirrored (files : Tree) {files' : Tree} {path : Path} {table : Table}
    (hfiles : files'.Holds path table) {turns : List Turn} {m : Memory} (h : m.Sound)
    (hbodies : ∀ t ∈ turns, ∀ v ∈ t.body?, Keepable Json.greatestDepth v)
    (hnew : ∀ id ∈ turns.filterMap Turn.newId?, id ∉ m.map Definition.id)
    (hids : (turns.filterMap Turn.newId?).Nodup) :
    ∃ answers m', Repository.session path files (.memory m) turns = .ok (answers, .memory m') ∧
      Repository.session path files' (.database (Table.ofRecords m)) turns =
        .ok (answers, .database (Table.ofRecords m')) ∧
      m'.Sound ∧ ∀ a ∈ answers, ∀ fault ∈ a.fault?, fault.IsOrdinary := by
  induction turns generalizing m files' table with
  | nil => exact ⟨[], m, rfl, rfl, h, fun a ha => absurd ha List.not_mem_nil⟩
  | cons t turns ih =>
      have hrest : ∀ t ∈ turns, ∀ v ∈ t.body?, Keepable Json.greatestDepth v :=
        fun t' ht => hbodies t' (List.mem_cons_of_mem t ht)
      cases t with
      | call c =>
          have hfirst : ∀ id ∈ c.newId?, id ∉ m.map Definition.id := by
            intro id hid
            refine hnew id (List.mem_filterMap.2 ⟨.call c, List.mem_cons_self, hid⟩)
          obtain ⟨a, m1, hmirrored⟩ :=
            c.mirrored h (hbodies (.call c) List.mem_cons_self) hfirst
          -- ids that are still to come are neither in the records nor that of this call
          have hnew' : ∀ id ∈ turns.filterMap Turn.newId?, id ∉ m1.map Definition.id := by
            intro id hid hmem
            rcases hmirrored.ids id hmem with hold | hcall
            · have hlater : id ∈ (Turn.call c :: turns).filterMap Turn.newId? := by
                obtain ⟨t, ht, hsome⟩ := List.mem_filterMap.1 hid
                exact List.mem_filterMap.2 ⟨t, List.mem_cons_of_mem _ ht, hsome⟩
              exact hnew id hlater hold
            · have hsome : Turn.newId? (.call c) = some id := hcall
              rw [List.filterMap_cons_some hsome] at hids
              exact (List.nodup_cons.1 hids).1 hid
          have hids' : (turns.filterMap Turn.newId?).Nodup :=
            hids.sublist ((List.sublist_cons_self _ _).filterMap _)
          obtain ⟨answers, m', hmemory, hdatabase, hsound, hordinary⟩ :=
            ih hfiles hmirrored.sound hrest hnew' hids'
          refine ⟨a :: answers, m', ?_, ?_, hsound, ?_⟩
          · exact Repository.session_call hmirrored.memory hmemory
          · exact Repository.session_call hmirrored.database hdatabase
          · intro b hb
            rcases List.mem_cons.1 hb with rfl | hb
            · exact hmirrored.ordinary
            · exact hordinary b hb
      | reopening =>
          -- opening finds the table that was kept, so the session goes on as if nothing had been
          have hkept := hfiles.keep (Table.ofRecords m)
          obtain ⟨answers, m', hmemory, hdatabase, hsound, hordinary⟩ :=
            ih hkept h hrest hnew hids
          refine ⟨answers, m', hmemory, ?_, hsound, hordinary⟩
          obtain ⟨file, hopens, -⟩ := hkept.opens
          unfold Repository.session Repository.reopened
          simp only [hopens]
          exact hdatabase

/-- **Both repositories give the same answers**, however often the database is closed and opened
again; no stored document is unreadable and no constraint of the table is violated. -/
theorem repositories_agree {files : Tree} {path : Path} (hfiles : files.Holds path [])
    {turns : List Turn}
    (hbodies : ∀ t ∈ turns, ∀ v ∈ t.body?,
      (∃ text, Json.read text = .ok v) ∧ v.hasWholeNumbers = true)
    (hids : (turns.filterMap Turn.newId?).Nodup) :
    ∃ answers records table,
      Repository.session path files (.memory []) turns = .ok (answers, .memory records) ∧
      Repository.session path files (.database []) turns = .ok (answers, .database table) ∧
      (table.map Row.document).mapM storedDefinition = .ok records ∧
      ∀ a ∈ answers, ∀ fault ∈ a.fault?, fault.IsOrdinary := by
  have hkeepable : ∀ t ∈ turns, ∀ v ∈ t.body?, Keepable Json.greatestDepth v := by
    intro t ht v hv
    obtain ⟨⟨text, hread⟩, hwhole⟩ := hbodies t ht v hv
    exact Json.keepable_of_read hread hwhole
  obtain ⟨answers, m, hmemory, hdatabase, hsound, hordinary⟩ :=
    session_mirrored files hfiles Memory.sound_nil hkeepable (fun _ _ => List.not_mem_nil) hids
  exact ⟨answers, m, Table.ofRecords m, hmemory, hdatabase, Table.read_documents hsound, hordinary⟩

/-- A record is created, the database is closed and opened again, and the record is changed. -/
theorem repositories_agree_reopened :
    let turns : List Turn :=
      [.call (.create ⟨"a", "2024-01-01T00:00:00.000Z"⟩ (.obj [("title", .str "One")])), .reopening,
        .call (.update "a" "2024-01-02T00:00:00.000Z" (.obj [("owner", .num (.integer 7))])),
        .call .list, .call (.delete "b")]
    let files : Tree := [(["surveys.sqlite3"], .database [])]
    ∃ answers records table,
      Repository.session "surveys.sqlite3" files (.memory []) turns =
        .ok (answers, .memory records) ∧
      Repository.session "surveys.sqlite3" files (.database []) turns =
        .ok (answers, .database table) ∧
      (table.map Row.document).mapM storedDefinition = .ok records ∧
      ∀ a ∈ answers, ∀ fault ∈ a.fault?, fault.IsOrdinary := by
  intro turns files
  have hfiles : files.Holds "surveys.sqlite3" [] :=
    ⟨⟨Location.ofPath "surveys.sqlite3", ["surveys.sqlite3"], false⟩, rfl, rfl, rfl⟩
  -- a value whose members stand in order is what its text says
  have hbody : Json.read (Json.obj [("title", .str "One")]).compactText =
      .ok (.obj [("title", .str "One")]) :=
    Json.read_compactText rfl (by decide)
  have hpatch : Json.read (Json.obj [("owner", .num (.integer 7))]).compactText =
      .ok (.obj [("owner", .num (.integer 7))]) :=
    Json.read_compactText rfl (by decide)
  refine repositories_agree hfiles ?_ (by decide)
  intro t ht v hv
  simp only [turns, List.mem_cons, List.not_mem_nil, or_false] at ht
  rcases ht with rfl | rfl | rfl | rfl | rfl
  · cases hv
    exact ⟨⟨_, hbody⟩, rfl⟩
  · cases hv
  · cases hv
    exact ⟨⟨_, hpatch⟩, rfl⟩
  · cases hv
  · cases hv

end VideoSurvey.Store
