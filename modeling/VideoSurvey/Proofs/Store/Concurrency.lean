import VideoSurvey.Proofs.Store.Interleaving
import VideoSurvey.Proofs.Store.Merging

/-!
# What two programs leave

Two updates of one record, with patches that have no key in common, are both found in the record
that is left, if they do not overlap (`InOrder.standing`); and an update that succeeds has written
to a row, if the other program does not drop it (`exists_changed`). `interleaved_calls` says all
that holds of two calls on one database. What does not hold is shown at three runs in
`updates_get_lost`.
-/

set_option autoImplicit false

namespace VideoSurvey.Store

open Json (Keepable Members)
open Survey (Definition)

/-! ## Rows that stay -/

theorem Table.under_ne_nil_iff {table : Table} {id : String} :
    table.under id ≠ [] ↔ id ∈ table.map Row.id := by
  constructor
  · intro hrows
    obtain ⟨row, hrow⟩ := List.exists_mem_of_ne_nil _ hrows
    obtain ⟨hmem, hid⟩ := List.mem_filter.1 hrow
    exact List.mem_map.2 ⟨row, hmem, of_decide_eq_true hid⟩
  · intro hid
    obtain ⟨row, hmem, hid⟩ := List.mem_map.1 hid
    exact List.ne_nil_of_mem (List.mem_filter.2 ⟨hmem, decide_eq_true hid⟩)

/-- No statement of a script takes the last row of an id away. -/
def Script.Keeps {α : Type} (id : String) : Script α → Prop
  | .done _ => True
  | .step statement next =>
      (∀ table : Table, table.under id ≠ [] → (statement.run table).2.under id ≠ []) ∧
        ∀ outcome, (next outcome).Keeps id

theorem writing_keeps (id other : String) (result : Except StoreFault Definition) :
    (writing other result).Keeps id := by
  cases result with
  | error fault => trivial
  | ok d =>
      refine ⟨?_, fun _ => trivial⟩
      intro table hrows
      rw [Table.under_ne_nil_iff] at hrows ⊢
      rw [Table.run_replace, Table.map_id_stored]
      exact hrows

/-- Only the deletion of an id takes its rows away. -/
theorem Call.script_keeps {c : Call} {id : String} (h : c ≠ .delete id) : c.script.Keeps id := by
  rcases c.atomic_cases with ⟨other, t, p, rfl⟩ | ⟨r, hscript⟩ |
    ⟨statement, next, hscript, hnext, hspares⟩
  · rw [Call.update_script]
    exact ⟨fun _ hrows => hrows, fun outcome => writing_keeps id other _⟩
  · rw [hscript]
    trivial
  · rw [hscript]
    refine ⟨?_, ?_⟩
    · intro table hrows
      rw [(hspares id).resolve_left h table hrows]
      exact hrows
    · intro outcome
      obtain ⟨r, hr⟩ := hnext outcome
      rw [hr]
      trivial

/-- A program has written a record to a row of an id that was there. -/
structure Executed.Changes (e : Executed) (side : Side) (id : String) (d : Definition) : Prop where
  side_eq : e.side = side
  statement_eq : e.statement = .replace id d.text d.updatedAt
  changed : ∃ n, e.outcome = .changed (n + 1)

section Changes

variable {β : Type} {script' : Script β} {table last : Table} {log : List Executed} {a : Answer}
  {b : β} {id t : String} {p : Json} {d : Definition}

theorem exists_changed_of_writing
    (h : Interleaved table (writing id (.ok d)) script' log a b last) (hkeeps : script'.Keeps id)
    (hrows : table.under id ≠ []) :
    a = .survey (.ok d) ∧ ∃ e ∈ log, e.Changes .left id d := by
  -- the other script goes on for a while, and a row stays
  induction script' generalizing table log with
  | done result =>
      cases h with
      | left rest =>
          obtain ⟨rfl, -⟩ := rest.of_done_left
          obtain ⟨n, hn⟩ := Table.countP_pos_of_under hrows
          exact ⟨rfl, _, List.mem_cons_self, rfl, rfl, n, congrArg Outcome.changed hn⟩
  | step statement next ih =>
      cases h with
      | left rest =>
          obtain ⟨rfl, -⟩ := rest.of_done_left
          obtain ⟨n, hn⟩ := Table.countP_pos_of_under hrows
          exact ⟨rfl, _, List.mem_cons_self, rfl, rfl, n, congrArg Outcome.changed hn⟩
      | right rest =>
          obtain ⟨ha, e, he, hchanges⟩ := ih _ rest (hkeeps.2 _) (hkeeps.1 table hrows)
          exact ⟨ha, e, List.mem_cons_of_mem _ he, hchanges⟩

/-- **An update that succeeds has changed a row,** if the rows of its id stay. -/
theorem exists_changed
    (h : Interleaved table (Call.update id t p).script script' log (.survey (.ok d)) b last)
    (hkeeps : script'.Keeps id) : ∃ e ∈ log, e.Changes .left id d := by
  have hwriting : ∀ {table log} {script' : Script β},
      Interleaved table (writing id (table.rewritten id t p)) script' log (.survey (.ok d)) b
        last → script'.Keeps id → ∃ e ∈ log, e.Changes .left id d := by
    intro table log script' hrest hkeeps
    cases hd : table.rewritten id t p with
    | error fault =>
        rw [hd] at hrest
        obtain ⟨ha, -⟩ := hrest.of_done_left
        cases ha
    | ok found =>
        rw [hd] at hrest
        obtain ⟨ha, e, he, hchanges⟩ :=
          exists_changed_of_writing hrest hkeeps (Table.under_ne_nil_of_rewritten hd)
        cases ha
        exact ⟨e, he, hchanges⟩
  rw [Call.update_script] at h
  -- what the other script does before the update has looked changes the table only
  induction script' generalizing table log with
  | done result =>
      cases h with
      | left rest =>
          obtain ⟨e, he, hchanges⟩ := hwriting rest trivial
          exact ⟨e, List.mem_cons_of_mem _ he, hchanges⟩
  | step statement next ih =>
      cases h with
      | left rest =>
          obtain ⟨e, he, hchanges⟩ := hwriting rest hkeeps
          exact ⟨e, List.mem_cons_of_mem _ he, hchanges⟩
      | right rest =>
          obtain ⟨e, he, hchanges⟩ := ih _ rest (hkeeps.2 _)
          exact ⟨e, List.mem_cons_of_mem _ he, hchanges⟩

end Changes

/-! ## Both patches -/

/-- The numbers in the records of an id are integers that are kept exactly. -/
def Table.WholeNumbers (table : Table) (id : String) : Prop :=
  ∀ row ∈ table, row.id = id → ∀ d, storedDefinition row.document = .ok d →
    d.toJson.hasWholeNumbers = true

section Stored

variable {table : Table} {id : String} {d : Definition}

/-- The record that is loaded stands in a document of its id. -/
theorem exists_row_of_loaded (h : loaded id (table.documentsOf id) = .ok d) :
    ∃ row ∈ table, row.id = id ∧ storedDefinition row.document = .ok d := by
  unfold Table.documentsOf at h
  cases hunder : table.under id with
  | nil =>
      rw [hunder] at h
      cases h
  | cons row r =>
      rw [hunder] at h
      have hrow : row ∈ table.under id := by
        rw [hunder]
        exact List.mem_cons_self
      obtain ⟨hmem, hid⟩ := List.mem_filter.1 hrow
      exact ⟨row, hmem, of_decide_eq_true hid, h⟩

theorem storable_of_loaded (hwhole : table.WholeNumbers id)
    (h : loaded id (table.documentsOf id) = .ok d) : d.Storable := by
  obtain ⟨row, hrow, hid, hstored⟩ := exists_row_of_loaded h
  exact (decoded_of_stored hstored).storable (hwhole row hrow hid d hstored)

/-- What is loaded of the rows that a record was written to is its text. -/
theorem loaded_stored (hrows : table.under id ≠ []) :
    loaded id ((table.stored id d).documentsOf id) = storedDefinition d.text := by
  have hstored : (table.stored id d).under id ≠ [] := by
    rw [Table.under_ne_nil_iff] at hrows ⊢
    rwa [Table.map_id_stored]
  obtain ⟨row, r, hunder⟩ := List.exists_cons_of_ne_nil hstored
  have hrow : row ∈ (table.stored id d).under id := by
    rw [hunder]
    exact List.mem_cons_self
  obtain ⟨hmem, hid⟩ := List.mem_filter.1 hrow
  obtain ⟨old, -, rfl⟩ := List.mem_map.1 hmem
  -- a row that bears the id was written to
  have hold : old.id = id := by
    by_cases h : old.id = id
    · exact h
    · rw [if_neg h] at hid
      exact of_decide_eq_true hid
  unfold Table.documentsOf
  rw [hunder, List.map_cons, if_pos hold]
  rfl

/-- What an update writes, by the record that it has loaded. -/
theorem rewritten_of_loaded (h : loaded id (table.documentsOf id) = .ok d) (t : String)
    (p : Json) : table.rewritten id t p = merged d t p := by
  unfold Table.rewritten
  rw [h]
  rfl

/-- What an update writes behind a record that was written to the rows of its id. -/
theorem rewritten_stored (hrows : table.under id ≠ []) (t : String) (p : Json) :
    (table.stored id d).rewritten id t p =
      (storedDefinition d.text).bind fun existing => merged existing t p := by
  unfold Table.rewritten
  rw [loaded_stored hrows]

theorem rewritten_stored_of_storable (hrows : table.under id ≠ []) (hstorable : d.Storable)
    (t : String) (p : Json) : (table.stored id d).rewritten id t p = merged d t p := by
  rw [rewritten_stored hrows, storedDefinition_text hstorable]
  rfl

theorem rewritten_eq_ok {t : String} {p : Json} (h : table.rewritten id t p = .ok d) :
    ∃ existing, loaded id (table.documentsOf id) = .ok existing ∧ merged existing t p = .ok d := by
  cases hloaded : loaded id (table.documentsOf id) with
  | error fault =>
      unfold Table.rewritten at h
      rw [hloaded] at h
      cases h
  | ok existing => exact ⟨existing, rfl, (rewritten_of_loaded hloaded t p).symm.trans h⟩

/-- An update that succeeds writes a record. -/
theorem run_update_eq_ok {t : String} {p : Json} {last : Table}
    (h : (Call.update id t p).run (.database table) = (.survey (.ok d), .database last)) :
    table.rewritten id t p = .ok d ∧ last = table.stored id d := by
  rw [Call.run_database, Call.run_update] at h
  cases hd : table.rewritten id t p with
  | error fault =>
      rw [hd] at h
      cases h
  | ok found =>
      rw [hd] at h
      cases h
      exact ⟨rfl, rfl⟩

theorem Repository.get_database (table : Table) (id : String) :
    ((Repository.database table).get id).1 = loaded id (table.documentsOf id) := rfl

theorem run_get_of_loaded (h : loaded id (table.documentsOf id) = .ok d) :
    (Call.get id).run (.database table) = (.survey (.ok d), .database table) := by
  rw [← h]
  rfl

end Stored

/-- The record of an id, before and behind, when two patches have been laid over it in one. -/
def TakenIn (table last : Table) (id time : String) (p p' : Members) (d : Definition) : Prop :=
  ∃ existing, (Call.get id).run (.database table) = (.survey (.ok existing), .database table) ∧
    merged existing time (.obj (joined p p')) = .ok d ∧
    (Call.get id).run (.database last) = (.survey (.ok d), .database last)

/-- **Of two updates one after the other both patches stand.** -/
theorem InOrder.standing {table last : Table} {id t t' : String} {p p' : Members}
    {d d' : Definition}
    (h : InOrder table (.update id t (.obj p)) (.update id t' (.obj p')) (.survey (.ok d))
      (.survey (.ok d')) last)
    (hwhole : table.WholeNumbers id) (hp : Keepable Json.greatestDepth (.obj p))
    (hp' : Keepable Json.greatestDepth (.obj p')) : TakenIn table last id t' p p' d' := by
  obtain ⟨mid, hrun, hrun'⟩ := h
  obtain ⟨hd, rfl⟩ := run_update_eq_ok hrun
  obtain ⟨hd', rfl⟩ := run_update_eq_ok hrun'
  obtain ⟨existing, hloaded, hmerged⟩ := rewritten_eq_ok hd
  have hstorable := merged_storable hmerged (storable_of_loaded hwhole hloaded) hp
  -- the second update reads what the first one has written
  have hmerged' : merged d t' (.obj p') = .ok d' := by
    rw [← rewritten_stored_of_storable (Table.under_ne_nil_of_rewritten hd) hstorable]
    exact hd'
  refine ⟨existing, run_get_of_loaded hloaded, ?_, ?_⟩
  · exact merged_joined (Json.keepable_obj.1 hp).1 (Json.keepable_obj.1 hp').1 hmerged
      hstorable.foundIn_sortedMembers hmerged'
  · apply run_get_of_loaded
    rw [loaded_stored (Table.under_ne_nil_of_rewritten hd')]
    exact storedDefinition_text (merged_storable hmerged' hstorable hp')

/-! ## Two calls on one database -/

/-- What is sure of two calls on one database, whatever the order of their statements. -/
structure Reconciled (table : Table) (c c' : Call) (log : List Executed) (a a' : Answer)
    (last : Table) : Prop where
  /-- They do what they do one after the other, or they overlap. -/
  cases : InOrder table c c' a a' last ∨ InOrder table c' c a' a last ∨
    Overlapping table c c' log a a' last
  /-- Two updates of one record that do not overlap leave both patches. -/
  standing : ∀ id t p d t' p' d', c = .update id t (.obj p) → c' = .update id t' (.obj p') →
    a = .survey (.ok d) → a' = .survey (.ok d') → ¬ Overlapping table c c' log a a' last →
    (∀ key, Members.lookup key p = none ∨ Members.lookup key p' = none) →
    table.WholeNumbers id → Keepable Json.greatestDepth (.obj p) →
    Keepable Json.greatestDepth (.obj p') →
      TakenIn table last id t p p' d ∨ TakenIn table last id t' p p' d'
  /-- An update that succeeds has changed a row, unless the other call drops the record. -/
  left : ∀ id t p d, c = .update id t p → a = .survey (.ok d) → c' ≠ .delete id →
    ∃ e ∈ log, e.Changes .left id d
  right : ∀ id t p d, c' = .update id t p → a' = .survey (.ok d) → c ≠ .delete id →
    ∃ e ∈ log, e.Changes .right id d

/-- **Two calls on one database do what they do in one of the two orders,** unless both update one
record and each reads it before the other writes it. -/
theorem interleaved_calls {table last : Table} {c c' : Call} {log : List Executed}
    {a a' : Answer} (h : Interleaved table c.script c'.script log a a' last) :
    Reconciled table c c' log a a' last := by
  refine ⟨interleaved_cases h, ?_, ?_, ?_⟩
  · rintro id t p d t' p' d' rfl rfl rfl rfl happart hkeys hwhole hp hp'
    have hsorted := (Json.keepable_obj.1 hp).1
    have hsorted' := (Json.keepable_obj.1 hp').1
    rcases interleaved_cases h with h | h | h
    · exact .inr (h.standing hwhole hp hp')
    -- joined in the other order, the patches are the same
    · have hstanding := h.standing hwhole hp' hp
      unfold TakenIn at hstanding ⊢
      rw [← joined_comm hsorted hsorted' hkeys] at hstanding
      exact .inl hstanding
    · exact absurd h happart
  · rintro id t p d rfl rfl hne
    exact exists_changed h (Call.script_keeps hne)
  · rintro id t p d rfl rfl hne
    obtain ⟨_, hmem, hside, hstatement, hchanged⟩ := exists_changed h.swap (Call.script_keeps hne)
    obtain ⟨e, he, rfl⟩ := List.mem_map.1 hmem
    refine ⟨e, he, ?_, hstatement, hchanged⟩
    cases hs : e.side with
    | left =>
        rw [Executed.swap, hs] at hside
        cases hside
    | right => rfl

/-! ## Runs of two updates -/

theorem bareTable_wholeNumbers : bareTable.WholeNumbers "a" := by
  intro row hrow _ d hd
  obtain rfl := List.mem_singleton.1 hrow
  obtain rfl := Except.ok.inj ((storedDefinition_text bareRecord_storable).symm.trans hd)
  exact bareRecord_storable.fits.whole

theorem loaded_bareTable : loaded "a" (bareTable.documentsOf "a") = .ok bareRecord := by
  have hdocuments : bareTable.documentsOf "a" = .documents [bareRecord.text] := rfl
  rw [hdocuments, loaded_cons]
  exact storedDefinition_text bareRecord_storable

theorem rewritten_bareTable (t : String) (p : Json) :
    bareTable.rewritten "a" t p = merged bareRecord t p :=
  rewritten_of_loaded loaded_bareTable t p

/-- A patch that gives a title. -/
def titlePatch : Members := [("title", .str "T")]

/-- A patch that gives a message. -/
def messagePatch : Members := [("thankYouMessage", .str "M")]

theorem titlePatch_keepable : Keepable Json.greatestDepth (.obj titlePatch) :=
  ⟨Json.sortKeys_ordered (.obj titlePatch), by decide, rfl⟩

theorem messagePatch_keepable : Keepable Json.greatestDepth (.obj messagePatch) :=
  ⟨Json.sortKeys_ordered (.obj messagePatch), by decide, rfl⟩

/-- The record with these parts and a time of a change. -/
def patched (title message : Option String) (time : String) : Definition :=
  { bareRecord with title := title, thankYouMessage := message, updatedAt := some time }

theorem rewritten_titlePatch : bareTable.rewritten "a" "2024-01-02" (.obj titlePatch) =
    .ok (patched (some "T") none "2024-01-02") :=
  (rewritten_bareTable _ _).trans rfl

theorem rewritten_messagePatch : bareTable.rewritten "a" "2024-01-03" (.obj messagePatch) =
    .ok (patched none (some "M") "2024-01-03") :=
  (rewritten_bareTable _ _).trans rfl

theorem bareTable_under : bareTable.under "a" ≠ [] :=
  Table.under_ne_nil_of_rewritten rewritten_titlePatch

/-- A computation that gives something gives a result. -/
theorem exists_ok_of_map {α β : Type} {result : Except StoreFault α} {f : α → β} {b : β}
    (h : result.toOption.map f = some b) : ∃ a, result = .ok a ∧ f a = b := by
  cases result with
  | error fault => cases h
  | ok a => exact ⟨a, rfl, Option.some.inj h⟩

theorem TakenIn.merged_eq {last : Table} {time : String} {p p' : Members} {d : Definition}
    (h : TakenIn bareTable last "a" time p p' d) :
    merged bareRecord time (.obj (joined p p')) = .ok d := by
  obtain ⟨existing, hget, hmerged, -⟩ := h
  rw [run_get_of_loaded loaded_bareTable] at hget
  cases hget
  exact hmerged

/-- One program gives a title and then another one a message, and both are there. -/
theorem interleaved_calls_title_message :
    let c : Call := .update "a" "2024-01-02" (.obj titlePatch)
    let c' : Call := .update "a" "2024-01-03" (.obj messagePatch)
    ∃ log a a' last, Interleaved bareTable c.script c'.script log a a' last ∧
      Reconciled bareTable c c' log a a' last ∧
      ∃ time d, TakenIn bareTable last "a" time titlePatch messagePatch d ∧
        d.title = some "T" ∧ d.thankYouMessage = some "M" := by
  intro c c'
  let first := patched (some "T") none "2024-01-02"
  have hstorable : first.Storable :=
    merged_storable ((rewritten_bareTable _ _).symm.trans rewritten_titlePatch)
      bareRecord_storable titlePatch_keepable
  have hmessage : (merged first "2024-01-03" (.obj messagePatch)).toOption.map
      Definition.thankYouMessage = some (some "M") := by
    decide +kernel
  obtain ⟨second, hmerged, -⟩ := exists_ok_of_map hmessage
  have hsecond : (bareTable.stored "a" first).rewritten "a" "2024-01-03" (.obj messagePatch) =
      .ok second := by
    rw [rewritten_stored_of_storable bareTable_under hstorable]
    exact hmerged
  let last := (bareTable.stored "a" first).stored "a" second
  have hrun : c.script.run bareTable = (.survey (.ok first), bareTable.stored "a" first) :=
    run_update_of_under rfl rewritten_titlePatch
  have hrun' : c'.script.run (bareTable.stored "a" first) = (.survey (.ok second), last) :=
    run_update_of_under rfl hsecond
  have horder : InOrder bareTable c c' (.survey (.ok first)) (.survey (.ok second)) last :=
    inOrder_of_run hrun hrun'
  have hboth : patched (some "T") (some "M") "2024-01-03" = second := by
    have hstanding := horder.standing bareTable_wholeNumbers titlePatch_keepable
      messagePatch_keepable
    exact Except.ok.inj hstanding.merged_eq
  have hlog : ∃ log, Interleaved bareTable c.script c'.script log (.survey (.ok first))
      (.survey (.ok second)) last := by
    have hturn := interleaved_in_turn c.script c'.script bareTable
    rw [hrun] at hturn
    rwa [hrun'] at hturn
  obtain ⟨log, h⟩ := hlog
  have hreconciled := interleaved_calls h
  refine ⟨log, _, _, _, h, hreconciled, ?_⟩
  -- alone, the second update leaves no title
  have happart : ¬ Overlapping bareTable c c' log (.survey (.ok first)) (.survey (.ok second))
      last := by
    rintro ⟨_, _, _, _, _, _, _, _, other', -, -, -, -, -, halone, -⟩
    obtain ⟨hd, -⟩ := run_update_eq_ok halone
    have hsame := hboth.trans (Except.ok.inj (hd.symm.trans rewritten_messagePatch))
    cases congrArg Definition.title hsame
  have hkeys : ∀ key,
      Members.lookup key titlePatch = none ∨ Members.lookup key messagePatch = none := by
    intro key
    by_cases hkey : "title" = key
    · subst hkey
      exact .inr rfl
    · exact .inl (if_neg hkey)
  have hstanding : ∃ time d, TakenIn bareTable last "a" time titlePatch messagePatch d := by
    rcases hreconciled.standing "a" _ _ _ _ _ _ rfl rfl rfl rfl happart hkeys
      bareTable_wholeNumbers titlePatch_keepable messagePatch_keepable with h | h
    · exact ⟨_, _, h⟩
    · exact ⟨_, _, h⟩
  obtain ⟨time, d, h⟩ := hstanding
  obtain rfl : patched (some "T") (some "M") time = d := Except.ok.inj h.merged_eq
  exact ⟨time, _, h, rfl, rfl⟩

/-- A patch with a number that is not whole. -/
def scorePatch : Members := [("score", .num (.binary ⟨4593560420018233783⟩))]

/-- The score of a record, as it is printed. -/
def score (members : Members) : Option String := (members.lookup "score").map Json.compactText

/-- The bare record with a score. -/
def scored : Definition :=
  { bareRecord with updatedAt := some "2024-01-02", extra := scorePatch }

theorem rewritten_scorePatch :
    bareTable.rewritten "a" "2024-01-02" (.obj scorePatch) = .ok scored :=
  (rewritten_bareTable _ _).trans rfl

/-- An update that does not name the score reads it from the text as another number. -/
theorem score_reread : ∀ patch ∈ [titlePatch, messagePatch], ∃ d,
    ((storedDefinition scored.text).bind fun found =>
      merged found "2024-01-03" (.obj patch)) = .ok d ∧
      score d.extra = some "0.12345679138809984" := by
  have hread : ∀ patch ∈ [titlePatch, messagePatch],
      ((storedDefinition scored.text).bind fun found =>
        merged found "2024-01-03" (.obj patch)).toOption.map (fun d => score d.extra) =
          some (some "0.12345679138809984") := by
    decide +kernel
  exact fun patch hpatch => exists_ok_of_map (hread patch hpatch)

/-- **Updates get lost.** When two updates have both read the record, the first one to write it is
written over, and neither order explains that. An update whose record is dropped before it writes
succeeds and changes no row. And a patch that succeeds is not all there after the next update, which
reads a number that is not whole back from its text. -/
theorem updates_get_lost :
    let c : Call := .update "a" "2024-01-02" (.obj titlePatch)
    let c' : Call := .update "a" "2024-01-03" (.obj messagePatch)
    (∃ log d d' last,
      Interleaved bareTable c.script c'.script log (.survey (.ok d)) (.survey (.ok d')) last ∧
      ¬ InOrder bareTable c c' (.survey (.ok d)) (.survey (.ok d')) last ∧
      ¬ InOrder bareTable c' c (.survey (.ok d')) (.survey (.ok d)) last) ∧
    (∃ log d a' last, Interleaved bareTable c.script (Call.delete "a").script
      (log ++ [⟨.left, .replace "a" d.text d.updatedAt, .changed 0⟩]) (.survey (.ok d)) a' last) ∧
    score scorePatch = some "0.12345679138809983" ∧
    ∃ d d' last, InOrder bareTable (.update "a" "2024-01-02" (.obj scorePatch)) c'
        (.survey (.ok d)) (.survey (.ok d')) last ∧
      score d'.extra = some "0.12345679138809984" := by
  intro c c'
  refine ⟨?_, ?_, ?_, ?_⟩
  · obtain ⟨log, h⟩ := interleaved_overlap rewritten_titlePatch rewritten_messagePatch
    refine ⟨log, _, _, _, h, ?_, ?_⟩
    -- in either order the later record has both parts
    · intro horder
      have hstanding := horder.standing bareTable_wholeNumbers titlePatch_keepable
        messagePatch_keepable
      have hd : patched (some "T") (some "M") "2024-01-03" =
          patched none (some "M") "2024-01-03" := Except.ok.inj hstanding.merged_eq
      cases congrArg Definition.title hd
    · intro horder
      have hstanding := horder.standing bareTable_wholeNumbers messagePatch_keepable
        titlePatch_keepable
      have hd : patched (some "T") (some "M") "2024-01-02" =
          patched (some "T") none "2024-01-02" := Except.ok.inj hstanding.merged_eq
      cases congrArg Definition.thankYouMessage hd
  · obtain ⟨log, a', last, h⟩ := interleaved_dropped rewritten_titlePatch
    exact ⟨log, _, a', last, h⟩
  · decide +kernel
  · obtain ⟨d', hd', hscore⟩ := score_reread messagePatch (by simp)
    rw [← rewritten_stored bareTable_under] at hd'
    exact ⟨scored, d', _, inOrder_of_run (run_update_of_under rfl rewritten_scorePatch)
      (run_update_of_under rfl hd'), hscore⟩

end VideoSurvey.Store
