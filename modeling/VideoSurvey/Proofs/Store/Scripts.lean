import VideoSurvey.Proofs.Store.Frame

/-!
# Calls on a database, statement by statement

A call is the script of its operation (`Call.script`). Every call but an update is one statement at
most (`Call.atomic_cases`). An update looks for the rows of its id, and what it writes then is told
by these rows alone (`Table.rewritten`, `Call.update_script`); so what is done between the two
changes the update only if it changes these rows, and of the statements of other calls only the
deletion of the id does that when there are rows (`Statement.Spares`).
-/

set_option autoImplicit false

namespace VideoSurvey.Store

open Survey (Definition)

/-! ## Calls as scripts -/

/-- A script with another result. -/
def Script.map {α β : Type} (f : α → β) : Script α → Script β
  | .done result => .done (f result)
  | .step statement next => .step statement fun outcome => (next outcome).map f

theorem Script.run_map {α β : Type} (f : α → β) (script : Script α) (table : Table) :
    (script.map f).run table = (f (script.run table).1, (script.run table).2) := by
  induction script generalizing table with
  | done result => rfl
  | step statement next ih => exact ih _ _

/-- A call as a script. -/
def Call.script : Call → Script Answer
  | .create stamp body => (Table.create stamp body).map .survey
  | .get id => (Table.get id).map .survey
  | .list => Table.list.map .surveys
  | .update id time patch => (Table.update id time patch).map .survey
  | .delete id => (Table.delete id).map .deleted

/-- A call on a database carries out its script. -/
theorem Call.run_database (c : Call) (table : Table) :
    c.run (.database table) = ((c.script.run table).1, .database (c.script.run table).2) := by
  cases c with
  | _ =>
      simp only [Call.script, Script.run_map]
      rfl

/-! ## Rows of an id -/

namespace Table

variable {table table' : Table} {id : String}

/-- What a search for an id finds. -/
def documentsOf (table : Table) (id : String) : Outcome :=
  .documents ((table.under id).map Row.document)

/-- The record that an update writes, as the rows of its id have it. -/
def rewritten (table : Table) (id time : String) (patch : Json) : Except StoreFault Definition :=
  (loaded id (table.documentsOf id)).bind fun existing => merged existing time patch

/-- A table with a record in the rows of an id. -/
def stored (table : Table) (id : String) (d : Definition) : Table :=
  table.map fun row =>
    if row.id = id then { row with document := d.text, updatedAt := d.updatedAt } else row

theorem run_replace (table : Table) (id : String) (d : Definition) :
    (Statement.replace id d.text d.updatedAt).run table =
      (.changed (table.countP fun row => row.id = id), table.stored id d) := rfl

theorem rewritten_congr (h : table.under id = table'.under id) (time : String) (patch : Json) :
    table.rewritten id time patch = table'.rewritten id time patch := by
  unfold rewritten documentsOf
  rw [h]

theorem under_stored_of_ne {other : String} (hne : other ≠ id) (d : Definition) :
    (table.stored other d).under id = table.under id := by
  show ((Statement.replace other d.text d.updatedAt).run table).2.under id = table.under id
  refine Statement.under_run ?_ table
  rintro target ⟨⟩
  exact hne

theorem map_id_stored (table : Table) (id : String) (d : Definition) :
    (table.stored id d).map Row.id = table.map Row.id := by
  unfold stored
  rw [List.map_map]
  apply List.map_congr_left
  intro row _
  by_cases hrow : row.id = id
  · simp [hrow]
  · simp [hrow]

/-- Of two records written to the same rows the later one stays. -/
theorem stored_stored (table : Table) (id : String) (d d' : Definition) :
    (table.stored id d).stored id d' = table.stored id d' := by
  unfold stored
  rw [List.map_map]
  apply List.map_congr_left
  intro row _
  by_cases hrow : row.id = id
  · simp [hrow]
  · simp [hrow]

/-- A record that was written is dropped as the one before it. -/
theorem delete_stored (table : Table) (id : String) (d : Definition) :
    (Statement.delete id).run (table.stored id d) = (Statement.delete id).run table := by
  have hkept : (table.stored id d).filter (fun row => row.id ≠ id) =
      table.filter fun row => row.id ≠ id := by
    unfold stored
    induction table with
    | nil => rfl
    | cons row r ih =>
        rw [List.map_cons, List.filter_cons, List.filter_cons, ih]
        by_cases hrow : row.id = id
        · simp [hrow]
        · simp [hrow]
  have hcount : (table.stored id d).countP (fun row => row.id = id) =
      table.countP fun row => row.id = id := by
    have hids := congrArg (List.countP fun other => decide (other = id)) (map_id_stored table id d)
    rwa [List.countP_map, List.countP_map] at hids
  show (Outcome.changed _, _) = (Outcome.changed _, _)
  rw [hcount, hkept]

/-- Nothing is written to rows that were dropped. -/
theorem stored_delete (table : Table) (id : String) (d : Definition) :
    Table.stored ((Statement.delete id).run table).2 id d =
      ((Statement.delete id).run table).2 := by
  unfold stored
  refine (List.map_congr_left ?_).trans (List.map_id _)
  intro row hrow
  have hne : row.id ≠ id := by simpa using (List.mem_filter.1 hrow).2
  exact if_neg hne

/-- What is written is written from a row that is there. -/
theorem under_ne_nil_of_rewritten {time : String} {patch : Json} {d : Definition}
    (h : table.rewritten id time patch = .ok d) : table.under id ≠ [] := by
  intro hnone
  unfold rewritten documentsOf at h
  rw [hnone] at h
  cases h

/-- There are rows of an id exactly when some are counted. -/
theorem countP_pos_of_under (h : table.under id ≠ []) :
    ∃ n, (table.countP fun row => row.id = id) = n + 1 := by
  apply Nat.exists_eq_succ_of_ne_zero
  rw [List.countP_eq_length_filter]
  intro hzero
  exact h (List.length_eq_zero_iff.1 hzero)

end Table

/-! ## Updates -/

/-- What an update does once it has looked for its rows. -/
def writing (id : String) : Except StoreFault Definition → Script Answer
  | .error fault => .done (.survey (.error fault))
  | .ok d => .step (.replace id d.text d.updatedAt) fun _ => .done (.survey (.ok d))

/-- **An update looks for its rows, and writes what they tell.** -/
theorem Call.update_script (id time : String) (patch : Json) :
    (Call.update id time patch).script = .step (.documentOf id) fun outcome =>
      writing id ((loaded id outcome).bind fun existing => merged existing time patch) := by
  simp only [Call.script, Table.update, Script.map]
  congr 1
  funext outcome
  cases loaded id outcome with
  | error fault => rfl
  | ok existing =>
      simp only [Except.bind]
      cases merged existing time patch with
      | error fault => rfl
      | ok d => rfl

theorem Call.run_update (id time : String) (patch : Json) (table : Table) :
    (Call.update id time patch).script.run table =
      (writing id (table.rewritten id time patch)).run table := by
  rw [Call.update_script]
  rfl

/-- A record that an update wrote is dropped as the one before it. -/
theorem Call.run_delete_stored (table : Table) (id : String) (d : Definition) :
    (Call.delete id).script.run (table.stored id d) = (Call.delete id).script.run table := by
  simp only [Call.script, Script.run_map, Table.delete, Script.run, Table.delete_stored]

/-- An update that finds its rows and loses them writes nothing. -/
theorem Call.stored_run_delete (table : Table) (id : String) (d : Definition) :
    Table.stored ((Call.delete id).script.run table).2 id d =
      ((Call.delete id).script.run table).2 := by
  simp only [Call.script, Script.run_map, Table.delete, Script.run]
  exact Table.stored_delete table id d

/-! ## Calls of one statement -/

/-- A statement leaves the rows of an id, if there are any. -/
def Statement.Spares (id : String) (statement : Statement) : Prop :=
  ∀ table : Table, table.under id ≠ [] → (statement.run table).2.under id = table.under id

theorem Statement.spares_of_target {id : String} {statement : Statement}
    (h : ∀ target ∈ statement.target?, target ≠ id) : statement.Spares id :=
  fun table _ => Statement.under_run h table

/-- An insertion adds no row of an id that has one. -/
theorem Statement.insert_spares (id target document : String) (createdAt : Option String) :
    (Statement.insert target document createdAt).Spares id := by
  by_cases hne : target = id
  · intro table hrows
    obtain ⟨row, hrow⟩ := List.exists_mem_of_ne_nil _ hrows
    obtain ⟨hmem, hid⟩ := List.mem_filter.1 hrow
    have hany : (table.any fun row => decide (row.id = target)) = true :=
      List.any_eq_true.2 ⟨row, hmem, by rwa [hne]⟩
    cases createdAt with
    | none => rfl
    | some time =>
        simp only [Statement.run]
        rw [if_pos hany]
  · refine Statement.spares_of_target ?_
    rintro other ⟨⟩
    exact hne

/-- **A call other than an update is one statement at most,** and leaves the rows of every id but
the one that it deletes. -/
theorem Call.atomic_cases (c : Call) :
    (∃ id time patch, c = .update id time patch) ∨ (∃ a, c.script = .done a) ∨
      ∃ (statement : Statement) (next : Outcome → Script Answer),
        c.script = .step statement next ∧ (∀ outcome, ∃ a, next outcome = .done a) ∧
          ∀ id, c = .delete id ∨ statement.Spares id := by
  cases c with
  | create stamp body =>
      simp only [Call.script, Table.create]
      -- a body that is refused is refused before any statement
      cases hd : newRecord stamp body with
      | error fault => exact .inr (.inl ⟨_, rfl⟩)
      | ok d =>
          refine .inr (.inr ⟨_, _, rfl, ?_, fun id => .inr (Statement.insert_spares id _ _ _)⟩)
          intro outcome
          cases outcome with
          | _ => exact ⟨_, rfl⟩
  | get id =>
      refine .inr (.inr ⟨_, _, rfl, fun _ => ⟨_, rfl⟩, fun other => ?_⟩)
      refine .inr (Statement.spares_of_target ?_)
      rintro target ⟨⟩
  | list =>
      refine .inr (.inr ⟨_, _, rfl, fun _ => ⟨_, rfl⟩, fun other => ?_⟩)
      refine .inr (Statement.spares_of_target ?_)
      rintro target ⟨⟩
  | update id time patch => exact .inl ⟨id, time, patch, rfl⟩
  | delete id =>
      refine .inr (.inr ⟨_, _, rfl, fun _ => ⟨_, rfl⟩, fun other => ?_⟩)
      by_cases hne : id = other
      · exact .inl (congrArg Call.delete hne)
      · refine .inr (Statement.spares_of_target ?_)
        rintro target ⟨⟩
        exact hne

end VideoSurvey.Store
