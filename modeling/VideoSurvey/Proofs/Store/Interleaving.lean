import VideoSurvey.Proofs.Store.Scripts

/-!
# Two programs on one database

Two programs carry out a call each on one table. A statement is atomic, so a run of both is an
interleaving of their statements (`Interleaved`), and what happened is a list of statements with
their sides and outcomes. Every interleaving does what the calls do one after the other in one of
the two orders (`InOrder`), unless both update one record and both read it before either writes:
then the record that is written later stays, and the other is lost (`Overlapping`,
`interleaved_cases`).
-/

set_option autoImplicit false

namespace VideoSurvey.Store

open Survey (Definition)

/-! ## Interleavings -/

/-- One of two programs. -/
inductive Side where
  | left
  | right
deriving DecidableEq, Repr

/-- The other program. -/
def Side.other : Side → Side
  | .left => .right
  | .right => .left

theorem Side.other_ne {s s' : Side} (h : s ≠ s') : s.other ≠ s'.other := by
  cases s <;> cases s' <;> first | exact absurd rfl h | rintro ⟨⟩

/-- A statement that a program has carried out. -/
structure Executed where
  side : Side
  statement : Statement
  outcome : Outcome
deriving DecidableEq, Repr

/-- The statement, with the programs exchanged. -/
def Executed.swap (e : Executed) : Executed := { e with side := e.side.other }

theorem map_swap_swap (log : List Executed) : (log.map Executed.swap).map Executed.swap = log := by
  rw [List.map_map]
  refine (List.map_congr_left ?_).trans (List.map_id log)
  rintro ⟨side, statement, outcome⟩ -
  cases side with
  | _ => rfl

/-- Two scripts on one table, with their statements in some order: what happened, both results and
the table that is left. -/
inductive Interleaved {α β : Type} :
    Table → Script α → Script β → List Executed → α → β → Table → Prop where
  | done (table : Table) (a : α) (b : β) : Interleaved table (.done a) (.done b) [] a b table
  | left {table : Table} {statement : Statement} {next : Outcome → Script α} {script : Script β}
      {log : List Executed} {a : α} {b : β} {last : Table}
      (rest : Interleaved (statement.run table).2 (next (statement.run table).1) script log a b
        last) :
      Interleaved table (.step statement next) script
        (⟨.left, statement, (statement.run table).1⟩ :: log) a b last
  | right {table : Table} {script : Script α} {statement : Statement} {next : Outcome → Script β}
      {log : List Executed} {a : α} {b : β} {last : Table}
      (rest : Interleaved (statement.run table).2 script (next (statement.run table).1) log a b
        last) :
      Interleaved table script (.step statement next)
        (⟨.right, statement, (statement.run table).1⟩ :: log) a b last

section Interleaved

variable {α β : Type} {table last : Table} {log : List Executed} {a : α} {b : β}
  {script : Script α} {script' : Script β}

/-- The programs may be exchanged. -/
theorem Interleaved.swap (h : Interleaved table script script' log a b last) :
    Interleaved table script' script (log.map Executed.swap) b a last := by
  induction h with
  | done table a b => exact .done table b a
  | left _ ih => exact .right ih
  | right _ ih => exact .left ih

/-- A program alone carries out its script. -/
theorem Interleaved.of_done_left {r : α}
    (h : Interleaved table (.done r) script' log a b last) :
    a = r ∧ script'.run table = (b, last) := by
  induction script' generalizing table log with
  | done result =>
      cases h
      exact ⟨rfl, rfl⟩
  | step statement next ih =>
      cases h with
      | right rest => exact ih _ rest

theorem Interleaved.of_done_right {r : β}
    (h : Interleaved table script (.done r) log a b last) :
    b = r ∧ script.run table = (a, last) :=
  h.swap.of_done_left

/-- One script after the other is an interleaving. -/
theorem interleaved_in_turn (script : Script α) (script' : Script β) (table : Table) :
    ∃ log, Interleaved table script script' log (script.run table).1
      (script'.run (script.run table).2).1 (script'.run (script.run table).2).2 := by
  induction script generalizing table with
  | done a =>
      induction script' generalizing table with
      | done b => exact ⟨[], .done table a b⟩
      | step statement next ih =>
          obtain ⟨log, h⟩ := ih (statement.run table).1 (statement.run table).2
          exact ⟨_, .right h⟩
  | step statement next ih =>
      obtain ⟨log, h⟩ := ih (statement.run table).1 (statement.run table).2
      exact ⟨_, .left h⟩

end Interleaved

/-! ## One after the other, or not -/

/-- Two calls on a database, one after the other. -/
def InOrder (table : Table) (c c' : Call) (a a' : Answer) (last : Table) : Prop :=
  ∃ mid, c.run (.database table) = (a, .database mid) ∧
    c'.run (.database mid) = (a', .database last)

/-- Both programs look for the rows of an id; then one of them writes these rows, and then the
other. -/
def ReadThenWritten (id : String) (log : List Executed) (second : Side) : Prop :=
  ∃ r r' w w', log = [r, r', w, w'] ∧ r.side ≠ r'.side ∧ w.side ≠ w'.side ∧ w'.side = second ∧
    r.statement = .documentOf id ∧ r'.statement = .documentOf id ∧
    w.statement.target? = some id ∧ w'.statement.target? = some id

/-- Two updates of one record that succeed although each has read the record before the other
writes it. Each answers what it would alone, and the table is left as the later one alone leaves
it. -/
def Overlapping (table : Table) (c c' : Call) (log : List Executed) (a a' : Answer)
    (last : Table) : Prop :=
  ∃ id t p d other t' p' d' other', c = .update id t p ∧ c' = .update id t' p' ∧
    a = .survey (.ok d) ∧ a' = .survey (.ok d') ∧
    c.run (.database table) = (a, .database other) ∧
    c'.run (.database table) = (a', .database other') ∧
    (ReadThenWritten id log .left ∧ last = other ∨ ReadThenWritten id log .right ∧ last = other')

section Order

variable {table mid last : Table} {c c' : Call} {a a' : Answer} {log : List Executed}

theorem run_database_eq (h : c.script.run table = (a, last)) :
    c.run (.database table) = (a, .database last) := by
  rw [Call.run_database, h]

theorem inOrder_of_run (h : c.script.run table = (a, mid))
    (h' : c'.script.run mid = (a', last)) : InOrder table c c' a a' last :=
  ⟨mid, run_database_eq h, run_database_eq h'⟩

theorem ReadThenWritten.swap {id : String} {second : Side} (h : ReadThenWritten id log second) :
    ReadThenWritten id (log.map Executed.swap) second.other := by
  obtain ⟨r, r', w, w', rfl, hr, hw, rfl, hread, hread', hwrite, hwrite'⟩ := h
  exact ⟨r.swap, r'.swap, w.swap, w'.swap, rfl, Side.other_ne hr, Side.other_ne hw, rfl, hread,
    hread', hwrite, hwrite'⟩

theorem Overlapping.swap (h : Overlapping table c c' log a a' last) :
    Overlapping table c' c (log.map Executed.swap) a' a last := by
  obtain ⟨id, t, p, d, other, t', p', d', other', hc, hc', ha, ha', hrun, hrun', hlog⟩ := h
  refine ⟨id, t', p', d', other', t, p, d, other, hc', hc, ha', ha, hrun', hrun, ?_⟩
  rcases hlog with ⟨hlog, hlast⟩ | ⟨hlog, hlast⟩
  · exact .inr ⟨hlog.swap, hlast⟩
  · exact .inl ⟨hlog.swap, hlast⟩

end Order

/-! ## Every interleaving -/

section Cases

variable {table last : Table} {c c' : Call} {a a' : Answer} {log : List Executed}
  {id t : String} {p : Json}

/-- An update that has found its rows writes what it would write as long as these rows stay. -/
theorem run_update_of_under {table' : Table} {d : Definition}
    (hunder : table'.under id = table.under id) (hd : table.rewritten id t p = .ok d) :
    (Call.update id t p).script.run table' = (.survey (.ok d), table'.stored id d) := by
  rw [Call.run_update, Table.rewritten_congr hunder, hd]
  rfl

/-- Two updates of one record that would both succeed can overlap. -/
theorem interleaved_overlap {t' : String} {p' : Json} {d d' : Definition}
    (hd : table.rewritten id t p = .ok d) (hd' : table.rewritten id t' p' = .ok d') :
    ∃ log, Interleaved table (Call.update id t p).script (Call.update id t' p').script log
      (.survey (.ok d)) (.survey (.ok d')) (table.stored id d') := by
  have hwrites : ∃ log, Interleaved table (writing id (.ok d)) (writing id (.ok d')) log
      (.survey (.ok d)) (.survey (.ok d')) (table.stored id d') := by
    have h := interleaved_in_turn (writing id (.ok d)) (writing id (.ok d')) table
    rwa [← Table.stored_stored table id d d']
  obtain ⟨log, h⟩ := hwrites
  replace h : Interleaved table (writing id (table.rewritten id t p))
      (writing id (table.rewritten id t' p')) log (.survey (.ok d)) (.survey (.ok d'))
      (table.stored id d') := by
    rw [hd, hd']
    exact h
  rw [Call.update_script, Call.update_script]
  exact ⟨_, .left (.right h)⟩

/-- An update whose record is dropped before it writes succeeds all the same, and changes no row. -/
theorem interleaved_dropped {d : Definition} (hd : table.rewritten id t p = .ok d) :
    ∃ log a' last, Interleaved table (Call.update id t p).script (Call.delete id).script
      (log ++ [⟨.left, .replace id d.text d.updatedAt, .changed 0⟩]) (.survey (.ok d)) a' last := by
  let dropped : Table := ((Statement.delete id).run table).2
  have hgone : (dropped.countP fun row => decide (row.id = id)) = 0 := by
    rw [List.countP_eq_zero]
    intro row hrow
    simpa using (List.mem_filter.1 hrow).2
  have hwriting : ∀ a' : Answer, Interleaved dropped
      (writing id (table.rewritten id t p)) (.done a')
      [⟨.left, .replace id d.text d.updatedAt, .changed 0⟩] (.survey (.ok d)) a'
      (dropped.stored id d) := by
    intro a'
    rw [hd]
    have h : Interleaved dropped (writing id (.ok d)) (.done a') _ (.survey (.ok d)) a' _ :=
      .left (.done _ _ _)
    rw [Table.run_replace, hgone] at h
    exact h
  rw [Call.update_script]
  exact ⟨[_, _], _, _, .left (.right (hwriting _))⟩

/-- An update that fails has only looked for its rows. -/
theorem run_update_of_error {fault : StoreFault} (hd : table.rewritten id t p = .error fault) :
    (Call.update id t p).script.run table = (.survey (.error fault), table) := by
  rw [Call.run_update, hd]
  rfl

theorem run_of_done {r : Answer} (hscript : c.script = .done r) (table : Table) :
    c.script.run table = (r, table) := by
  rw [hscript]
  rfl

/-- Updates of two records, the second writing behind the first one. -/
theorem inOrder_of_ne {id' t' : String} {p' : Json} {d d' : Definition} (hne : id ≠ id')
    (hd : table.rewritten id t p = .ok d) (hd' : table.rewritten id' t' p' = .ok d') :
    InOrder table (.update id t p) (.update id' t' p') (.survey (.ok d)) (.survey (.ok d'))
      ((table.stored id d).stored id' d') :=
  inOrder_of_run (run_update_of_under rfl hd)
    (run_update_of_under (Table.under_stored_of_ne hne d) hd')

/-- Two updates that have both found their rows and are both about to write. -/
theorem interleaved_writes {id' t' : String} {p' : Json} {d d' : Definition}
    (hd : table.rewritten id t p = .ok d) (hd' : table.rewritten id' t' p' = .ok d')
    (h : Interleaved table (writing id (.ok d)) (writing id' (.ok d')) log a a' last) :
    InOrder table (.update id t p) (.update id' t' p') a a' last ∨
      InOrder table (.update id' t' p') (.update id t p) a' a last ∨
      Overlapping table (.update id t p) (.update id' t' p')
        (⟨.left, .documentOf id, table.documentsOf id⟩ ::
          ⟨.right, .documentOf id', table.documentsOf id'⟩ :: log) a a' last := by
  have hrun := run_database_eq (run_update_of_under (t := t) (p := p) rfl hd)
  have hrun' := run_database_eq (run_update_of_under (t := t') (p := p') rfl hd')
  cases h with
  | left rest =>
      cases rest with
      | right rest =>
          cases rest with
          | done _ _ _ =>
              by_cases hne : id = id'
              -- the record that was written first is written over
              · subst hne
                refine .inr (.inr ⟨id, t, p, d, _, t', p', d', _, rfl, rfl, rfl, rfl, hrun, hrun',
                  .inr ⟨?_, Table.stored_stored table id d d'⟩⟩)
                exact ⟨_, _, _, _, rfl, nofun, nofun, rfl, rfl, rfl, rfl, rfl⟩
              · exact .inl (inOrder_of_ne hne hd hd')
  | right rest =>
      cases rest with
      | left rest =>
          cases rest with
          | done _ _ _ =>
              by_cases hne : id = id'
              · subst hne
                refine .inr (.inr ⟨id, t, p, d, _, t', p', d', _, rfl, rfl, rfl, rfl, hrun, hrun',
                  .inl ⟨?_, Table.stored_stored table id d' d⟩⟩)
                exact ⟨_, _, _, _, rfl, nofun, nofun, rfl, rfl, rfl, rfl, rfl⟩
              · exact .inr (.inl (inOrder_of_ne (Ne.symm hne) hd' hd))

/-- An update that has found its rows, and another update. -/
theorem interleaved_writing_update {id' t' : String} {p' : Json} {d : Definition}
    (hd : table.rewritten id t p = .ok d)
    (h : Interleaved table (writing id (.ok d)) (Call.update id' t' p').script log a a' last) :
    InOrder table (.update id t p) (.update id' t' p') a a' last ∨
      InOrder table (.update id' t' p') (.update id t p) a' a last ∨
      Overlapping table (.update id t p) (.update id' t' p')
        (⟨.left, .documentOf id, table.documentsOf id⟩ :: log) a a' last := by
  have hrun := run_update_of_under (t := t) (p := p) rfl hd
  have hscript := Call.update_script id' t' p'
  rw [hscript] at h
  cases h with
  | left rest =>
      obtain ⟨rfl, hrun'⟩ := rest.of_done_left
      rw [← hscript] at hrun'
      exact .inl (inOrder_of_run hrun hrun')
  | right rest =>
      replace rest : Interleaved table (writing id (.ok d))
        (writing id' (table.rewritten id' t' p')) _ a a' last := rest
      cases hd' : table.rewritten id' t' p' with
      | error fault =>
          rw [hd'] at rest
          obtain ⟨rfl, hwritten⟩ := rest.of_done_right
          cases hwritten
          exact .inr (.inl (inOrder_of_run (run_update_of_error hd') hrun))
      | ok d' =>
          rw [hd'] at rest
          exact interleaved_writes hd hd' rest

/-- An update that has found its rows, and a call of one statement, which may drop them. -/
theorem interleaved_writing_statement {statement : Statement} {next : Outcome → Script Answer}
    {d : Definition} (hd : table.rewritten id t p = .ok d)
    (hscript : c'.script = .step statement next) (hnext : ∀ outcome, ∃ r, next outcome = .done r)
    (hspares : c' = .delete id ∨ statement.Spares id)
    (h : Interleaved table (writing id (.ok d)) c'.script log a a' last) :
    InOrder table (.update id t p) c' a a' last ∨ InOrder table c' (.update id t p) a' a last := by
  have hrun := run_update_of_under (t := t) (p := p) rfl hd
  rw [hscript] at h
  cases h with
  | left rest =>
      obtain ⟨rfl, hrun'⟩ := rest.of_done_left
      rw [← hscript] at hrun'
      exact .inl (inOrder_of_run hrun hrun')
  | right rest =>
      obtain ⟨r, hr⟩ := hnext (statement.run table).1
      rw [hr] at rest
      obtain ⟨rfl, hwritten⟩ := rest.of_done_right
      have hrun' : c'.script.run table = (a', (statement.run table).2) := by
        rw [hscript]
        simp only [Script.run, hr]
      cases hwritten
      rcases hspares with rfl | hspares
      -- what was found is gone when it is written, as if it had been dropped afterwards
      · have hgone := Call.stored_run_delete table id d
        rw [hrun'] at hgone
        refine .inl (inOrder_of_run hrun ?_)
        rw [Call.run_delete_stored, hrun']
        exact congrArg (Prod.mk a') hgone.symm
      · have hunder := hspares table (Table.under_ne_nil_of_rewritten hd)
        exact .inr (inOrder_of_run hrun' (run_update_of_under hunder hd))

/-- An update that has found its rows, before anything else happened. -/
theorem interleaved_writing
    (h : Interleaved table (writing id (table.rewritten id t p)) c'.script log a a' last) :
    InOrder table (.update id t p) c' a a' last ∨ InOrder table c' (.update id t p) a' a last ∨
      Overlapping table (.update id t p) c'
        (⟨.left, .documentOf id, table.documentsOf id⟩ :: log) a a' last := by
  cases hd : table.rewritten id t p with
  | error fault =>
      rw [hd] at h
      obtain ⟨rfl, hrun'⟩ := h.of_done_left
      exact .inl (inOrder_of_run (run_update_of_error hd) hrun')
  | ok d =>
      rw [hd] at h
      rcases c'.atomic_cases with ⟨id', t', p', rfl⟩ | ⟨r, hscript⟩ |
        ⟨statement, next, hscript, hnext, hspares⟩
      · exact interleaved_writing_update hd h
      · obtain ⟨rfl, hwritten⟩ := (hscript ▸ h).of_done_right
        cases hwritten
        exact .inl (inOrder_of_run (run_update_of_under rfl hd) (run_of_done hscript _))
      · rcases interleaved_writing_statement hd hscript hnext (hspares id) h with h | h
        · exact .inl h
        · exact .inr (.inl h)

/-- A call of one statement that is carried out first. -/
theorem inOrder_of_left {statement : Statement} {next : Outcome → Script Answer}
    (hscript : c.script = .step statement next) (hnext : ∀ outcome, ∃ r, next outcome = .done r)
    (rest : Interleaved (statement.run table).2 (next (statement.run table).1) c'.script log a a'
      last) : InOrder table c c' a a' last := by
  obtain ⟨r, hr⟩ := hnext (statement.run table).1
  rw [hr] at rest
  obtain ⟨rfl, hrun'⟩ := rest.of_done_left
  refine inOrder_of_run ?_ hrun'
  rw [hscript]
  simp only [Script.run, hr]

/-- What is sure of two programs is sure of them when they are exchanged. -/
theorem interleaved_cases_swap
    (h : InOrder table c' c a' a last ∨ InOrder table c c' a a' last ∨
      Overlapping table c' c (log.map Executed.swap) a' a last) :
    InOrder table c c' a a' last ∨ InOrder table c' c a' a last ∨
      Overlapping table c c' log a a' last := by
  rcases h with h | h | h
  · exact .inr (.inl h)
  · exact .inl h
  · have hswap := h.swap
    rw [map_swap_swap] at hswap
    exact .inr (.inr hswap)

/-- An update and another call. -/
theorem interleaved_update
    (h : Interleaved table (Call.update id t p).script c'.script log a a' last) :
    InOrder table (.update id t p) c' a a' last ∨ InOrder table c' (.update id t p) a' a last ∨
      Overlapping table (.update id t p) c' log a a' last := by
  have hscript := Call.update_script id t p
  rcases c'.atomic_cases with ⟨id', t', p', rfl⟩ | ⟨r, hscript'⟩ |
    ⟨statement, next', hscript', hnext', -⟩
  · have hscript' := Call.update_script id' t' p'
    rw [hscript, hscript'] at h
    cases h with
    | left rest =>
        rw [← hscript'] at rest
        exact interleaved_writing rest
    -- the other update has found its rows first, so the programs are exchanged
    | right rest =>
        rw [← hscript] at rest
        exact interleaved_cases_swap (interleaved_writing rest.swap)
  · obtain ⟨rfl, hrun⟩ := (hscript' ▸ h).of_done_right
    exact .inl (inOrder_of_run hrun (run_of_done hscript' _))
  · rw [hscript, hscript'] at h
    cases h with
    | left rest =>
        rw [← hscript'] at rest
        exact interleaved_writing rest
    | right rest =>
        rw [← hscript] at rest
        exact .inr (.inl (inOrder_of_left hscript' hnext' rest.swap))

/-- **Two calls on one database do what they do in one of the two orders,** unless they overlap. -/
theorem interleaved_cases (h : Interleaved table c.script c'.script log a a' last) :
    InOrder table c c' a a' last ∨ InOrder table c' c a' a last ∨
      Overlapping table c c' log a a' last := by
  rcases c.atomic_cases with ⟨id, t, p, rfl⟩ | ⟨r, hscript⟩ | ⟨statement, next, hscript, hnext, -⟩
  · exact interleaved_update h
  · obtain ⟨rfl, hrun'⟩ := (hscript ▸ h).of_done_left
    exact .inl (inOrder_of_run (run_of_done hscript _) hrun')
  · rcases c'.atomic_cases with ⟨id', t', p', rfl⟩ | ⟨r, hscript'⟩ |
      ⟨statement', next', hscript', hnext', -⟩
    · exact interleaved_cases_swap (interleaved_update h.swap)
    · obtain ⟨rfl, hrun⟩ := (hscript' ▸ h).of_done_right
      exact .inl (inOrder_of_run hrun (run_of_done hscript' _))
    -- both are one statement, and one of them comes first
    · rw [hscript, hscript'] at h
      cases h with
      | left rest =>
          rw [← hscript'] at rest
          exact .inl (inOrder_of_left hscript hnext rest)
      | right rest =>
          rw [← hscript] at rest
          exact .inr (.inl (inOrder_of_left hscript' hnext' rest.swap))

end Cases

end VideoSurvey.Store
