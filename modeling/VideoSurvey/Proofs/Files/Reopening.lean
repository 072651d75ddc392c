import VideoSurvey.Proofs.Files.Databases

/-!
# Databases that are closed and opened again

A tree holds a table under a path when opening the database there gives the table, changes no file
and finds nothing that stands in the way of a change. Keeping another table in that file, closing
the database and opening it again gives the other table (`Holds.keep`): the way to the file is the
same as before, and beside the file nothing was put.
-/

set_option autoImplicit false

namespace VideoSurvey.Files.Tree

open Store (Location Table)

/-- The tree after the database with a location was opened, got a table and was closed. -/
def keepDatabase (tree : Tree) (given : Path) (table : Table) : Tree :=
  match tree.openDatabase given with
  | (.ok (_, some file), tree) => (tree.keepTable file table).closeDatabase file
  | (_, tree) => tree

/-- A file of its own, which can be changed without a log, holds a table under a path. -/
structure Holds (files : Tree) (path : Path) (table : Table) : Prop where
  opens : ∃ file, files.openDatabase path = (.ok (table, some file), files) ∧
    files.writeFault? file = none ∧ file.usesLog = false

variable {files files' : Tree} {names : Names} {l : Location}

/-! ## The way to a database -/

/-- Ways stay open when files are put where files were, and taken away. -/
theorem follow_of_files
    (hfiles : ∀ place, files'.node? place = files.node? place ∨ files'.node? place = none ∨
      (∃ a b, files.node? place = some (.database a) ∧ files'.node? place = some (.database b)))
    {here there : Names} {parts : List String} (h : files.follow here parts = some there) :
    files'.follow here parts = some there := by
  induction parts generalizing here with
  | nil => exact h
  | cons part r ih =>
      simp only [follow] at h ⊢
      split at h
      · rename_i hback
        rw [if_pos hback]
        exact ih h
      · rename_i hfurther
        rw [if_neg hfurther]
        split at h
        · cases h
        · rename_i hlong
          rw [if_neg hlong]
          split at h
          · cases h
          · cases h
          · rename_i hfile htable
            -- no file stands here, and none has come
            rcases hfiles here with hsame | hnone | ⟨table, _, hnode, -⟩
            · rw [hsame]
              split
              · rename_i hnode
                exact absurd hnode (hfile _)
              · rename_i hnode
                exact absurd hnode (htable _)
              · exact ih h
            · rw [hnone]
              exact ih h
            · exact absurd hnode (htable _)

/-- What stands where after a table was kept in a file that holds one. -/
theorem node?_keepTable_cases {file : OpenFile} {table table' : Table}
    (hnode : files.node? file.names = some (.database table)) (hlog : file.usesLog = false)
    (place : Names) :
    (files.keepTable file table').node? place = files.node? place ∨
      (files.keepTable file table').node? place = none ∨
      (∃ a b, files.node? place = some (.database a) ∧
        (files.keepTable file table').node? place = some (.database b)) := by
  have hnames : file.names ≠ [] := by
    intro hnil
    rw [hnil] at hnode
    cases hnode
  by_cases hplace : place = file.names
  · subst hplace
    exact .inr (.inr ⟨table, table', hnode, node?_keepTable hnames⟩)
  · rw [keepTable, hlog, node?_put_of_ne hplace, if_neg Bool.false_ne_true, eraseSide]
    by_cases hjournal : place = Side.journal.names file.names
    · subst hjournal
      exact .inr (.inl (node?_erase_self (Side.names_ne_nil _ _) _))
    · exact .inl (node?_erase_of_ne hjournal _)

theorem databaseNames?_keepTable {file : OpenFile} {table table' : Table} {path : Path}
    (hnode : files.node? file.names = some (.database table)) (hlog : file.usesLog = false)
    (h : files.databaseNames? path = some names) :
    (files.keepTable file table').databaseNames? path = some names := by
  unfold databaseNames? at h ⊢
  split at h
  · cases h
  · rename_i there hthere
    rw [follow_of_files (node?_keepTable_cases hnode hlog) hthere]
    exact h

/-! ## Beside a database -/

/-- Without a log in use, what was left is of no account: nothing is a journal to carry out, and
nothing is a log. -/
theorem settle_of_leftovers (hlock : files'.lockFault? l names = none)
    (hjournal : files'.leftover names .journal = .nothing)
    (hlog : l.isFrozen = true ∨ files'.leftover names .log = .nothing) :
    files'.settle l names false = (.ok false, files') := by
  have hsettled : files'.settleJournal l names false = (.ok (), files') := by
    unfold settleJournal
    split
    · rfl
    · rw [hjournal]
  unfold settle
  rw [hlock]
  dsimp only
  rw [hsettled]
  dsimp only
  unfold settleLog
  rcases hlog with hfrozen | hnothing
  · rw [if_pos hfrozen]
  · split
    · rfl
    · rw [hnothing]

theorem log_of_settle (h : files.settle l names false = (.ok false, files)) :
    files.lockFault? l names = none ∧
      (l.isFrozen = true ∨ files.leftover names .log = .nothing) := by
  obtain ⟨hlock, between, -, hlog⟩ := settle_eq_ok h
  refine ⟨hlock, ?_⟩
  unfold settleLog at hlog
  split at hlog
  · rename_i hfrozen
    exact .inl hfrozen
  · split at hlog
    · rename_i hnothing
      cases hlog
      exact .inr hnothing
    · cases hlog
    · cases hlog
    · rename_i heq
      cases heq
    · rename_i isShort _ _
      -- a log that is opened is in use
      rcases hopened : between.openLog l names isShort with ⟨fault | _, after⟩
      · rw [hopened] at hlog
        cases hlog
      · rw [hopened] at hlog
        cases hlog

/-- A database that was opened without a log in use has dealt with what was left. -/
theorem settle_of_openFile {given : String} {table : Table} {file : OpenFile}
    (hnode : files.node? names = some (.database table)) (hlog : file.usesLog = false)
    (h : files.openFile given l names = (.ok (table, file), files)) :
    files.settle l names false = (.ok false, files) := by
  unfold openFile at h
  rw [hnode] at h
  dsimp only [openStored, Stored.isNothing] at h
  rcases hsettled : files.settle l names false with ⟨fault | usesLog, after⟩
  · rw [hsettled] at h
    cases h
  · rw [hsettled] at h
    cases h
    cases hlog
    rfl

section Keeping

variable {file : OpenFile} {table : Table}

theorem node?_lock_keepTable (hlog : file.usesLog = false) :
    (files.keepTable file table).node? (Side.lock.names file.names) =
      files.node? (Side.lock.names file.names) := by
  rw [keepTable, hlog, if_neg Bool.false_ne_true, node?_put_of_ne (Side.names_ne _ _), eraseSide,
    node?_erase_of_ne]
  intro hnames
  cases Side.names_inj hnames

theorem leftover_journal_keepTable (hlog : file.usesLog = false) :
    (files.keepTable file table).leftover file.names .journal = .nothing := by
  rw [keepTable, hlog, if_neg Bool.false_ne_true, leftover_put, leftover_eraseSide_self]

theorem leftover_log_keepTable (hlog : file.usesLog = false) :
    (files.keepTable file table).leftover file.names .log = files.leftover file.names .log := by
  rw [keepTable, hlog, if_neg Bool.false_ne_true, leftover_put]
  exact leftover_eraseSide_of_ne nofun

end Keeping

/-- **What is kept is there when the database is opened again.** -/
theorem Holds.keep {path : Path} {table : Table} (h : files.Holds path table) (table' : Table) :
    (files.keepDatabase path table').Holds path table' := by
  obtain ⟨file, hopens, hwrites, hlog⟩ := h
  obtain ⟨l, hl, hkept, hnames, hopened, hopen⟩ := openDatabase_eq_ok hopens
  obtain ⟨hread, hlong, -⟩ := writeFault?_eq_none hwrites hlog
  obtain ⟨hlock, hfree⟩ := log_of_settle (settle_of_openFile hopen.node hlog hopened)
  -- without a log there is nothing to close
  have hkeep : files.keepDatabase path table' = files.keepTable file table' := by
    rw [keepDatabase, hopens]
    simp only [closeDatabase, hlog, Bool.not_false, Bool.true_or, if_true]
  have htop : file.names ≠ [] := by
    intro hnil
    have hnode := hopen.node
    rw [hnil] at hnode
    cases hnode
  rw [hkeep]
  have hsettled : (files.keepTable file table').settle l file.names false =
      (.ok false, files.keepTable file table') := by
    apply settle_of_leftovers
    · rw [← hlock, lockFault?, lockFault?, node?_lock_keepTable hlog]
    · exact leftover_journal_keepTable hlog
    · rw [leftover_log_keepTable hlog]
      exact hfree
  refine ⟨⟨l, file.names, false⟩, ?_, ?_, rfl⟩
  · rw [openDatabase, hl]
    simp only [hkept, Bool.not_true, Bool.false_eq_true, if_false,
      databaseNames?_keepTable hopen.node hlog hnames]
    rw [openFile, node?_keepTable htop]
    dsimp only [openStored, Stored.isNothing]
    rw [hsettled]
    rfl
  · rw [hopen.location] at hread
    simp only [writeFault?, hread, hlong, leftover_journal_keepTable hlog]
    rfl

end VideoSurvey.Files.Tree
