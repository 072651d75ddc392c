import VideoSurvey.Files.Databases
import VideoSurvey.Proofs.Files.Changes

/-!
# What a database leaves

A database that is opened, changed and closed leaves other files only in its own place and in those
beside it (`changes_openDatabase`, `changes_keepTable`, `changes_closeDatabase`). These places are
different from each other (`Side.names_inj`, `Side.names_ne`), so what is done in one of them can
be told without the others: dealing with what was left touches the places beside the database
(`changes_settle`), and keeping a table touches its own.
-/

set_option autoImplicit false

namespace VideoSurvey.Files

open Store (Location StoreFault Table)

/-! ## Places beside a database -/

namespace Side

variable {side other : Side} {database : Names}

theorem names_ne_nil (side : Side) (database : Names) : side.names database ≠ [] := by
  simp [names]

theorem names_ne (side : Side) (database : Names) : side.names database ≠ database := by
  intro h
  have hlast : (side.names database).getLastD "" = database.getLastD "" := by rw [h]
  rw [names, List.getLastD_concat, name] at hlast
  -- a name is never its own continuation
  have hending : side.ending.toList = [] := by
    simpa [String.toList_append] using congrArg String.toList hlast
  cases side <;> exact absurd hending (by decide)

theorem names_inj (h : side.names database = other.names database) : side = other := by
  have hname : side.name database = other.name database := by simpa [names] using h
  have hending : side.ending = other.ending := by
    apply String.toList_inj.1
    simpa [name, String.toList_append] using congrArg String.toList hname
  cases side <;> cases other <;> first | rfl | exact absurd hending (by decide)

end Side

namespace Tree

section Sides

variable {tree : Tree} {database : Names} {side other : Side} {node : Node}

theorem leftover_eq_directory :
    tree.leftover database side = .directory ↔
      tree.node? (side.names database) = some .directory := by
  rw [leftover]
  generalize tree.node? (side.names database) = found
  rcases found with _ | ⟨content⟩ | _ | table
  · exact ⟨nofun, nofun⟩
  · rw [Leftover.ofNode]
    split
    · exact ⟨nofun, nofun⟩
    · exact ⟨nofun, nofun⟩
  · exact ⟨fun _ => rfl, fun _ => rfl⟩
  · exact ⟨nofun, nofun⟩

/-- What stands in the place of a database does not count beside it. -/
theorem leftover_put (tree : Tree) (database : Names) (node : Node) (side : Side) :
    (tree.put database node).leftover database side = tree.leftover database side := by
  rw [leftover, leftover, node?_put_of_ne (side.names_ne database)]

theorem leftover_putSide (h : other ≠ side) :
    (tree.put (side.names database) node).leftover database other =
      tree.leftover database other := by
  rw [leftover, leftover, node?_put_of_ne fun hnames => h (Side.names_inj hnames)]

theorem leftover_eraseSide_self (tree : Tree) (database : Names) (side : Side) :
    (tree.eraseSide database side).leftover database side = .nothing := by
  rw [leftover, eraseSide, node?_erase_self (side.names_ne_nil database)]
  rfl

theorem leftover_eraseSide_of_ne (h : other ≠ side) :
    (tree.eraseSide database side).leftover database other = tree.leftover database other := by
  rw [leftover, leftover, eraseSide, node?_erase_of_ne fun hnames => h (Side.names_inj hnames)]

end Sides

/-! ## What is left there -/

/-- What dealing with the files beside a database leaves: one of them is gone, or the index is
new. -/
inductive Beside (database : Names) : Names → Option Node → Prop
  | gone {side : Side} (hside : side ≠ .lock) : Beside database (side.names database) none
  | index : Beside database (Side.index.names database) (some (.file emptyIndex))

/-- What using a database leaves, in its own place and beside it. -/
inductive Used (database : Names) : Names → Option Node → Prop
  | beside {place : Names} {node : Option Node} (h : Beside database place node) :
      Used database place node
  | file {node : Node} (hnode : node ≠ .directory) : Used database database (some node)

/-- Only the places of a database are used. -/
theorem Used.place {database place : Names} {node : Option Node} (h : Used database place node) :
    place = database ∨ ∃ side : Side, place = side.names database := by
  cases h with
  | file _ => exact .inl rfl
  | beside h =>
      cases h with
      | gone _ => exact .inr ⟨_, rfl⟩
      | index => exact .inr ⟨.index, rfl⟩

variable {tree after : Tree} {l : Location} {names : Names} {isVacant usesLog : Bool}

theorem changes_eraseSide (side : Side) (hside : side ≠ .lock)
    (h : tree.leftover names side ≠ .directory) :
    Changes (Beside names) tree (tree.eraseSide names side) :=
  changes_erase (.gone hside) fun hnode => h (leftover_eq_directory.2 hnode)

theorem changes_settleJournal :
    Changes (Beside names) tree (tree.settleJournal l names isVacant).2 := by
  unfold settleJournal
  split
  · exact changes_refl _ tree
  · split
    · exact changes_refl _ tree
    · exact changes_refl _ tree
    · exact changes_refl _ tree
    -- a journal of no use is taken away or stays
    · rename_i hfile
      dsimp only
      split
      · exact changes_refl _ tree
      · exact changes_eraseSide .journal nofun (by rw [hfile]; exact nofun)
    · exact changes_refl _ tree
    · rename_i hfile
      split
      · exact changes_refl _ tree
      · exact changes_eraseSide .journal nofun (by rw [hfile]; exact nofun)

theorem changes_openLog {isShort : Bool} :
    Changes (Beside names) tree (tree.openLog l names isShort).2 := by
  unfold openLog
  split
  · exact changes_refl _ tree
  · split
    · exact changes_refl _ tree
    · split
      · rename_i hindex
        exact changes_put .index (fun hnode => hindex (leftover_eq_directory.2 hnode)) nofun
      · split
        · exact changes_refl _ tree
        · exact changes_refl _ tree

theorem changes_settleLog : Changes (Beside names) tree (tree.settleLog l names isVacant).2 := by
  unfold settleLog
  split
  · exact changes_refl _ tree
  · split
    · exact changes_refl _ tree
    · exact changes_refl _ tree
    · exact changes_refl _ tree
    · rename_i hfile
      exact changes_eraseSide .log nofun (by rw [hfile]; exact nofun)
    · exact changes_openLog

/-- **What was left beside a database is dealt with there.** -/
theorem changes_settle (tree : Tree) (l : Location) (names : Names) (isVacant : Bool) :
    Changes (Beside names) tree (tree.settle l names isVacant).2 := by
  have hjournal : Changes (Beside names) tree (tree.settleJournal l names isVacant).2 :=
    changes_settleJournal
  unfold settle
  split
  · exact changes_refl _ tree
  · split
    · rename_i heq
      rw [heq] at hjournal
      exact hjournal
    · rename_i heq
      rw [heq] at hjournal
      exact hjournal.trans changes_settleLog

theorem Beside.ne {place : Names} {node : Option Node} (h : Beside names place node) :
    place ≠ names := by
  cases h with
  | gone _ => exact Side.names_ne _ names
  | index => exact Side.names_ne _ names

/-- In its own place a database stays as it is meanwhile. -/
theorem node?_settle (tree : Tree) (l : Location) (names : Names) (isVacant : Bool) :
    (tree.settle l names isVacant).2.node? names = tree.node? names := by
  rcases changes_settle tree l names isVacant names with hsame | hleft
  · exact hsame
  · exact absurd rfl hleft.1.ne

/-- A log that is in use stands beside its database. -/
theorem leftover_log_of_settleLog (h : tree.settleLog l names isVacant = (.ok true, after)) :
    after.leftover names .log ≠ .directory := by
  unfold settleLog at h
  split at h
  · cases h
  · split at h
    · cases h
    · cases h
    · cases h
    · cases h
    · rename_i isShort hlog
      have hsame : (tree.openLog l names isShort).2.leftover names .log =
          tree.leftover names .log := by
        unfold openLog
        split
        · rfl
        · split
          · rfl
          · split
            · exact leftover_putSide nofun
            · split
              · rfl
              · rfl
      obtain rfl : (tree.openLog l names isShort).2 = after := congrArg Prod.snd h
      rw [hsame, hlog]
      exact nofun

theorem settle_eq_ok (h : tree.settle l names isVacant = (.ok usesLog, after)) :
    tree.lockFault? l names = none ∧ ∃ between,
      tree.settleJournal l names isVacant = (.ok (), between) ∧
      between.settleLog l names isVacant = (.ok usesLog, after) := by
  unfold settle at h
  split at h
  · cases h
  · rename_i hlock
    split at h
    · cases h
    · rename_i between hjournal
      exact ⟨hlock, between, hjournal, h⟩

/-- Beside a file without content no log is in use. -/
theorem usesLog_of_vacant (h : tree.settle l names true = (.ok usesLog, after)) :
    usesLog = false := by
  obtain ⟨-, between, -, hlog⟩ := settle_eq_ok h
  unfold settleLog at hlog
  split at hlog
  · cases hlog
    rfl
  · split at hlog
    · cases hlog
      rfl
    · cases hlog
    · rename_i heq
      cases heq
    · cases hlog
      rfl
    · rename_i heq
      cases heq

/-! ## The file of an open database -/

variable {file : OpenFile} {table : Table}

theorem writeFault?_eq_none (h : tree.writeFault? file = none) (hlog : file.usesLog = false) :
    file.location.isReadOnly = false ∧ Side.journal.isTooLong file.names = false ∧
      tree.leftover file.names .journal ≠ .directory := by
  unfold writeFault? at h
  split at h
  · cases h
  · rename_i hread
    rw [hlog, if_neg Bool.false_ne_true] at h
    split at h
    · cases h
    · rename_i hjournal
      simp only [Bool.or_eq_true, decide_eq_true_eq, not_or, Bool.not_eq_true] at hread hjournal
      exact ⟨hread, hjournal⟩

theorem node?_keepTable (hnames : file.names ≠ []) :
    (tree.keepTable file table).node? file.names = some (.database table) :=
  node?_put_self hnames _ _

/-- What is known of a database that was opened: its table stands in its place, and a log that is in
use beside it. -/
structure IsOpen (l : Location) (place : Names) (table : Table) (file : OpenFile) (tree : Tree) :
    Prop where
  location : file.location = l
  names : file.names = place
  node : tree.node? place = some (.database table)
  log : file.usesLog = true → tree.leftover place .log ≠ .directory

theorem isOpen_of_openStored {stored : Stored} (hfile : tree.node? names ≠ some .directory)
    (hstored : ∀ table, stored = .table table → tree.node? names = some (.database table))
    (h : tree.openStored l names stored = (.ok (table, file), after)) :
    IsOpen l names table file after := by
  have hplace := node?_settle tree l names stored.isNothing
  unfold openStored at h
  split at h
  · cases h
  · rename_i usesLog between heq
    rw [heq] at hplace
    cases stored with
    | table table =>
        cases h
        refine ⟨rfl, rfl, hplace.trans (hstored _ rfl), ?_⟩
        rintro rfl
        obtain ⟨-, _, -, hlog⟩ := settle_eq_ok heq
        exact leftover_log_of_settleLog hlog
    | other => cases h
    | nothing =>
        dsimp only at h
        split at h
        · cases h
        · cases h
          have hnames : names ≠ [] := by
            rintro rfl
            exact hfile (node?_nil tree)
          refine ⟨rfl, rfl, node?_keepTable hnames, fun huses => ?_⟩
          cases (usesLog_of_vacant heq).symm.trans huses

theorem isOpen_of_openFile {given : String}
    (h : tree.openFile given l names = (.ok (table, file), after)) :
    IsOpen l names table file after := by
  unfold openFile at h
  split at h
  · rename_i table' hnode
    refine isOpen_of_openStored (by rw [hnode]; exact nofun) ?_ h
    intro table hstored
    cases hstored
    exact hnode
  · rename_i hnode
    refine isOpen_of_openStored (by rw [hnode]; exact nofun) ?_ h
    intro table hstored
    split at hstored
    · cases hstored
    · cases hstored
  · cases h
  · rename_i hnone
    split at h
    · refine isOpen_of_openStored ?_ ?_ h
      · rw [node?_put_self]
        · exact nofun
        · rintro rfl
          cases hnone
      · intro table hstored
        cases hstored
    · cases h

/-! ## Locations -/

/-- What was opened at a location that is kept. -/
theorem openDatabase_eq_ok {given : Path}
    (h : tree.openDatabase given = (.ok (table, some file), after)) :
    ∃ l, Location.ofText given.text = .ok l ∧ l.isKept = true ∧
      tree.databaseNames? ⟨given.base, l.path⟩ = some file.names ∧
      tree.openFile given.text l file.names = (.ok (table, file), after) ∧
      IsOpen l file.names table file after := by
  unfold openDatabase at h
  split at h
  · cases h
  · rename_i l hl
    split at h
    · split at h
      · cases h
      · cases h
    · rename_i hkept
      split at h
      · cases h
      · rename_i names hnames
        rcases hopened : tree.openFile given.text l names with ⟨fault | ⟨table', file'⟩, after'⟩
        · rw [hopened] at h
          cases h
        · rw [hopened] at h
          cases h
          have hopen := isOpen_of_openFile hopened
          obtain rfl := hopen.names
          exact ⟨l, hl, by simpa using hkept, hnames, hopened, hopen⟩

end Tree

end VideoSurvey.Files
