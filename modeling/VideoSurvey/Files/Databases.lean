import VideoSurvey.Files.Tree

/-!
# Databases in files

A database has a file of its own and may have others beside it, whose names are longer: a journal,
by which a change that was broken off is undone, a log of changes, an index of the log, and a
directory that serves as a lock. Opening a database (`Tree.openDatabase`) finds its table, makes its
file when that is missing and may be made, and deals with what was left beside it. Keeping a table
(`Tree.keepTable`) changes the file, and closing the database (`Tree.closeDatabase`) takes away a
log that was in use.
-/

set_option autoImplicit false

namespace VideoSurvey.Files

open Store (Location StoreFault Table)

/-- The longest path of a database in bytes, and of any directory on its way. -/
def longestDatabasePath : Nat := 504

/-- The longest path in bytes while the parts of a path are followed. -/
def longestWay : Nat := 511

/-- The bytes of some names with a slash before each. -/
def wayLength (names : Names) : Nat := names.foldl (fun n name => n + 1 + name.utf8ByteSize) 0

/-- A file of at most one byte counts as one without content. -/
def isVacant (content : ByteArray) : Bool := content.size ≤ 1

/-! ## Beside a database -/

/-- What a database may have beside its file. -/
inductive Side where
  | journal
  | log
  | index
  | lock
deriving DecidableEq, Repr

namespace Side

/-- What is added to the name of a database. -/
def ending : Side → String
  | .journal => "-journal"
  | .log => "-wal"
  | .index => "-shm"
  | .lock => ".lock"

/-- The last name of a file beside a database. -/
def name (side : Side) (database : Names) : String := database.getLastD "" ++ side.ending

/-- The names of a file beside a database. -/
def names (side : Side) (database : Names) : Names := database.dropLast ++ [side.name database]

/-- Whether the name of a file beside a database is too long for it to be there. -/
def isTooLong (side : Side) (database : Names) : Bool :=
  longestName < (side.name database).utf8ByteSize

end Side

/-- What was left in a place beside a database. An empty file counts as nothing, a file that begins
with a zero as one that was given up, and a short file is no longer than the head of a log. -/
inductive Leftover where
  | nothing
  | directory
  | file (isGivenUp isShort : Bool)
deriving DecidableEq, Repr

/-- The length of the head of a log. -/
def logHead : Nat := 32

/-- What a node counts as. -/
def Leftover.ofNode : Option Node → Leftover
  | none => .nothing
  | some .directory => .directory
  | some (.database _) => .file false false
  | some (.file content) =>
      match content.data.toList with
      | [] => .nothing
      | b :: _ => .file (b = 0) (content.size < logHead)

/-- The head of the index of a log that holds nothing: its version, that it is set up, and a check
sum. -/
def indexHead : List UInt8 :=
  [0x18, 0xe2, 0x2d, 0x00] ++ List.replicate 8 0 ++ [0x01] ++ List.replicate 27 0 ++
    [0x38, 0x07, 0x18, 0x06, 0x35, 0x93, 0xdb, 0x09]

/-- The index of a log that holds nothing. The head is there twice, and of the marks for five
readers only the first is set. -/
def emptyIndex : ByteArray :=
  ⟨(indexHead ++ indexHead ++ List.replicate 8 0 ++ List.replicate 16 0xff ++
    List.replicate 32648 0).toArray⟩

/-- The file of a database that is open. -/
structure OpenFile where
  location : Location
  names : Names
  usesLog : Bool
deriving DecidableEq, Repr

namespace Tree

/-- What was left beside a database. -/
def leftover (tree : Tree) (database : Names) (side : Side) : Leftover :=
  .ofNode (tree.node? (side.names database))

/-- Takes away what stands beside a database. -/
def eraseSide (tree : Tree) (database : Names) (side : Side) : Tree :=
  tree.erase (side.names database)

/-! ## Opening -/

/-- The names that the parts of a database's path lead to. Nothing on the way has to be there, but
every part must be a possible name, and no part may stand below a file. -/
def follow (tree : Tree) : Names → List String → Option Names
  | here, [] => some here
  | here, part :: r =>
      let there := enter here part
      if there.length ≤ here.length then follow tree there r
      else if longestName < part.utf8ByteSize || longestWay < wayLength there then none
      else
        match tree.node? here with
        | some (.file _) => none
        | some (.database _) => none
        | _ => follow tree there r

/-- The names of a database's file. -/
def databaseNames? (tree : Tree) (path : Path) : Option Names :=
  match tree.follow path.start (parts path.text) with
  | none => none
  | some names => if names = [] || longestDatabasePath < wayLength names then none else some names

/-- Why a database cannot be locked by a directory. -/
def lockFault? (tree : Tree) (l : Location) (names : Names) : Option StoreFault :=
  if l.locking ≠ .byDirectory || l.isLone || l.isFrozen then none
  else if Side.lock.isTooLong names then some .unreadableFile
  else (tree.node? (Side.lock.names names)).map fun _ => .locked

/-- Whether journals are left alone. Behind a directory that serves as a lock, whoever has made it,
every journal is taken for one that is in use. -/
def passesJournal (tree : Tree) (l : Location) (names : Names) : Bool :=
  l.isFrozen ||
    (l.locking = .byDirectory && (!l.isLone || (tree.node? (Side.lock.names names)).isSome))

/-- Deals with a journal that was left. Beside a file without content it is of no use. Beside any
other it is carried out and taken away, unless it was given up. -/
def settleJournal (tree : Tree) (l : Location) (names : Names) (isVacant : Bool) :
    Except StoreFault Unit × Tree :=
  if tree.passesJournal l names then (.ok (), tree)
  else
    match tree.leftover names .journal, isVacant with
    | .nothing, _ => (.ok (), tree)
    | .directory, true => (.ok (), tree)
    | .directory, false => (.error .unreadableFile, tree)
    | .file _ _, true =>
        (.ok (), if l.mode = .reading && !l.isUnlocked then tree
          else tree.eraseSide names .journal)
    | .file true _, false => (.ok (), tree)
    | .file false _, false =>
        if l.mode = .reading then (.error .readOnly, tree)
        else (.ok (), tree.eraseSide names .journal)

/-- Whether the index of a log is kept in a file. -/
def hasIndexFile (l : Location) : Bool := l.mode = .reading || l.locking = .shared

/-- Begins to use a log that was left, which needs an index and locks of its own. -/
def openLog (tree : Tree) (l : Location) (names : Names) (isShort : Bool) :
    Except StoreFault Unit × Tree :=
  if l.isUnlocked || l.locking = .byDirectory then (.error .cannotOpenBeside, tree)
  else if !hasIndexFile l then (.ok (), tree)
  else if tree.leftover names .index ≠ .directory then
    (.ok (), tree.put (Side.index.names names) (.file emptyIndex))
  else if isShort then (.ok (), tree)
  else (.error .lockingProtocol, tree)

/-- Deals with a log that was left, and tells whether it is in use from now on. Beside a file
without content it is of no use. -/
def settleLog (tree : Tree) (l : Location) (names : Names) (isVacant : Bool) :
    Except StoreFault Bool × Tree :=
  if l.isFrozen then (.ok false, tree)
  else
    match tree.leftover names .log, isVacant with
    | .nothing, _ => (.ok false, tree)
    | .directory, true => (.error .unreadableFile, tree)
    | .directory, false => (.error .cannotOpenBeside, tree)
    | .file _ _, true => (.ok false, tree.eraseSide names .log)
    | .file _ isShort, false =>
        let (result, tree) := tree.openLog l names isShort
        (result.map fun _ => true, tree)

/-- Deals with all that was left beside a database, and tells whether a log is in use. -/
def settle (tree : Tree) (l : Location) (names : Names) (isVacant : Bool) :
    Except StoreFault Bool × Tree :=
  match tree.lockFault? l names with
  | some fault => (.error fault, tree)
  | none =>
      match tree.settleJournal l names isVacant with
      | (.error fault, tree) => (.error fault, tree)
      | (.ok (), tree) => tree.settleLog l names isVacant

/-- Why the file of an open database cannot be changed. A change needs a journal or a log, and a log
needs an index. -/
def writeFault? (tree : Tree) (file : OpenFile) : Option StoreFault :=
  if file.location.isReadOnly then some .readOnly
  else if file.usesLog then
    if hasIndexFile file.location && tree.leftover file.names .index = .directory then
      some .readOnly
    else none
  else if Side.journal.isTooLong file.names || tree.leftover file.names .journal = .directory then
    some .cannotOpenBeside
  else none

/-- The tree with a table in the file of an open database. The journal of the change is gone. -/
def keepTable (tree : Tree) (file : OpenFile) (table : Table) : Tree :=
  (if file.usesLog then tree else tree.eraseSide file.names .journal).put file.names
    (.database table)

/-- Closes a database. The last user of a log takes it away, with the file of its index. -/
def closeDatabase (tree : Tree) (file : OpenFile) : Tree :=
  if !file.usesLog || file.location.mode = .reading then tree
  else if !hasIndexFile file.location then tree.eraseSide file.names .log
  else if tree.leftover file.names .index = .directory then tree
  else (tree.eraseSide file.names .log).eraseSide file.names .index

/-- What the file of a database holds before it is opened. -/
inductive Stored where
  | nothing
  | table (table : Table)
  | other

/-- Whether the file has no content. -/
def Stored.isNothing : Stored → Bool
  | .nothing => true
  | _ => false

/-- The table in a file that is there. A file without content gets one. -/
def openStored (tree : Tree) (l : Location) (names : Names) (stored : Stored) :
    Except StoreFault (Table × OpenFile) × Tree :=
  match tree.settle l names stored.isNothing with
  | (.error fault, tree) => (.error fault, tree)
  | (.ok usesLog, tree) =>
      let file : OpenFile := ⟨l, names, usesLog⟩
      match stored with
      | .table table => (.ok (table, file), tree)
      | .other => (.error .notADatabase, tree.closeDatabase file)
      | .nothing =>
          match tree.writeFault? file with
          | some fault => (.error fault, tree)
          | none => (.ok ([], file), tree.keepTable file [])

/-- The table in the file under some names, which is made when it is missing and may be made. -/
def openFile (tree : Tree) (given : String) (l : Location) (names : Names) :
    Except StoreFault (Table × OpenFile) × Tree :=
  match tree.node? names with
  | some (.database table) => tree.openStored l names (.table table)
  | some (.file content) =>
      tree.openStored l names (if isVacant content then .nothing else .other)
  | some .directory =>
      (.error (if l.mode = .reading then .unreadableFile else .cannotOpen given), tree)
  | none =>
      match tree.node? names.dropLast, l.mode with
      | some .directory, .creating =>
          (tree.put names (.file ByteArray.empty)).openStored l names .nothing
      | _, _ => (.error (.cannotOpen given), tree)

/-- The table of the database with a location, and its file, if it has one. -/
def openDatabase (tree : Tree) (given : Path) :
    Except StoreFault (Table × Option OpenFile) × Tree :=
  match Location.ofText given.text with
  | .error fault => (.error (.location fault), tree)
  | .ok l =>
      if !l.isKept then (if l.isReadOnly then .error .readOnly else .ok ([], none), tree)
      else
        match tree.databaseNames? ⟨given.base, l.path⟩ with
        | none => (.error (.cannotOpen given.text), tree)
        | some names =>
            let (result, tree) := tree.openFile given.text l names
            (result.map fun found => (found.1, some found.2), tree)

end Tree

end VideoSurvey.Files
