import VideoSurvey.Files.Path
import VideoSurvey.Store.Database

/-!
# File trees

The files that the program can see: each is a file of bytes, a directory or a database, under the
names that lead to it from the root. Reading follows a path; writing puts a file into a directory
that is there already; `createDirectories` makes a directory and those above it. What stands in a
tree after `put` is `node?_put_self` and `node?_put_of_ne`, and after `erase` it is
`node?_erase_self` and `node?_erase_of_ne`.

The table of a database is the one that is read from it. What a journal or a log beside its file has
to undo or to add counts as done.
-/

set_option autoImplicit false

namespace VideoSurvey.Files

/-- What stands under a name. -/
inductive Node where
  | file (content : ByteArray)
  | directory
  | database (table : Store.Table)

/-- Whether two nodes hold the same. -/
def Node.isSame : Node → Node → Bool
  | .file a, .file b => a.toList = b.toList
  | .directory, .directory => true
  | .database a, .database b => a = b
  | _, _ => false

/-- Everything below the root. -/
abbrev Tree := List (Names × Node)

/-- Why a step on files fails. -/
inductive FileFault where
  | notFound
  | alreadyThere
  | notADirectory
  | isADirectory
  | nameTooLong
  | notUtf8
  | nulInPath
deriving DecidableEq, Repr

/-- Wording of a fault. -/
def FileFault.message : FileFault → String
  | .notFound => "No such file or directory (os error 2)"
  | .alreadyThere => "File exists (os error 17)"
  | .notADirectory => "Not a directory (os error 20)"
  | .isADirectory => "Is a directory (os error 21)"
  | .nameTooLong => "File name too long (os error 36)"
  | .notUtf8 => "stream did not contain valid UTF-8"
  | .nulInPath => "file name contained an unexpected NUL byte"

namespace Tree

/-- What stands under some names. The root is a directory. -/
def node? (tree : Tree) (names : Names) : Option Node :=
  if names = [] then some .directory
  else (List.find? (fun entry => entry.1 = names) tree).map Prod.snd

/-- Puts a node under some names, in place of the one that is there. -/
def put : Tree → Names → Node → Tree
  | [], names, node => [(names, node)]
  | entry :: r, names, node =>
      if entry.1 = names then (names, node) :: r else entry :: put r names node

/-- Takes away what stands under some names. -/
def erase (tree : Tree) (names : Names) : Tree := List.filter (fun entry => entry.1 ≠ names) tree

section Nodes

variable {names other : Names}

@[simp]
theorem node?_nil (tree : Tree) : tree.node? [] = some .directory := if_pos rfl

theorem node?_put_self (h : names ≠ []) (tree : Tree) (node : Node) :
    (put tree names node).node? names = some node := by
  induction tree with
  | nil => simp [put, node?, h]
  | cons entry r ih =>
      by_cases he : entry.1 = names
      · simp [put, node?, h, he]
      · simpa [put, node?, h, he] using ih

theorem node?_put_of_ne (h : other ≠ names) (tree : Tree) (node : Node) :
    (put tree names node).node? other = node? tree other := by
  by_cases ho : other = []
  · simp [ho]
  · induction tree with
    | nil => simp [put, node?, ho, Ne.symm h]
    | cons entry r ih =>
        by_cases he : entry.1 = names
        · simp [put, node?, ho, he, Ne.symm h]
        · by_cases hn : entry.1 = other
          · have hne : ¬ other = names := h
            simp [put, node?, ho, hn, hne]
          · simpa [put, node?, ho, he, hn] using ih

theorem node?_erase_self (h : names ≠ []) (tree : Tree) :
    (erase tree names).node? names = none := by
  rw [node?, if_neg h, Option.map_eq_none_iff, List.find?_eq_none]
  intro entry hentry
  simpa using (List.mem_filter.1 hentry).2

theorem node?_erase_of_ne (h : other ≠ names) (tree : Tree) :
    (erase tree names).node? other = tree.node? other := by
  by_cases ho : other = []
  · simp [ho]
  · induction tree with
    | nil => rfl
    | cons entry r ih =>
        by_cases he : entry.1 = names
        · simpa [erase, node?, ho, he, Ne.symm h] using ih
        · by_cases hn : entry.1 = other
          · simp [erase, node?, ho, hn, h]
          · simpa [erase, node?, ho, he, hn] using ih

end Nodes

/-- Follows the parts of a path. Whatever is gone through has to be a directory; the end of the
path need not be there. -/
def walk (tree : Tree) : Names → List String → Except FileFault Names
  | here, [] => .ok here
  | here, part :: r =>
      match tree.node? here with
      | some .directory =>
          if longestName < part.utf8ByteSize then .error .nameTooLong
          else walk tree (enter here part) r
      | some _ => .error .notADirectory
      | none => .error .notFound

/-- What keeps a path from being followed at all. -/
def pathFault? (text : String) : Option FileFault :=
  if text.toList.contains '\x00' then some .nulInPath
  else if text.isEmpty then some .notFound
  else if longestPath < text.utf8ByteSize then some .nameTooLong
  else none

/-- What stands under a path. -/
def find (tree : Tree) (path : Path) : Except FileFault Node :=
  match pathFault? path.text with
  | some fault => .error fault
  | none => do
      let names ← tree.walk path.start (parts path.text)
      match tree.node? names with
      | some node => .ok node
      | none => .error .notFound

/-- Whether anything stands under a path. -/
def contains (tree : Tree) (path : Path) : Bool := (tree.find path).isOk

/-- The text of a file. -/
def readText (tree : Tree) (path : Path) : Except FileFault String :=
  match tree.find path with
  | .error fault => .error fault
  | .ok .directory => .error .isADirectory
  | .ok (.database _) => .error .notUtf8
  | .ok (.file content) =>
      match String.fromUTF8? content with
      | some text => .ok text
      | none => .error .notUtf8

/-- The tree with a file under a path. -/
def write (tree : Tree) (path : Path) (content : ByteArray) : Except FileFault Tree :=
  match pathFault? path.text with
  | some fault => .error fault
  | none => do
      let names ← tree.walk path.start (innerParts path.text)
      match tree.node? names with
      | some .directory => .error .isADirectory
      | _ =>
          if endsInSlash path.text then .error .isADirectory
          else .ok (tree.put names (.file content))

/-- Makes the directories that are missing along some parts. Those that were made before a fault
stay. -/
def makeDirectories (tree : Tree) : Names → List String → Except FileFault Unit × Tree
  | _, [] => (.ok (), tree)
  | here, part :: r =>
      let there := enter here part
      match tree.node? there with
      | some .directory => makeDirectories tree there r
      | some _ => (.error (if r.isEmpty then .alreadyThere else .notADirectory), tree)
      | none =>
          if longestName < part.utf8ByteSize then (.error .nameTooLong, tree)
          else makeDirectories (tree.put there .directory) there r

/-- Makes the directory under a path, and those above it, as far as they are missing. -/
def createDirectories (tree : Tree) (path : Path) : Except FileFault Unit × Tree :=
  if path.text.isEmpty then (.ok (), tree)
  else
    match pathFault? path.text, tree.node? path.start with
    | some fault, _ => (.error fault, tree)
    | none, some .directory => tree.makeDirectories path.start (innerParts path.text)
    | none, _ => (.error .notFound, tree)

/-- The files below some names, with their names from there on. -/
def below (tree : Tree) (top : Names) : List (Names × ByteArray) :=
  List.filterMap (fun entry =>
    match entry.2 with
    | .file content =>
        if top.isPrefixOf entry.1 && top.length < entry.1.length then
          some (entry.1.drop top.length, content)
        else none
    | _ => none) tree

/-- The nodes that another tree does not have in the same place. -/
def changesSince (tree before : Tree) : Tree :=
  List.filter (fun entry => !(before.node? entry.1).any entry.2.isSame) tree

end Tree

end VideoSurvey.Files
