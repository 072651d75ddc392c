import VideoSurvey.Command.Program
import VideoSurvey.Store.Fresh
import VideoSurvey.Store.TableFile
import Std.Time.DateTime.Timestamp

/-!
# Command line

Brings the files that a command line touches into a tree, runs the program on it, and carries the
changes out.
-/

set_option autoImplicit false

namespace VideoSurvey

open Files (Names Node Path Side Tree)

/-- A path of the operating system. -/
def systemPath (names : Names) : String := "/" ++ "/".intercalate names

/-- What stands under some names. The names of the database tell which file is one. -/
def readNode? (database : Option Names) (names : Names) : IO (Option Node) := do
  match ← (IO.FS.readBinFile (systemPath names)).toBaseIO with
  | .ok content =>
      let table? :=
        if database = some names then (String.fromUTF8? content).bind Store.Table.ofText? else none
      return some (match table? with
        | some table => .database table
        | none => .file content)
  | .error (.inappropriateType ..) => return some .directory
  | .error _ => return none

/-- The tree with what stands under some names. -/
def bring (database : Option Names) (tree : Tree) (names : Names) : IO Tree := do
  if names.isEmpty then return tree
  match ← readNode? database names with
  | some node => return tree.put names node
  | none => return tree

/-- The tree with everything along some parts. -/
def bringParts (database : Option Names) (tree : Tree) (here : Names) (parts : List String) :
    IO Tree := do
  let mut here := here
  let mut tree ← bring database tree here
  for part in parts do
    here := Files.enter here part
    tree ← bring database tree here
  return tree

/-- The tree with everything along a path. -/
def bringPath (database : Option Names) (tree : Tree) (path : Path) : IO Tree :=
  bringParts database tree path.start (Files.parts path.text)

/-- The tree with everything below some names, down to a depth. -/
def bringBelow (tree : Tree) : Nat → Names → IO Tree
  | 0, _ => return tree
  | depth + 1, names => do
      match tree.node? names with
      | some .directory =>
          let here ← IO.currentDir
          let mut tree := tree
          for entry in ← (here / systemPath names).readDir do
            let below := names ++ [entry.fileName]
            tree ← bring none tree below
            tree ← bringBelow tree depth below
          return tree
      | _ => return tree

/-- The greatest depth of directories with templates. -/
def templateDepth : Nat := 16

/-- Puts a node where its names say. -/
def carryOut (names : Names) (node : Node) : IO Unit :=
  match node with
  | .directory => IO.FS.createDirAll (systemPath names)
  | .file content => IO.FS.writeBinFile (systemPath names) content
  | .database table => IO.FS.writeFile (systemPath names) table.text

/-- Names of the variables that the program looks at. -/
def variableNames : List String := ["SURVEY_OVERLAY_DB", "SURVEY_OVERLAY_SETTINGS"]

/-- The variables that are set. -/
def setVariables : IO Variables := do
  variableNames.filterMapM fun name => do
    return (← IO.getEnv name).map fun value => (name, value)

/-- A stamp for this moment. -/
def stampNow : IO Store.Stamp := do
  let bytes ← IO.getRandomBytes 16
  let now ← Std.Time.Timestamp.now
  return .fresh bytes.toList now.toMillisecondsSinceUnixEpoch.val.toNat

/-- Runs a command line on the files of the operating system. -/
def runOnFiles (args : List String) : IO Exit := do
  let known ← setVariables
  let here := Files.names (toString (← IO.currentDir))
  let around : Surroundings := { here }
  let mut tree ← bringParts none [] [] here
  for names in variablesFiles here do
    tree ← bring none tree names
  let env := Environment.ofVariables (known.completed tree here)
  let database := (Command.databasePath? around env).map Path.names
  for path in touchedPaths around env args do
    tree ← bringPath database tree path
  for side in [Side.journal, Side.log, Side.index, Side.lock] do
    for names in database.toList do
      tree ← bring none tree (side.names names)
  if let some path := templateDirectory? around env tree then
    tree ← bringPath database tree path
    tree ← bringBelow tree templateDepth path.names
  let exit := runProgram known (← stampNow) args tree around
  for (names, _) in tree do
    if (exit.files.node? names).isNone then IO.FS.removeFile (systemPath names)
  for (names, node) in exit.files.changesSince tree do
    carryOut names node
  return exit

end VideoSurvey

/-- The program. -/
def main (args : List String) : IO UInt32 := do
  let exit ← VideoSurvey.runOnFiles args
  (← IO.getStdout).putStr exit.output
  (← IO.getStderr).putStr exit.errors
  return exit.code.toUInt32
