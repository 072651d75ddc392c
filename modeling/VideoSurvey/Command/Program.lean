import VideoSurvey.Command.Assignment
import VideoSurvey.Command.Run

/-!
# The program

One run of the program: the variables it was started with are completed from the file `.env` of the
working directory or of the nearest directory above it that has one, the command line is carried
out, and the result becomes an exit code. A fault is told on the error output and never on the
output.
-/

set_option autoImplicit false

namespace VideoSurvey

open Files (Names Path Tree)
open Store (Stamp)

/-- The names of the files that may complete the variables of a run in some directory, the nearest
one first. -/
def variablesFiles (here : Names) : List Names :=
  (List.range (here.length + 1)).reverse.map fun n => here.take n ++ [".env"]

/-- The variables completed by the nearest file that is there for it, if there is one. -/
def Variables.completed (known : Variables) (files : Tree) (here : Names := []) : Variables :=
  let isFile (names : Names) : Bool := (files.node? names).any fun node => !node matches .directory
  match ((variablesFiles here).find? isFile).bind files.node? with
  | some (.file content) => known.withFallback (.ofFile known content)
  | _ => known

/-- What the program looks at among some variables. -/
def Environment.ofVariables (known : Variables) : Environment where
  database := known.value? "SURVEY_OVERLAY_DB"
  settings := known.value? "SURVEY_OVERLAY_SETTINGS"

/-- The paths that a command reads or writes. -/
def Command.paths : Command → List String
  | .compile file out => file :: out.toList
  | .create file => [file]
  | .get _ => []
  | .list => []
  | .update _ file => [file]
  | .delete _ => []
  | .generate _ out => out.toList

/-- The paths that a command line reads or writes, without those below the directory of the
templates. -/
def touchedPaths (around : Surroundings) (env : Environment) (args : List String) : List Path :=
  match Command.parse args with
  | .error _ => []
  | .ok command =>
      (command.paths ++ env.settings.toList).map around.path ++
        (Command.databasePath? around env).toList

/-- The directory to look for templates in, if there is one. -/
def templateDirectory? (around : Surroundings) (env : Environment) (files : Tree) : Option Path :=
  match (Command.settingsOf around env files).1 with
  | .ok settings =>
      settings.templateDir.map fun text =>
        around.path (Files.patternTop (TemplateSet.patternBelow text))
  | .error _ => none

/-- What a run of the program leaves behind. -/
structure Exit where
  files : Tree
  output : String
  errors : String
  code : Nat

/-- The end of a command as the end of a program. -/
def Exit.ofFinished (finished : Finished) : Exit :=
  match finished.result with
  | .ok () => ⟨finished.files, finished.printed, "", 0⟩
  | .error fault => ⟨finished.files, finished.printed, "error: " ++ fault.message ++ "\n", 1⟩

/-- Runs the program. -/
def runProgram (known : Variables) (stamp : Stamp) (args : List String) (files : Tree)
    (around : Surroundings := {}) : Exit :=
  .ofFinished
    (Command.run (.ofVariables (known.completed files around.here)) stamp args files around)

end VideoSurvey
