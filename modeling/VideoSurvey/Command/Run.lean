import VideoSurvey.Command.Parser
import VideoSurvey.Files.Databases
import VideoSurvey.Files.Templates
import VideoSurvey.Service
import VideoSurvey.Settings.File

/-!
# Running a command

A command is a function of the files, of two variables of the environment, of its surroundings, and
of a fresh id and a reading of the clock. It answers with the files it leaves, the text it prints,
and its result. A document is compiled before anything is written for it, and a database is closed
by then, so a command that fails on the way leaves the file it was to write as it was, unless that
is one of those that the database has beside its own.
-/

set_option autoImplicit false

namespace VideoSurvey

open Files (FileFault Names OpenFile Path Tree)
open Store (Repository Stamp StoreFault)
open Overlay (CompileFault)
open Settings (SettingsFault)

/-- The variables that the program looks at. -/
structure Environment where
  database : Option String
  settings : Option String
deriving DecidableEq, Repr

/-- What is around a command beside its files and variables: the directory that it works in, and how
a directory of templates is read. -/
structure Surroundings where
  here : Names := []
  read : TemplateSet.Reader := TemplateSet.reader

/-- A path as it is given to a command. -/
def Surroundings.path (around : Surroundings) (text : String) : Path := ⟨around.here, text⟩

/-- The templates that settings ask for. -/
def Surroundings.templates (around : Surroundings) (files : Tree) (settings : Settings) :
    Except TemplateFault Renderer :=
  TemplateSet.ofSettings files settings around.here around.read

/-- Why a command fails. -/
inductive CommandFault where
  | usage (fault : UsageFault)
  | settings (fault : SettingsFault)
  | store (fault : StoreFault)
  | templates (fault : TemplateFault)
  | read (path : String) (fault : FileFault)
  | json (path : String) (error : Json.ReadError)
  | survey (fault : Survey.Fault)
  | compile (fault : CompileFault)
  | createDirectory (path : String) (fault : FileFault)
  | write (path : String) (fault : FileFault)
  | service (fault : ServiceFault)
deriving Repr

/-- Wording of a fault. -/
def CommandFault.message : CommandFault → String
  | .usage fault => fault.message
  | .settings fault => fault.message
  | .store fault => fault.message
  | .templates fault => (CompileFault.template fault).message
  | .read path fault => "failed to read " ++ path ++ ": " ++ fault.message
  | .json path error => "failed to parse " ++ path ++ ": " ++ error.message
  | .survey fault => fault.message
  | .compile fault => fault.message
  | .createDirectory path fault => "failed to create " ++ path ++ ": " ++ fault.message
  | .write path fault => "failed to write " ++ path ++ ": " ++ fault.message
  | .service fault => fault.message

/-- What a command leaves behind. -/
structure Finished where
  files : Tree
  printed : String
  result : Except CommandFault Unit

/-- A failed command that printed nothing. -/
def Finished.failed (files : Tree) (fault : CommandFault) : Finished := ⟨files, "", .error fault⟩

namespace Command

/-! ## Reading and writing -/

/-- The text of a file. -/
def readText (files : Tree) (path : Path) : Except CommandFault String :=
  (files.readText path).mapError (.read path.text)

/-- The JSON value in a file. -/
def readJson (files : Tree) (path : Path) : Except CommandFault Json := do
  let raw ← readText files path
  (Json.read raw).mapError (.json path.text)

/-- Makes the directory that a path stands in, if it is missing. -/
def makeParent (files : Tree) (path : Path) : Except CommandFault Unit × Tree :=
  match path.parent? with
  | none => (.ok (), files)
  | some parent =>
      if parent.text.isEmpty || files.contains parent then (.ok (), files)
      else
        let (result, files) := files.createDirectories parent
        (result.mapError (.createDirectory parent.text), files)

/-- The tree with a document in a file. The directories stay that were made before a fault. -/
def writeDocument (files : Tree) (path : Path) (html : String) : Except CommandFault Unit × Tree :=
  match makeParent files path with
  | (.error fault, files) => (.error fault, files)
  | (.ok (), files) =>
      match files.write path html.toUTF8 with
      | .error fault => (.error (.write path.text fault), files)
      | .ok files => (.ok (), files)

/-! ## Settings and repository -/

/-- The settings that the environment asks for. -/
def settingsOf (around : Surroundings) (env : Environment) (files : Tree) :
    Except CommandFault Settings × Tree :=
  match env.settings with
  | none => (.ok Settings.standard, files)
  | some text =>
      if Text.isBlank text then (.ok Settings.standard, files)
      else
        let (result, files) := Settings.load files (around.path text)
        (result.mapError .settings, files)

/-- The location of the database, if the environment names one. -/
def databaseLocation? (env : Environment) : Option String :=
  match env.database with
  | none => none
  | some text => if Text.isBlank text then none else some (Text.trimmed text)

/-- The path of the file that keeps the database, if there is one. -/
def databasePath? (around : Surroundings) (env : Environment) : Option Path :=
  ((databaseLocation? env).bind Store.Location.keptPath?).map around.path

/-- The repository that the environment asks for, and the file that it is kept in, if there is
one. -/
def openRepository (around : Surroundings) (env : Environment) (files : Tree) :
    Except StoreFault (Repository × Option OpenFile) × Tree :=
  match databaseLocation? env with
  | none => (.ok (.memory [], none), files)
  | some text =>
      let (result, files) := files.openDatabase (around.path text)
      (result.map fun found => (.database found.1, found.2), files)

/-- Closes the file that a repository is kept in. -/
def closeRepository (files : Tree) (file? : Option OpenFile) : Tree :=
  match file? with
  | some file => files.closeDatabase file
  | none => files

/-! ## Commands -/

/-- Compiles the survey in a file. -/
def compileFile (around : Surroundings) (files : Tree) (settings : Settings) (file : String) :
    Except CommandFault Overlay.Bundle := do
  let raw ← readText files (around.path file)
  let d ← (Survey.Definition.ofText raw).mapError .survey
  let render ← (around.templates files settings).mapError .templates
  (Overlay.compile render d settings).mapError .compile

/-- The command that compiles a file. -/
def runCompile (around : Surroundings) (files : Tree) (settings : Settings) (file : String)
    (out : Option String) : Finished :=
  match compileFile around files settings file with
  | .error fault => .failed files fault
  | .ok bundle =>
      match out with
      | none => ⟨files, bundle.html ++ "\n", .ok ()⟩
      | some out =>
          match writeDocument files (around.path out) bundle.html with
          | (.error fault, files) => .failed files fault
          | (.ok (), files) => ⟨files, "wrote " ++ out ++ " (" ++ bundle.sha256 ++ ")\n", .ok ()⟩

/-- What a command does with the service. -/
def serve (around : Surroundings) (files : Tree) (stamp : Stamp) (s : Service) :
    Command → Except CommandFault (Replied × Service)
  | .create file => do
      let body ← readJson files (around.path file)
      .ok (s.create stamp body)
  | .get id => .ok (s.get id)
  | .list => .ok s.list
  | .update id file => do
      let patch ← readJson files (around.path file)
      .ok (s.update id stamp.time patch)
  | .delete id => .ok (s.delete id)
  | .generate id _ => .ok (s.generate id)
  | .compile file _ => do
      let bundle ← compileFile around files s.settings file
      .ok (.ok (.generated bundle), s)

/-- Whether a command comes to a statement that may change the table. -/
def reachesChange : Command → Replied → Bool
  | .create _, .ok _ => true
  | .create _, .error (.store (.refused _)) => true
  | .update _ _, .ok _ => true
  | .delete _, _ => true
  | _, _ => false

/-- Keeps what a command has made of a repository in the file of the repository. A file that can
only be read refuses the statement at once, and one that cannot be changed for another reason only
when a row is changed. -/
def keepRepository (files : Tree) (file? : Option OpenFile) (command : Command) (reply : Replied)
    (repository : Repository) : Replied × Tree :=
  match file?, repository with
  | some file, .database table =>
      if !reachesChange command reply then (reply, files)
      else
        match reply, files.writeFault? file with
        | .ok _, none => (reply, files.keepTable file table)
        | .ok _, some fault => (.error (.store fault), files)
        | .error _, some .readOnly => (.error (.store .readOnly), files)
        | .error _, _ => (reply, files)
  | _, _ => (reply, files)

/-- The path that a command writes its document to. -/
def out? : Command → Option String
  | .compile _ out => out
  | .generate _ out => out
  | _ => none

/-- Prints the envelope of a reply, or writes the document of a bundle to a file. -/
def answer (around : Surroundings) (files : Tree) (out : Option String) (reply : Replied) :
    Finished :=
  match out, reply with
  | some out, .ok (.generated bundle) =>
      match writeDocument files (around.path out) bundle.html with
      | (.error fault, files) => .failed files fault
      | (.ok (), files) => ⟨files, "wrote " ++ out ++ "\n", .ok ()⟩
  | _, reply =>
      ⟨files, (envelope reply).prettyText ++ "\n",
        match reply with
        | .ok _ => .ok ()
        | .error fault => .error (.service fault)⟩

/-- A command that goes through the service. Its database is closed before it answers. -/
def runService (around : Surroundings) (env : Environment) (stamp : Stamp) (files : Tree)
    (settings : Settings) (command : Command) : Finished :=
  match openRepository around env files with
  | (.error fault, files) => .failed files (.store fault)
  | (.ok (repository, file?), files) =>
      match around.templates files settings with
      | .error fault => .failed (closeRepository files file?) (.templates fault)
      | .ok render =>
          match serve around files stamp ⟨repository, settings, render⟩ command with
          | .error fault => .failed (closeRepository files file?) fault
          | .ok (reply, service) =>
              let (reply, files) := keepRepository files file? command reply service.repository
              answer around (closeRepository files file?) command.out? reply

/-- Runs a command line. -/
def run (env : Environment) (stamp : Stamp) (args : List String) (files : Tree)
    (around : Surroundings := {}) : Finished :=
  match parse args with
  | .error fault => .failed files (.usage fault)
  | .ok command =>
      match settingsOf around env files with
      | (.error fault, files) => .failed files fault
      | (.ok settings, files) =>
          match command with
          | .compile file out => runCompile around files settings file out
          | command => runService around env stamp files settings command

end Command

end VideoSurvey
