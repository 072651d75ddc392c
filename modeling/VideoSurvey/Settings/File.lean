import VideoSurvey.Files.Tree
import VideoSurvey.Settings.Basic
import VideoSurvey.Text.Blank

/-!
# The settings file

Settings are kept in a file. Loading a file that is missing or blank writes the default settings
there and gives them; any other file is read and left alone. Saving makes the directories above the
file that are missing.
-/

set_option autoImplicit false

namespace VideoSurvey.Settings

open Files (FileFault Path Tree)

/-- Why settings cannot be loaded or saved. -/
inductive SettingsFault where
  | file (path : String) (fault : FileFault)
  | json (error : Json.ReadError)
deriving Repr

/-- Wording of a fault. -/
def SettingsFault.message : SettingsFault → String
  | .file path fault => "unable to access " ++ path ++ ": " ++ fault.message
  | .json error => "invalid generator settings JSON: " ++ error.message

/-- The tree with the settings in a file. The directories stay that were made before a fault. -/
def save (tree : Tree) (path : Path) (s : Settings) : Except SettingsFault Unit × Tree :=
  match tree.createDirectories (path.parent?.getD "") with
  | (.error fault, tree) => (.error (.file path.text fault), tree)
  | (.ok (), tree) =>
      match tree.write path s.text.toUTF8 with
      | .error fault => (.error (.file path.text fault), tree)
      | .ok tree => (.ok (), tree)

/-- Saves the default settings and gives them. -/
def saveStandard (tree : Tree) (path : Path) : Except SettingsFault Settings × Tree :=
  let (result, tree) := save tree path standard
  (result.map fun _ => standard, tree)

/-- The settings in a file. -/
def load (tree : Tree) (path : Path) : Except SettingsFault Settings × Tree :=
  if !tree.contains path then saveStandard tree path
  else
    match tree.readText path with
    | .error fault => (.error (.file path.text fault), tree)
    | .ok raw =>
        if Text.isBlank raw then saveStandard tree path
        else
          match Settings.ofText raw with
          | .ok s => (.ok s, tree)
          | .error error => (.error (.json error), tree)

end VideoSurvey.Settings
