import VideoSurvey.Text.Stretches

/-!
# Paths

A path is a text of names with slashes between them. It is followed part by part from where it
starts: a dot stays where it is, two dots go back, and every other part goes one name further. A
path that begins with a slash starts at the root of all files, which nothing leads out of, and any
other path at the directory that it is taken from. `parent?` is the text of the path of the
directory that a path stands in.

Names are always counted from the root, so two paths lead to one place exactly when they lead to
the same names.
-/

set_option autoImplicit false

namespace VideoSurvey.Files

/-- The names of the directories and of the file that are gone through from the root. -/
abbrev Names := List String

/-- The parts of a text, between its slashes. -/
def parts (text : String) : List String :=
  (Text.stretches '/' text.toList).map String.ofList

/-- The parts of a text without the empty ones at its end. -/
def innerParts (text : String) : List String :=
  ((parts text).reverse.dropWhile String.isEmpty).reverse

/-- Whether a text begins with a slash. -/
def isAbsolute (text : String) : Bool := text.toList.head? = some '/'

/-- Whether a text ends with a slash. -/
def endsInSlash (text : String) : Bool := text.toList.getLast? = some '/'

/-- Follows one part. -/
def enter (here : Names) (part : String) : Names :=
  if part = "" || part = "." then here
  else if part = ".." then here.dropLast
  else here ++ [part]

/-- A path: its text, and the names of the directory that it is taken from. -/
structure Path where
  base : Names
  text : String
deriving DecidableEq, Repr

/-- A text alone is taken from the root. -/
instance : Coe String Path := ⟨fun text => ⟨[], text⟩⟩

/-- Where a path starts. -/
def Path.start (path : Path) : Names := if isAbsolute path.text then [] else path.base

/-- The names of a path, by its parts alone. -/
def Path.names (path : Path) : Names := (parts path.text).foldl enter path.start

/-- The names of a text that is taken from the root. -/
def names (text : String) : Names := Path.names text

/-- The longest name in bytes. -/
def longestName : Nat := 255

/-- The longest path in bytes. -/
def longestPath : Nat := 4095

/-- Drops the slashes, and the dots that stand alone behind a slash, at the end of a path that is
given in reverse. -/
def dropSlashes : List Char → List Char
  | [] => []
  | '/' :: r => dropSlashes r
  | '.' :: '/' :: r => dropSlashes ('/' :: r)
  | s => s

/-- The text of the path that a path stands in. There is none for the empty text and for the root of
all files. -/
def parent? (text : String) : Option String :=
  let body := dropSlashes text.toList.reverse
  if body.isEmpty then none
  else
    let above := body.dropWhile (· ≠ '/')
    let above' := dropSlashes above
    if above'.isEmpty && !above.isEmpty then some "/" else some (String.ofList above'.reverse)

/-- The path of the directory that a path stands in. -/
def Path.parent? (path : Path) : Option Path :=
  (Files.parent? path.text).map fun text => ⟨path.base, text⟩

end VideoSurvey.Files
