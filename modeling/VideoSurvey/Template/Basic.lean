/-!
# Templates

A template is text with places in it. A place emits a value of the context, chooses between two
parts by a value, or repeats a part for each item of a list. Values are named by paths: the name
of a variable and the keys below it. `source` writes a template in the notation that
`Template.parse` reads.
-/

set_option autoImplicit false

namespace VideoSurvey.Template

/-- A variable and the keys below it. -/
abbrev Path := List String

/-- What a place emits. -/
inductive Operand where
  | path (path : Path)
  | number (value : Int)
deriving DecidableEq, Repr

/-- What is done to an emitted value. -/
inductive Filter where
  | safe
  | length
deriving DecidableEq, Repr

/-- A part of a template. -/
inductive Node where
  | text (text : List Char)
  | emit (operand : Operand) (filters : List Filter)
  | choose (path : Path) (whenTrue whenFalse : List Node)
  | each (name : String) (path : Path) (body : List Node)
deriving Repr

/-- Lines of text, with a line break between any two. -/
def lines (text : List String) : List Char := ['\n'].intercalate (text.map String.toList)

/-! ## Notation -/

/-- A path with dots. -/
def pathText (path : Path) : List Char := ['.'].intercalate (path.map String.toList)

/-- An operand as it is written. -/
def operandText : Operand → List Char
  | .path path => pathText path
  | .number value => (toString value).toList

/-- A filter as it is written. -/
def filterText : Filter → List Char
  | .safe => " | safe".toList
  | .length => " | length".toList

/-- The characters around a place that emits. -/
def emission (inner : List Char) : List Char :=
  '\x7b' :: '\x7b' :: ' ' :: inner ++ [' ', '\x7d', '\x7d']

/-- The characters around a place that steers. -/
def directive (inner : List Char) : List Char :=
  '\x7b' :: '%' :: ' ' :: inner ++ [' ', '%', '\x7d']

mutual

/-- A part as it is written. -/
def nodeSource : Node → List Char
  | .text text => text
  | .emit operand filters => emission (operandText operand ++ filters.flatMap filterText)
  | .choose path whenTrue [] =>
      directive ("if ".toList ++ pathText path) ++ source whenTrue ++ directive "endif".toList
  | .choose path whenTrue (node :: whenFalse) =>
      directive ("if ".toList ++ pathText path) ++ source whenTrue ++
        directive "else".toList ++ nodeSource node ++ source whenFalse ++
        directive "endif".toList
  | .each name path body =>
      directive ("for ".toList ++ name.toList ++ " in ".toList ++ pathText path) ++
        source body ++ directive "endfor".toList

/-- A template as it is written. -/
def source : List Node → List Char
  | [] => []
  | node :: r => nodeSource node ++ source r

end

end VideoSurvey.Template
