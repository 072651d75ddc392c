import VideoSurvey.Files.Pattern
import VideoSurvey.Overlay.Stylesheet
import VideoSurvey.Settings.Basic
import VideoSurvey.Template.Parser

/-!
# Templates in a directory

The templates of a directory are the files below it whose names end in `.tera`, named by their
ways from the directory. The directory may be given by a pattern, and then they are named by their
ways from the place where the pattern begins. Settings that name a directory use its templates,
and all others the templates of the overlay itself.

How a directory of templates is read is up to a `Reader`. The reader `TemplateSet.reader` knows the
notation that the templates of the overlay are written in, and others may know more.
-/

set_option autoImplicit false

namespace VideoSurvey.TemplateSet

open Files (Names Path Tree)

/-- Reads the templates of a directory. -/
abbrev Reader := Tree → Path → Except TemplateFault Renderer

/-- The pattern of the template files below a directory. -/
def patternBelow (path : String) : String := path ++ "/**/*.tera"

/-- The name of the template under some names. Backslashes count as slashes. -/
def nameOf (names : Names) : String :=
  String.ofList (("/".intercalate names).toList.map fun c => if c = '\\' then '/' else c)

/-- The template in a file. -/
def ofFile (name : String) (content : ByteArray) : Except TemplateFault NamedTemplate :=
  match String.fromUTF8? content with
  | none => .error (.unreadable name)
  | some text =>
      match Template.parse text.toList with
      | none => .error (.malformed name)
      | some body => .ok ⟨name, body⟩

/-- The complete template set of a directory. -/
def ofDirectory (tree : Tree) (path : Path) : Except TemplateFault TemplateSet := do
  let files := tree.matching ⟨path.base, patternBelow path.text⟩
  let set ← files.mapM fun file => ofFile (nameOf file.1) file.2
  TemplateSet.complete set

/-- Reads the templates of a directory that are written as those of the overlay are. -/
def reader : Reader := fun tree path => (ofDirectory tree path).map render

/-- The templates that settings ask for. A directory is looked for from some names on. -/
def ofSettings (tree : Tree) (settings : Settings) (here : Names := []) (read : Reader := reader) :
    Except TemplateFault Renderer :=
  let builtIn := (TemplateSet.complete Overlay.Pages.templates).map render
  match settings.templateDir with
  | some path => if Text.isBlank path then builtIn else read tree ⟨here, path⟩
  | none => builtIn

end VideoSurvey.TemplateSet
