import VideoSurvey.Text.Blank

/-!
# Font families

Two readings of a `font-family` value. `primaryFamily` is the family to preload: the first entry
of the list, without the quotes around it and with single spaces between its words. `stack` is the
value for the stylesheet: a bare name is quoted and given a generic fallback, a quoted name is
given the fallback, and a list is used as written.
-/

set_option autoImplicit false

namespace VideoSurvey.Text.Font

/-- A quotation mark around a family name. -/
def isQuote (c : Char) : Bool := c = '"' || c = '\''

/-- The name between a leading and a trailing quotation mark. A single mark, or a name with a line
break in it, is left as it is. -/
def unquote (name : List Char) : List Char :=
  match name with
  | [] => []
  | first :: r =>
      match r.getLast? with
      | none => name
      | some last =>
          if isQuote first && isQuote last && !r.dropLast.contains '\n' then r.dropLast else name

/-- The first family of a `font-family` value, unquoted, with its words one space apart. -/
def primaryFamily (value : List Char) : List Char :=
  [' '].intercalate (Text.words (unquote (Text.trim (value.takeWhile (· != ',')))))

/-- The fallback after a single family. -/
def genericFallback : List Char := ", sans-serif".toList

/-- The `font-family` value of a theme font. -/
def stack (value : List Char) : List Char :=
  let value := Text.trim value
  if value.contains ',' then value
  else if value.any isQuote then value ++ genericFallback
  else '\'' :: value ++ '\'' :: genericFallback

/-- `primaryFamily` on strings. -/
def primary (value : String) : String := String.ofList (primaryFamily value.toList)

/-- `stack` on strings. -/
def stacked (value : String) : String := String.ofList (stack value.toList)

end VideoSurvey.Text.Font
