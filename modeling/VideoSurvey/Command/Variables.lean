/-!
# Variables

A variable is a name with a value. Of several variables with one name the first counts, so what is
added behind others completes them.
-/

set_option autoImplicit false

namespace VideoSurvey

/-- Variables in the order in which they are looked through. -/
abbrev Variables := List (String × String)

namespace Variables

/-- The value of a variable. -/
def value? (known : Variables) (name : String) : Option String := List.lookup name known

/-- The variables of both, those of the first hiding those of the second. -/
def withFallback (first second : Variables) : Variables := first ++ second

end Variables

end VideoSurvey
