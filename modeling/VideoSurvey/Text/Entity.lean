/-!
# Character entities

Text inside markup: the six characters `& < > " ' /` are written as entities and every other
character as itself. `unescape` undoes the six entities, reading from the left; text that was
escaped comes back unchanged (`unescape_escape`).
-/

set_option autoImplicit false

namespace VideoSurvey.Text.Entity

/-- The written form of one character. -/
def escapeChar : Char → List Char
  | '&' => "&amp;".toList
  | '<' => "&lt;".toList
  | '>' => "&gt;".toList
  | '"' => "&quot;".toList
  | '\'' => "&#x27;".toList
  | '/' => "&#x2F;".toList
  | c => [c]

/-- The written form of a text. -/
def escape (s : List Char) : List Char := s.flatMap escapeChar

/-- The text behind a written form; an ampersand that begins none of the six entities stands for
itself. -/
def unescape : List Char → List Char
  | '&' :: 'a' :: 'm' :: 'p' :: ';' :: r => '&' :: unescape r
  | '&' :: 'l' :: 't' :: ';' :: r => '<' :: unescape r
  | '&' :: 'g' :: 't' :: ';' :: r => '>' :: unescape r
  | '&' :: 'q' :: 'u' :: 'o' :: 't' :: ';' :: r => '"' :: unescape r
  | '&' :: '#' :: 'x' :: '2' :: '7' :: ';' :: r => '\'' :: unescape r
  | '&' :: '#' :: 'x' :: '2' :: 'F' :: ';' :: r => '/' :: unescape r
  | c :: r => c :: unescape r
  | [] => []

/-- One escaped character reads back in front of any text. -/
theorem unescape_escapeChar_append (c : Char) (r : List Char) :
    unescape (escapeChar c ++ r) = c :: unescape r := by
  unfold escapeChar
  split
  all_goals try rfl
  rename_i h1 h2 h3 h4 h5 h6
  rw [List.singleton_append, unescape]
  all_goals intros
  all_goals simp_all

/-- **Escaped text reads back.** -/
theorem unescape_escape (s : List Char) : unescape (escape s) = s := by
  induction s with
  | nil => rfl
  | cons c r ih =>
      show unescape (escapeChar c ++ escape r) = c :: r
      rw [unescape_escapeChar_append, ih]

end VideoSurvey.Text.Entity
