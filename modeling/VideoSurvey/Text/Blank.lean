/-!
# Blank characters

The characters of the Unicode property `White_Space`, and the three readings of a text that
depend on them: whether it is blank, the text without its blank ends, and its words.
-/

set_option autoImplicit false

namespace VideoSurvey.Text

/-- The code points of `White_Space`, as inclusive ranges in increasing order. -/
def blankRanges : List (Nat × Nat) :=
  [(0x09, 0x0D), (0x20, 0x20), (0x85, 0x85), (0xA0, 0xA0), (0x1680, 0x1680), (0x2000, 0x200A),
   (0x2028, 0x2029), (0x202F, 0x202F), (0x205F, 0x205F), (0x3000, 0x3000)]

/-- Membership in `White_Space`. -/
def isBlankChar (c : Char) : Bool :=
  blankRanges.any fun range => range.1 ≤ c.toNat && c.toNat ≤ range.2

/-- A text of blank characters only; the empty text is one. -/
def isBlank (s : String) : Bool := s.toList.all isBlankChar

/-- The text without the blank characters at its two ends. -/
def trim (s : List Char) : List Char :=
  ((s.dropWhile isBlankChar).reverse.dropWhile isBlankChar).reverse

/-- `trim` on strings. -/
def trimmed (s : String) : String := String.ofList (trim s.toList)

/-- The maximal runs of characters that are not blank, in order. -/
def words : List Char → List (List Char)
  | [] => []
  | c :: r =>
      if isBlankChar c then words r
      else if r.head?.all isBlankChar then [c] :: words r
      else (words r).modifyHead (c :: ·)

end VideoSurvey.Text
