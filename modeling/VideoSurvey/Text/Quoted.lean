import VideoSurvey.Text.Printable

/-!
# Quoted text in messages

A message that quotes a text puts it between double quotes and keeps it on one visible line: the
quote and the backslash get a backslash, the common controls have letters, and every other
character without a visible form is written by its code point.
-/

set_option autoImplicit false

namespace VideoSurvey.Text.Quoted

/-- A code point in lower-case hexadecimal, without leading zeros. -/
def hexDigits (n : Nat) : List Char := Nat.toDigits 16 n

/-- The written form of one character between the quotes. -/
def quoteChar (c : Char) : List Char :=
  if c = '\x00' then ['\\', '0']
  else if c = '\t' then ['\\', 't']
  else if c = '\n' then ['\\', 'n']
  else if c = '\r' then ['\\', 'r']
  else if c = '"' || c = '\\' then ['\\', c]
  else if isPrintable c then [c]
  else '\\' :: 'u' :: '\x7b' :: hexDigits c.toNat ++ ['\x7d']

/-- A text between double quotes. -/
def quote (s : List Char) : List Char := '"' :: s.flatMap quoteChar ++ ['"']

/-- `quote` on strings. -/
def quoted (s : String) : String := String.ofList (quote s.toList)

end VideoSurvey.Text.Quoted
