import VideoSurvey.Json.Basic
import VideoSurvey.Decimal.Shortest

/-!
# Writing JSON

Two written forms of a value: `compact` without any blanks, and `pretty` with one item to a line
and two spaces to a level. Members are written in the order in which the object holds them. A
number of 64 bits is written with its shortest digits, positionally when its first digit stands
between the fifth place after the point and the sixteenth place before it, and then never without
a point.
-/

set_option autoImplicit false

namespace VideoSurvey.Json

/-! ## Strings -/

/-- Four hexadecimal digits. -/
def hex4 (n : Nat) : List Char :=
  [n / 4096 % 16, n / 256 % 16, n / 16 % 16, n % 16].map Nat.digitChar

/-- One character of a string. -/
def escapeChar (c : Char) : List Char :=
  if c = '"' then ['\\', '"']
  else if c = '\\' then ['\\', '\\']
  else if c = '\x08' then ['\\', 'b']
  else if c = '\x0c' then ['\\', 'f']
  else if c = '\n' then ['\\', 'n']
  else if c = '\r' then ['\\', 'r']
  else if c = '\t' then ['\\', 't']
  else if c.toNat < 0x20 then '\\' :: 'u' :: hex4 c.toNat
  else [c]

/-- A string between its quotes. -/
def quoteString (s : String) : List Char := '"' :: s.toList.flatMap escapeChar ++ ['"']

/-! ## Numbers -/

/-- Decimal digits of a natural number. -/
def natDigits (n : Nat) : List Char := Nat.toDigits 10 n

/-- Decimal digits of an integer, with a sign when it is negative. -/
def intDigits (n : Int) : List Char :=
  if n < 0 then '-' :: natDigits n.natAbs else natDigits n.natAbs

/-- How the numbers of 64 bits are laid out. -/
structure RealLayout where
  /-- The least decimal order written positionally. -/
  leastPositional : Int
  /-- The greatest decimal order written positionally. -/
  greatestPositional : Int
  /-- The mark before an exponent. -/
  exponentMark : Char
  /-- The sign of a positive exponent. -/
  positiveSign : List Char

/-- Numbers from `0.00001` up to below `10^16` have no exponent; larger ones have a signed one. -/
def realLayout : RealLayout := ⟨-5, 15, 'e', ['+']⟩

/-- A decimal without an exponent; `order` is the place of its first digit. -/
def positional (digits : List Char) (order : Int) : List Char :=
  if order < 0 then '0' :: '.' :: List.replicate (order.natAbs - 1) '0' ++ digits
  else
    let places := order.toNat + 1
    let whole := digits.take places ++ List.replicate (places - digits.length) '0'
    let fraction := digits.drop places
    whole ++ '.' :: (if fraction.isEmpty then ['0'] else fraction)

/-- A decimal with one digit before the point and an exponent. -/
def scientific (layout : RealLayout) (digits : List Char) (order : Int) : List Char :=
  let mantissa :=
    match digits with
    | [] => ['0']
    | [d] => [d]
    | d :: r => d :: '.' :: r
  let sign := if order < 0 then ['-'] else layout.positiveSign
  mantissa ++ layout.exponentMark :: sign ++ natDigits order.natAbs

/-- The written form of a number of 64 bits. -/
def realText (x : Decimal.Binary64) : List Char :=
  let decimal := Decimal.shortest x.magnitude
  let digits := natDigits decimal.digits
  let order := decimal.exponent + (digits.length : Int) - 1
  let body :=
    if realLayout.leastPositional ≤ order && order ≤ realLayout.greatestPositional then
      positional digits order
    else scientific realLayout digits order
  if x.isNegative then '-' :: body else body

/-- The written form of a number. -/
def numberText : Decimal.Number → List Char
  | .integer n => intDigits n
  | .binary x => realText x

/-! ## Values -/

/-- The literals `true` and `false`. -/
def boolText (b : Bool) : List Char := if b then "true".toList else "false".toList

mutual

/-- A value without blanks. -/
def compact : Json → List Char
  | .null => "null".toList
  | .bool b => boolText b
  | .num n => numberText n
  | .str s => quoteString s
  | .arr [] => ['[', ']']
  | .arr (v :: r) => '[' :: compact v ++ compactItems r
  | .obj [] => ['\x7b', '\x7d']
  | .obj ((k, v) :: r) => '\x7b' :: quoteString k ++ ':' :: compact v ++ compactMembers r

/-- The items after the first, and the closing bracket. -/
def compactItems : List Json → List Char
  | [] => [']']
  | v :: r => ',' :: compact v ++ compactItems r

/-- The members after the first, and the closing bracket. -/
def compactMembers : List (String × Json) → List Char
  | [] => ['\x7d']
  | (k, v) :: r => ',' :: quoteString k ++ ':' :: compact v ++ compactMembers r

end

/-- A new line at a level of nesting. -/
def newLine (level : Nat) : List Char := '\n' :: List.replicate (2 * level) ' '

mutual

/-- A value with one item to a line; `level` counts the brackets around it. -/
def prettyAt (level : Nat) : Json → List Char
  | .null => "null".toList
  | .bool b => boolText b
  | .num n => numberText n
  | .str s => quoteString s
  | .arr [] => ['[', ']']
  | .arr (v :: r) =>
      '[' :: newLine (level + 1) ++ prettyAt (level + 1) v ++ prettyItems level r
  | .obj [] => ['\x7b', '\x7d']
  | .obj ((k, v) :: r) =>
      '\x7b' :: newLine (level + 1) ++ quoteString k ++ ':' :: ' ' :: prettyAt (level + 1) v ++
        prettyMembers level r

/-- The items after the first, and the closing bracket. -/
def prettyItems (level : Nat) : List Json → List Char
  | [] => newLine level ++ [']']
  | v :: r => ',' :: newLine (level + 1) ++ prettyAt (level + 1) v ++ prettyItems level r

/-- The members after the first, and the closing bracket. -/
def prettyMembers (level : Nat) : List (String × Json) → List Char
  | [] => newLine level ++ ['\x7d']
  | (k, v) :: r =>
      ',' :: newLine (level + 1) ++ quoteString k ++ ':' :: ' ' :: prettyAt (level + 1) v ++
        prettyMembers level r

end

/-- The value on one line. -/
def compactText (value : Json) : String := String.ofList (compact value)

/-- The value over several lines. -/
def prettyText (value : Json) : String := String.ofList (prettyAt 0 value)

end VideoSurvey.Json
