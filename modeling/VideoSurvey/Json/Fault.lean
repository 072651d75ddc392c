import VideoSurvey.Json.Printer
import VideoSurvey.Text.Quoted

/-!
# What can be wrong with a JSON text

Two kinds of fault. A `TextFault` is a text that is no JSON. A `Mismatch` is a value that does not
have the shape asked for: another kind of value, a number outside its range, a list of the wrong
length, an unknown name, a missing or a repeated field. A `ReadError` is a fault with its place in
the text.
-/

set_option autoImplicit false

namespace VideoSurvey.Json

/-- A text that is no JSON. -/
inductive TextFault where
  | unfinishedValue
  | unfinishedList
  | unfinishedObject
  | unfinishedString
  | valueExpected
  | literalExpected
  | colonExpected
  | listCommaExpected
  | objectCommaExpected
  | trailingComma
  | trailingCharacters
  | keyExpected
  | badEscape
  | badNumber
  | numberTooLarge
  | controlCharacter
  | loneSurrogate
  | unfinishedEscape
  | tooDeep
deriving DecidableEq, Repr

/-- The shape that a reader asks for. -/
inductive Shape where
  | text
  | list
  | table
  | number
  | signed64
  | unsigned64
  | unsigned32
  | count64
  | nothing
  | record (name : String)
  | tagged (name : String)
  | choiceName
  | choice
deriving DecidableEq, Repr

/-- The length that a list was expected to have. -/
inductive Quota where
  | record (name : String) (fields : Nat)
  | variant (name : String) (fields : Nat)
  | read (items : Nat)
  | fewer
deriving DecidableEq, Repr

/-- A value of the wrong shape. -/
inductive Mismatch where
  | kind (found : Json) (wanted : Shape)
  | range (found : Int) (wanted : Shape)
  | length (found : Nat) (wanted : Quota)
  | variant (found : String) (known : List String)
  | missing (field : String)
  | duplicate (field : String)
  | severalKeys
deriving Repr

/-- A place in a text: the line, counted from one, and the number of bytes before it there. -/
structure Position where
  line : Nat
  column : Nat
deriving DecidableEq, Repr

/-- A fault and where it was noticed. -/
structure ReadError where
  fault : TextFault ⊕ Mismatch
  position : Position
deriving Repr

/-! ## Wording -/

/-- Wording of a fault in the text. -/
def TextFault.message : TextFault → String
  | .unfinishedValue => "EOF while parsing a value"
  | .unfinishedList => "EOF while parsing a list"
  | .unfinishedObject => "EOF while parsing an object"
  | .unfinishedString => "EOF while parsing a string"
  | .valueExpected => "expected value"
  | .literalExpected => "expected ident"
  | .colonExpected => "expected `:`"
  | .listCommaExpected => "expected `,` or `]`"
  | .objectCommaExpected => "expected `,` or `\x7d`"
  | .trailingComma => "trailing comma"
  | .trailingCharacters => "trailing characters"
  | .keyExpected => "key must be a string"
  | .badEscape => "invalid escape"
  | .badNumber => "invalid number"
  | .numberTooLarge => "number out of range"
  | .controlCharacter => "control character (\\u0000-\\u001F) found while parsing a string"
  | .loneSurrogate => "lone leading surrogate in hex escape"
  | .unfinishedEscape => "unexpected end of hex escape"
  | .tooDeep => "recursion limit exceeded"

/-- Wording of a shape. -/
def Shape.phrase : Shape → String
  | .text => "a string"
  | .list => "a sequence"
  | .table => "a map"
  | .number => "a JSON number"
  | .signed64 => "i64"
  | .unsigned64 => "u64"
  | .unsigned32 => "u32"
  | .count64 => "usize"
  | .nothing => "unit"
  | .record name => "struct " ++ name
  | .tagged name => "internally tagged enum " ++ name
  | .choiceName => "variant identifier"
  | .choice => "string or map"

/-- A number of elements. -/
def elements (n : Nat) : String :=
  String.ofList (natDigits n) ++ if n = 1 then " element" else " elements"

/-- Wording of an expected length. -/
def Quota.phrase : Quota → String
  | .record name fields => "struct " ++ name ++ " with " ++ elements fields
  | .variant name fields => "struct variant " ++ name ++ " with " ++ elements fields
  | .read items => elements items ++ " in sequence"
  | .fewer => "fewer elements in array"

/-- A name or number between grave accents. -/
def marked (s : String) : String := "`" ++ s ++ "`"

/-- Wording of a found value. -/
def foundPhrase : Json → String
  | .null => "null"
  | .bool b => "boolean " ++ marked (String.ofList (boolText b))
  | .num (.integer n) => "integer " ++ marked (String.ofList (intDigits n))
  | .num (.binary x) => "floating point " ++ marked (String.ofList (realText x))
  | .str s => "string " ++ Text.Quoted.quoted s
  | .arr _ => "sequence"
  | .obj _ => "map"

/-- Wording of the names to choose from. -/
def knownPhrase : List String → String
  | [] => "there are no variants"
  | [a] => "expected " ++ marked a
  | [a, b] => "expected " ++ marked a ++ " or " ++ marked b
  | names => "expected one of " ++ ", ".intercalate (names.map marked)

/-- Wording of a mismatch. -/
def Mismatch.message : Mismatch → String
  | .kind found wanted => "invalid type: " ++ foundPhrase found ++ ", expected " ++ wanted.phrase
  | .range found wanted =>
      "invalid value: integer " ++ marked (String.ofList (intDigits found)) ++ ", expected " ++
        wanted.phrase
  | .length found wanted =>
      "invalid length " ++ String.ofList (natDigits found) ++ ", expected " ++ wanted.phrase
  | .variant found known =>
      "unknown variant " ++ marked found ++ ", " ++ knownPhrase known
  | .missing field => "missing field " ++ marked field
  | .duplicate field => "duplicate field " ++ marked field
  | .severalKeys => "invalid value: map, expected map with a single key"

/-- Wording of a fault with its place. -/
def ReadError.message (e : ReadError) : String :=
  let text := match e.fault with
    | .inl fault => fault.message
    | .inr mismatch => mismatch.message
  text ++ " at line " ++ String.ofList (natDigits e.position.line) ++ " column " ++
    String.ofList (natDigits e.position.column)

end VideoSurvey.Json
