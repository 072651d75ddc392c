import VideoSurvey.Command.Variables
import VideoSurvey.Text.Blank
import VideoSurvey.Text.Stretches

/-!
# Assignments

A file of assignments sets variables. Each assignment is a name, an equals sign and a value; it
takes one line, or more when a quote or a backslash holds its line break. Blank lines and lines
that begin with a number sign say nothing, and neither does what stands behind a blank and a
number sign. Single quotes keep everything between them; outside of them a backslash takes the
character behind it as it is, and a dollar sign stands for the value of a variable set before.

Reading stops at the first line that is not text or no assignment, or when the last line leaves
something open. The assignments before count.
-/

set_option autoImplicit false

namespace VideoSurvey.Variables

open Text (isBlankChar)

/-! ## Lines -/

/-- What is open at a place of a line. -/
inductive Opened where
  | nothing
  | blank
  | backslash
  | single
  | singleBackslash
  | double
  | doubleBackslash
deriving DecidableEq, Repr

/-- What is open behind a character that begins no comment. -/
def Opened.behind (opened : Opened) (c : Char) : Opened :=
  let outside : Opened :=
    if c = '\\' then .backslash else if c = '"' then .double else if c = '\'' then .single
    else .nothing
  match opened with
  | .nothing => if isBlankChar c && c ≠ '\n' && c ≠ '\r' then .blank else outside
  | .blank => outside
  | .backslash => .nothing
  | .single => if c = '\\' then .singleBackslash else if c = '\'' then .nothing else .single
  | .singleBackslash => .single
  | .double => if c = '\\' then .doubleBackslash else if c = '"' then .nothing else .double
  | .doubleBackslash => .double

/-- A line with what is open at its end, or the part of it before a comment. -/
def upToComment : Opened → List Char → List Char × Option Opened
  | opened, [] => ([], some opened)
  | opened, c :: r =>
      if opened = .blank && c = '#' then ([], none)
      else
        let (before, atEnd) := upToComment (opened.behind c) r
        (c :: before, atEnd)

/-- Lines that begin with a number sign. -/
def isComment (line : List Char) : Bool := (line.dropWhile isBlankChar).head? = some '#'

/-! ## Values -/

/-- What a character of a value is read as. -/
inductive ValueMode where
  | plain
  | escaped
  | single
  | reference (name : List Char)
  | braced (name : List Char)
  | behind
deriving DecidableEq, Repr

/-- The value of a variable whose name is given in reverse, in reverse. -/
def referred (known : Variables) (name : List Char) : List Char :=
  ((known.value? (String.ofList name.reverse)).getD "").toList.reverse

/-- What a character behind a backslash stands for. -/
def escapedChar? (c : Char) : Option Char :=
  if c = 'n' then some '\n'
  else if ['\\', '\'', '"', '$', ' '].contains c then some c
  else none

/-- The value that a text writes. `inDouble` holds between double quotes, and `read` is the value
so far in reverse. -/
def readValue (known : Variables) : ValueMode → Bool → List Char → List Char → Option (List Char)
  | .single, _, _, [] => none
  | .braced _, _, _, [] => none
  | .reference name, inDouble, read, [] =>
      if inDouble then none else some (referred known name ++ read).reverse
  | _, inDouble, read, [] => if inDouble then none else some read.reverse
  | .behind, inDouble, read, c :: r =>
      if c = ' ' || c = '\t' then readValue known .behind inDouble read r
      else if c = '#' then some read.reverse
      else none
  | .escaped, inDouble, read, c :: r =>
      match escapedChar? c with
      | some c => readValue known .plain inDouble (c :: read) r
      | none => none
  | .single, inDouble, read, c :: r =>
      if c = '\'' then readValue known .plain inDouble read r
      else readValue known .single inDouble (c :: read) r
  | .reference name, inDouble, read, c :: r =>
      if c.isAlphanum then readValue known (.reference (c :: name)) inDouble read r
      else if c = '\x7b' && name.isEmpty then readValue known (.braced []) inDouble read r
      else
        let read := referred known name ++ read
        if c = '$' then readValue known (.reference []) inDouble read r
        else readValue known .plain inDouble (c :: read) r
  | .braced name, inDouble, read, c :: r =>
      if c = '\x7d' then readValue known .plain inDouble (referred known name ++ read) r
      else readValue known (.braced (c :: name)) inDouble read r
  | .plain, inDouble, read, c :: r =>
      if c = '$' then readValue known (.reference []) inDouble read r
      else if c = '"' then readValue known .plain (!inDouble) read r
      else if c = '\\' then readValue known .escaped inDouble read r
      else if inDouble then readValue known .plain inDouble (c :: read) r
      else if c = '\'' then readValue known .single inDouble read r
      else if c = ' ' || c = '\t' then readValue known .behind inDouble read r
      else readValue known .plain inDouble (c :: read) r

/-! ## Assignments -/

/-- What a line says. -/
inductive Statement where
  | nothing
  | assign (name value : String)
deriving DecidableEq, Repr

/-- Characters of a name. -/
def isNameChar (c : Char) : Bool := c.isAlphanum || c = '_' || c = '.'

/-- The name at the beginning of a text, and the text behind it and its blanks. -/
def name? (s : List Char) : Option (List Char × List Char) :=
  match s with
  | [] => none
  | c :: _ =>
      if c.isAlpha || c = '_' then
        some (s.takeWhile isNameChar, (s.dropWhile isNameChar).dropWhile isBlankChar)
      else none

/-- The name that is assigned to, and the text behind the equals sign. The word `export` may stand
before the name. -/
def assigned? (s : List Char) : Option (List Char × List Char) := do
  let (name, r) ← name? s
  match r with
  | '=' :: r => some (name, r)
  | r =>
      if name ≠ "export".toList then none
      else
        let (name, r) ← name? r
        match r with
        | '=' :: r => some (name, r)
        | _ => none

/-- What a line says, or `none` when it is no assignment. -/
def statement? (known : Variables) (line : List Char) : Option Statement :=
  let line := Text.trim line
  if line.isEmpty || isComment line then some .nothing
  else do
    let (name, r) ← assigned? line
    let r := r.dropWhile isBlankChar
    let value ← if r.isEmpty || isComment r then some [] else readValue known .plain false [] r
    some (.assign (String.ofList name) (String.ofList value))

/-- A line without its line break. -/
def withoutBreak (line : List Char) : List Char :=
  match line.reverse with
  | '\n' :: '\r' :: r => r.reverse
  | '\n' :: r => r.reverse
  | _ => line

/-- The variables that lines assign. Each line still has its line break, and one that is not text
is `none`; `begun` are the lines that an open one began with. -/
def ofLines (known : Variables) (opened : Opened) (begun : List Char) :
    List (Option (List Char)) → Variables
  | [] => []
  | none :: _ => []
  | some line :: r =>
      if isComment (begun ++ line) then ofLines known .nothing [] r
      else
        let (before, atEnd) := upToComment opened line
        if atEnd.any (· ≠ .nothing) then ofLines known (atEnd.getD .nothing) (begun ++ line) r
        else
          match statement? known (withoutBreak (begun ++ before)) with
          | none => []
          | some .nothing => ofLines known .nothing [] r
          | some (.assign name value) =>
              (name, value) ::
                ofLines (known.withFallback [(name, value)]) .nothing [] r

/-! ## Files -/

/-- The byte of a line break. -/
def breakByte : UInt8 := 0x0A

/-- The lines of a file, with their line breaks. -/
def byteLines : List UInt8 → List (List UInt8)
  | [] => []
  | b :: r =>
      if b = breakByte then [b] :: byteLines r
      else
        match byteLines r with
        | [] => [[b]]
        | line :: others => (b :: line) :: others

/-- The text of a line, if it is one. -/
def lineText? (line : List UInt8) : Option (List Char) :=
  (String.fromUTF8? ⟨line.toArray⟩).map String.toList

/-- The bytes behind a mark of the byte order. -/
def withoutMark : List UInt8 → List UInt8
  | 0xEF :: 0xBB :: 0xBF :: r => r
  | s => s

/-- The variables that a file assigns, when some are known before. -/
def ofFile (known : Variables) (content : ByteArray) : Variables :=
  ofLines known .nothing [] ((byteLines (withoutMark content.toList)).map lineText?)

end VideoSurvey.Variables
