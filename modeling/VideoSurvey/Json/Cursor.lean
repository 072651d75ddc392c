import VideoSurvey.Json.Fault

/-!
# Reading heads

A cursor is the unread part of a text together with its place. A reader takes a cursor to a value
and the cursor behind it. Columns count bytes of the text's UTF-8 form, so a fault noticed inside
a long character has a column between two characters.

A reader stops in one of two ways. A `settled` fault has its place. A `pending` mismatch has none
yet: the bracket around it gives it one, after it has looked for its own end (`enclosed`).
-/

set_option autoImplicit false

namespace VideoSurvey.Json

namespace Position

/-- The beginning of a text. -/
def start : Position := ⟨1, 0⟩

/-- The place behind a character. -/
def after (p : Position) (c : Char) : Position :=
  if c = '\n' then ⟨p.line + 1, 0⟩ else ⟨p.line, p.column + c.utf8Size⟩

/-- The place behind several characters. -/
def afterAll (p : Position) (s : List Char) : Position := s.foldl after p

@[simp] theorem afterAll_nil (p : Position) : p.afterAll [] = p := rfl

@[simp] theorem afterAll_cons (p : Position) (c : Char) (s : List Char) :
    p.afterAll (c :: s) = (p.after c).afterAll s := rfl

theorem afterAll_append (p : Position) (s t : List Char) :
    p.afterAll (s ++ t) = (p.afterAll s).afterAll t := List.foldl_append

end Position

/-- The unread part of a text and its place. -/
structure Cursor where
  rest : List Char
  position : Position
deriving Repr

namespace Cursor

/-- A text to be read from its beginning. -/
def ofText (s : String) : Cursor := ⟨s.toList, Position.start⟩

/-- The place one byte further on, or the end of the text. -/
def peekPosition (c : Cursor) : Position :=
  match c.rest with
  | [] => c.position
  | '\n' :: _ => ⟨c.position.line + 1, 0⟩
  | _ :: _ => ⟨c.position.line, c.position.column + 1⟩

/-- The end of the text. -/
def endPosition (c : Cursor) : Position := c.position.afterAll c.rest

/-- The place `n` bytes further on, if the text is that long. -/
def placeAfter : Nat → List Char → Position → Option Position
  | 0, _, p => some p
  | _ + 1, [], _ => none
  | n + 1, c :: r, p =>
      if c.utf8Size ≤ n + 1 then placeAfter (n + 1 - c.utf8Size) r (p.after c)
      else some ⟨p.line, p.column + (n + 1)⟩

/-- A blank of the JSON grammar. -/
def isSpace (c : Char) : Bool := c = ' ' || c = '\n' || c = '\t' || c = '\r'

/-- The cursor behind the leading blanks. -/
def skipSpaces : List Char → Position → Cursor
  | [], p => ⟨[], p⟩
  | c :: r, p => if isSpace c then skipSpaces r (p.after c) else ⟨c :: r, p⟩

/-- The cursor behind the leading blanks. -/
def skipSpace (c : Cursor) : Cursor := skipSpaces c.rest c.position

/-- The cursor behind the first character. -/
def next (c : Cursor) : Cursor :=
  match c.rest with
  | [] => c
  | x :: r => ⟨r, c.position.after x⟩

/-- A fault at the cursor. -/
def fault (c : Cursor) (f : TextFault) : ReadError := ⟨.inl f, c.position⟩

/-- A fault one byte behind the cursor. -/
def peekFault (c : Cursor) (f : TextFault) : ReadError := ⟨.inl f, c.peekPosition⟩

end Cursor

/-- Why a reader stopped. -/
inductive Halt where
  | settled (error : ReadError)
  | pending (mismatch : Mismatch) (place : Cursor)
deriving Repr

/-- A step from a cursor to a value and the cursor behind it. -/
abbrev Reader (α : Type) := Cursor → Except Halt (α × Cursor)

/-- A step that cannot leave a mismatch pending. -/
abbrev Scanner (α : Type) := Cursor → Except ReadError (α × Cursor)

/-- A scanner as a reader. -/
def Scanner.reader {α : Type} (scan : Scanner α) : Reader α := fun c =>
  match scan c with
  | .ok found => .ok found
  | .error e => .error (.settled e)

/-- The fault of a halt; a mismatch that is still pending gets the place where it arose. -/
def Halt.settle : Halt → ReadError
  | .settled e => e
  | .pending m c => ⟨.inr m, c.position⟩

/-! ## Brackets -/

/-- The end of a list: the cursor where the search for it stops, and the fault if it is not
there. -/
def closeList (c : Cursor) : Cursor × Option ReadError :=
  let c := c.skipSpace
  match c.rest with
  | [] => (c, some (c.peekFault .unfinishedList))
  | ']' :: _ => (c.next, none)
  | ',' :: _ =>
      let c := c.next.skipSpace
      match c.rest with
      | ']' :: _ => (c, some (c.peekFault .trailingComma))
      | _ => (c, some (c.peekFault .trailingCharacters))
  | _ :: _ => (c, some (c.peekFault .trailingCharacters))

/-- The end of an object, as `closeList`. -/
def closeObject (c : Cursor) : Cursor × Option ReadError :=
  let c := c.skipSpace
  match c.rest with
  | [] => (c, some (c.peekFault .unfinishedObject))
  | '\x7d' :: _ => (c.next, none)
  | ',' :: _ => (c, some (c.peekFault .trailingComma))
  | _ :: _ => (c, some (c.peekFault .trailingCharacters))

/-- What stands in a bracket, and its end. A mismatch that is pending inside gets the place at
which the search for the end stops. -/
def enclosed {α : Type} (close : Cursor → Cursor × Option ReadError) (body : Reader α) :
    Reader α := fun c =>
  match body c with
  | .error (.settled e) => .error (.settled e)
  | .error (.pending m c') => .error (.settled ⟨.inr m, (close c').1.position⟩)
  | .ok (a, c') =>
      match close c' with
      | (_, some e) => .error (.settled e)
      | (c'', none) => .ok (a, c'')

/-- Whether another item stands in a list, and the cursor before it. `isFirst` holds before the
first item. -/
def moreItems (isFirst : Bool) : Scanner Bool := fun c =>
  let c := c.skipSpace
  match c.rest with
  | [] => .error (c.peekFault .unfinishedList)
  | ']' :: _ => .ok (false, c)
  | x :: _ =>
      if isFirst then .ok (true, c)
      else if x = ',' then
        let c := c.next.skipSpace
        match c.rest with
        | [] => .error (c.peekFault .unfinishedValue)
        | ']' :: _ => .error (c.peekFault .trailingComma)
        | _ :: _ => .ok (true, c)
      else .error (c.peekFault .listCommaExpected)

/-- Whether another member stands in an object, and the cursor before its key. -/
def moreMembers (isFirst : Bool) : Scanner Bool := fun c =>
  let c := c.skipSpace
  match c.rest with
  | [] => .error (c.peekFault .unfinishedObject)
  | '\x7d' :: _ => .ok (false, c)
  | x :: _ =>
      if isFirst then
        if x = '"' then .ok (true, c) else .error (c.peekFault .keyExpected)
      else if x = ',' then
        let c := c.next.skipSpace
        match c.rest with
        | [] => .error (c.peekFault .unfinishedValue)
        | '"' :: _ => .ok (true, c)
        | '\x7d' :: _ => .error (c.peekFault .trailingComma)
        | _ :: _ => .error (c.peekFault .keyExpected)
      else .error (c.peekFault .objectCommaExpected)

/-- The colon behind a key. -/
def colon : Scanner Unit := fun c =>
  let c := c.skipSpace
  match c.rest with
  | [] => .error (c.peekFault .unfinishedObject)
  | ':' :: _ => .ok ((), c.next)
  | _ :: _ => .error (c.peekFault .colonExpected)

end VideoSurvey.Json
