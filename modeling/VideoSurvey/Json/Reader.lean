import VideoSurvey.Json.Skip

/-!
# Reading JSON

`Json.read` is the value written in a text. Brackets may be nested 127 deep. An object that is
read holds its members in increasing order of keys; of members with one key the last counts.

The loops over items and members take the reader of one item, so the same loops serve every kind
of value. Each item takes at least one character of the text.
-/

set_option autoImplicit false

namespace VideoSurvey.Json

/-- The depth to which brackets may be nested. -/
def greatestDepth : Nat := 127

/-- The items of a list up to its closing bracket. -/
def itemsLoop {α : Type} (item : Reader α) : Nat → Bool → List α → Reader (List α)
  | 0, _, _, c => .error (.settled (c.peekFault .unfinishedList))
  | fuel + 1, isFirst, read, c => do
      let (more, c) ← (moreItems isFirst).reader c
      if more then
        let (a, c) ← item c
        itemsLoop item fuel false (a :: read) c
      else .ok (read.reverse, c)

/-- The items of a list, from behind its opening bracket to before its closing bracket. -/
def items {α : Type} (item : Reader α) : Reader (List α) := fun c =>
  itemsLoop item (c.rest.length + 1) true [] c

/-- The members of an object up to its closing bracket. -/
def membersLoop {α : Type} (item : Reader α) :
    Nat → Bool → List (String × α) → Reader (List (String × α))
  | 0, _, _, c => .error (.settled (c.peekFault .unfinishedObject))
  | fuel + 1, isFirst, read, c => do
      let (more, c) ← (moreMembers isFirst).reader c
      if more then
        let (key, c) ← string.reader c
        let (_, c) ← colon.reader c
        let (a, c) ← item c
        membersLoop item fuel false ((key, a) :: read) c
      else .ok (read.reverse, c)

/-- The members of an object as they are written, from behind its opening bracket to before its
closing bracket. -/
def members {α : Type} (item : Reader α) : Reader (List (String × α)) := fun c =>
  membersLoop item (c.rest.length + 1) true [] c

/-- What stands in brackets, when there is room for another level of nesting. -/
def nested {α : Type} (room : Nat) (body : Nat → Reader α) : Reader α := fun c =>
  match room with
  | 0 => .error (.settled (c.peekFault .tooDeep))
  | room + 1 => body room c.next

/-- A value; `room` is the depth of brackets still allowed. -/
def value : Nat → Reader Json
  | room, c =>
      let c := c.skipSpace
      match c.rest, room with
      | '[' :: _, 0 => .error (.settled (c.peekFault .tooDeep))
      | '\x7b' :: _, 0 => .error (.settled (c.peekFault .tooDeep))
      | '[' :: _, room + 1 => do
          let (found, c) ← enclosed closeList (items (value room)) c.next
          .ok (.arr found, c)
      | '\x7b' :: _, room + 1 => do
          let (found, c) ← enclosed closeObject (members (value room)) c.next
          .ok (.obj (Members.sorted found), c)
      | _, _ => scalar.reader c

/-- Reads a whole text: one item, and nothing but blanks behind it. -/
def readWhole {α : Type} (item : Reader α) (text : String) : Except ReadError α :=
  match item (Cursor.ofText text) with
  | .error h => .error h.settle
  | .ok (a, c) =>
      let c := c.skipSpace
      if c.rest.isEmpty then .ok a else .error (c.peekFault .trailingCharacters)

/-- The value written in a text. -/
def read (text : String) : Except ReadError Json := readWhole (value greatestDepth) text

end VideoSurvey.Json
