import VideoSurvey.Json.Token

/-!
# Passing over a value

A value that nobody asked for is passed over: its brackets are matched at any depth and its tokens
are checked for their form only, so a number may be of any size and a surrogate may stand alone.
The brackets that are open are kept on a stack.
-/

set_option autoImplicit false

namespace VideoSurvey.Json.Skip

/-- The rest of a string. -/
def stringRest : Nat → Scanner Unit
  | 0, c => .error (c.fault .unfinishedString)
  | fuel + 1, c =>
      match c.rest with
      | [] => .error (c.fault .unfinishedString)
      | '"' :: _ => .ok ((), c.next)
      | '\\' :: _ =>
          let c := c.next
          match c.rest with
          | [] => .error (c.fault .unfinishedString)
          | 'u' :: _ => do
              let (_, c) ← fourHex c.next
              stringRest fuel c
          | x :: _ =>
              if (letterEscape? x).isSome then stringRest fuel c.next
              else .error (c.peekFault .badEscape)
      | x :: _ =>
          if x.toNat < 0x20 then .error (c.fault .controlCharacter) else stringRest fuel c.next

/-- A string, from its opening quote on. -/
def string : Scanner Unit := fun c => stringRest (c.rest.length + 1) c.next

/-- A value without brackets. -/
def scalar : Scanner Unit := fun c =>
  match c.rest with
  | '"' :: _ => string c
  | x :: _ =>
      if x = '-' || x.isDigit then do
        let (_, c) ← numeral .badNumber c
        .ok ((), c)
      else do
        let (_, c) ← Json.scalar c
        .ok ((), c)
  | [] => .error (c.peekFault .unfinishedValue)

/-- An open bracket. -/
inductive Bracket where
  | list
  | object
deriving DecidableEq, Repr

/-- What may come next. -/
inductive Awaiting where
  | value
  | firstItem
  | separator
deriving DecidableEq, Repr

/-- The character that ends a bracket. -/
def Bracket.closing : Bracket → Char
  | .list => ']'
  | .object => '\x7d'

/-- The fault of a text that ends inside a bracket. -/
def Bracket.unfinished : Bracket → TextFault
  | .list => .unfinishedList
  | .object => .unfinishedObject

/-- The fault of an item that no comma follows. -/
def Bracket.commaExpected : Bracket → TextFault
  | .list => .listCommaExpected
  | .object => .objectCommaExpected

/-- The key and the colon of a member, or nothing in a list. -/
def beforeItem : Bracket → Scanner Unit
  | .list, c => .ok ((), c)
  | .object, c =>
      let c := c.skipSpace
      match c.rest with
      | [] => .error (c.peekFault .unfinishedObject)
      | '"' :: _ => do
          let (_, c) ← string c
          colon c
      | _ :: _ => .error (c.peekFault .keyExpected)

/-- One step of the walk: what comes next, the brackets then open, and the cursor. -/
def step (awaiting : Awaiting) (stack : List Bracket) :
    Scanner (Awaiting × List Bracket) := fun c =>
  let c := c.skipSpace
  match awaiting, stack with
  | .value, _ =>
      match c.rest with
      | '[' :: _ => .ok ((.firstItem, .list :: stack), c.next)
      | '\x7b' :: _ => .ok ((.firstItem, .object :: stack), c.next)
      | _ => do
          let (_, c) ← scalar c
          .ok ((.separator, stack), c)
  | _, [] => .ok ((.separator, []), c)
  | .firstItem, top :: outer =>
      match c.rest with
      | [] => .error (c.peekFault top.unfinished)
      | x :: _ =>
          if x = top.closing then .ok ((.separator, outer), c.next)
          else do
            let (_, c) ← beforeItem top c
            .ok ((.value, stack), c)
  | .separator, top :: outer =>
      match c.rest with
      | [] => .error (c.peekFault top.unfinished)
      | x :: _ =>
          if x = top.closing then .ok ((.separator, outer), c.next)
          else if x = ',' then do
            let (_, c) ← beforeItem top c.next
            .ok ((.value, stack), c)
          else .error (c.peekFault top.commaExpected)

/-- Steps until no bracket is open behind a value. -/
def walk : Nat → Awaiting → List Bracket → Scanner Unit
  | 0, _, _, c => .error (c.peekFault .unfinishedValue)
  | fuel + 1, awaiting, stack, c => do
      let ((awaiting, stack), c) ← step awaiting stack c
      match awaiting, stack with
      | .separator, [] => .ok ((), c)
      | _, _ => walk fuel awaiting stack c

/-- Passes over one value. Two steps take at least one character. -/
def value : Scanner Unit := fun c => walk (2 * c.rest.length + 2) .value [] c

end VideoSurvey.Json.Skip
