import VideoSurvey.Json.Cursor

/-!
# Tokens

Scanners for the values without brackets: literals, numbers and strings. A string holds plain
characters and escapes; a character above `U+FFFF` may be escaped as a pair of surrogates, and a
surrogate alone is a fault.
-/

set_option autoImplicit false

namespace VideoSurvey.Json

/-! ## Literals -/

/-- The remaining characters of a literal. -/
def literal (value : Json) : List Char → Scanner Json
  | [], c => .ok (value, c)
  | expected :: r, c =>
      match c.rest with
      | [] => .error (c.fault .unfinishedValue)
      | x :: _ =>
          if x = expected then literal value r c.next else .error (c.peekFault .literalExpected)

/-! ## Numbers -/

/-- The value of a decimal digit. -/
def digitValue (c : Char) : Nat := c.toNat - '0'.toNat

/-- The digits at a cursor, and the cursor behind them. -/
def digits (c : Cursor) : List Nat × Cursor :=
  let found := c.rest.takeWhile Char.isDigit
  (found.map digitValue, ⟨c.rest.dropWhile Char.isDigit, c.position.afterAll found⟩)

/-- The digits before the point: a zero alone, or digits that do not begin with zero. -/
def wholePart (atEnd : TextFault) : Scanner (List Nat) := fun c =>
  match c.rest with
  | [] => .error (c.fault atEnd)
  | '0' :: r =>
      if r.head?.any Char.isDigit then .error (c.next.peekFault .badNumber) else .ok ([0], c.next)
  | x :: _ => if x.isDigit then .ok (digits c) else .error (c.peekFault .badNumber)

/-- The point and the digits behind it, if there is a point. -/
def fractionPart (atEnd : TextFault) : Scanner (List Nat) := fun c =>
  match c.rest with
  | '.' :: _ =>
      let (found, c) := digits c.next
      if !found.isEmpty then .ok (found, c)
      else if c.rest.isEmpty then .error (c.fault atEnd)
      else .error (c.peekFault .badNumber)
  | _ => .ok ([], c)

/-- A sign; true for the minus sign. -/
def sign (c : Cursor) : Bool × Cursor :=
  match c.rest with
  | '-' :: _ => (true, c.next)
  | '+' :: _ => (false, c.next)
  | _ => (false, c)

/-- The exponent, if there is one. -/
def powerPart (atEnd : TextFault) : Scanner (Option Decimal.Power) := fun c =>
  match c.rest with
  | x :: _ =>
      if x = 'e' || x = 'E' then
        let (negative, c) := sign c.next
        match c.rest with
        | [] => .error (c.fault atEnd)
        | d :: _ =>
            if d.isDigit then
              let (found, c) := digits c
              .ok (some ⟨negative, found⟩, c)
            else .error (c.peekFault .badNumber)
      else .ok (none, c)
  | [] => .ok (none, c)

/-- A written number. `atEnd` is the fault of a text that ends inside it. -/
def numeral (atEnd : TextFault) : Scanner Decimal.Numeral := fun c => do
  let (negative, c) := match c.rest with
    | '-' :: _ => (true, c.next)
    | _ => (false, c)
  let (whole, c) ← wholePart atEnd c
  let (fraction, c) ← fractionPart atEnd c
  let (power, c) ← powerPart atEnd c
  .ok (⟨negative, whole, fraction, power⟩, c)

/-- Where a number turns out to be too large: behind the digit that takes its exponent out of
range, or behind the number. -/
def tooLargeAt (n : Decimal.Numeral) (behind : Cursor) : Position :=
  match n.power with
  | none => behind.position
  | some p =>
      match Decimal.Numeral.excess? p with
      | none => behind.position
      | some place =>
          ⟨behind.position.line, behind.position.column - (p.digits.length - place)⟩

/-- A number. -/
def number : Scanner Decimal.Number := fun c => do
  let (n, c) ← numeral .unfinishedValue c
  match n.value with
  | some value => .ok (value, c)
  | none => .error ⟨.inl .numberTooLarge, tooLargeAt n c⟩

/-! ## Strings -/

/-- The value of a hexadecimal digit. -/
def hexValue? (c : Char) : Option Nat :=
  if c.isDigit then some (c.toNat - '0'.toNat)
  else if 'a' ≤ c && c ≤ 'f' then some (c.toNat - 'a'.toNat + 10)
  else if 'A' ≤ c && c ≤ 'F' then some (c.toNat - 'A'.toNat + 10)
  else none

/-- The value of four hexadecimal digits. -/
def hexValues? (a b c d : Char) : Option Nat := do
  let a ← hexValue? a
  let b ← hexValue? b
  let c ← hexValue? c
  let d ← hexValue? d
  some (((a * 16 + b) * 16 + c) * 16 + d)

/-- Four hexadecimal digits. Anything else is noticed four bytes further on. -/
def fourHex : Scanner Nat := fun c =>
  let wrong : Except ReadError (Nat × Cursor) :=
    match Cursor.placeAfter 4 c.rest c.position with
    | some p => .error ⟨.inl .badEscape, p⟩
    | none => .error ⟨.inl .unfinishedString, c.endPosition⟩
  match c.rest with
  | x :: y :: z :: w :: r =>
      match hexValues? x y z w with
      | some n => .ok (n, ⟨r, c.position.afterAll [x, y, z, w]⟩)
      | none => wrong
  | _ => wrong

/-- First halves of a surrogate pair. -/
def isLeading (n : Nat) : Bool := 0xD800 ≤ n && n ≤ 0xDBFF

/-- Second halves of a surrogate pair. -/
def isTrailing (n : Nat) : Bool := 0xDC00 ≤ n && n ≤ 0xDFFF

/-- The character of a surrogate pair. -/
def pairChar (leading trailing : Nat) : Char :=
  Char.ofNat ((leading - 0xD800) * 0x400 + (trailing - 0xDC00) + 0x10000)

/-- The second half of a surrogate pair, from its backslash on. -/
def trailingHalf (leading : Nat) : Scanner Char := fun c =>
  match c.rest with
  | [] => .error (c.fault .unfinishedString)
  | '\\' :: _ =>
      let c := c.next
      match c.rest with
      | [] => .error (c.fault .unfinishedString)
      | 'u' :: _ => do
          let (n, c) ← fourHex c.next
          if isTrailing n then .ok (pairChar leading n, c) else .error (c.fault .loneSurrogate)
      | _ :: _ => .error (c.peekFault .unfinishedEscape)
  | _ :: _ => .error (c.peekFault .unfinishedEscape)

/-- A character given by its code, from the first digit on. -/
def codeEscape : Scanner Char := fun c => do
  let (n, c) ← fourHex c
  if isTrailing n then .error (c.fault .loneSurrogate)
  else if isLeading n then trailingHalf n c
  else .ok (Char.ofNat n, c)

/-- The character behind a one-letter escape. -/
def letterEscape? : Char → Option Char
  | '"' => some '"'
  | '\\' => some '\\'
  | '/' => some '/'
  | 'b' => some '\x08'
  | 'f' => some '\x0c'
  | 'n' => some '\n'
  | 'r' => some '\r'
  | 't' => some '\t'
  | _ => none

/-- An escape, from the character behind the backslash on. -/
def escape : Scanner Char := fun c =>
  match c.rest with
  | [] => .error (c.fault .unfinishedString)
  | 'u' :: _ => codeEscape c.next
  | x :: _ =>
      match letterEscape? x with
      | some found => .ok (found, c.next)
      | none => .error (c.peekFault .badEscape)

/-- The rest of a string behind the characters `read`, held in reverse. -/
def stringRest : Nat → List Char → Scanner String
  | 0, _, c => .error (c.fault .unfinishedString)
  | fuel + 1, read, c =>
      match c.rest with
      | [] => .error (c.fault .unfinishedString)
      | '"' :: _ => .ok (String.ofList read.reverse, c.next)
      | '\\' :: _ => do
          let (found, c) ← escape c.next
          stringRest fuel (found :: read) c
      | x :: _ =>
          if x.toNat < 0x20 then .error (c.peekFault .controlCharacter)
          else stringRest fuel (x :: read) c.next

/-- A string, from its opening quote on. Each step takes at least one character. -/
def string : Scanner String := fun c => stringRest (c.rest.length + 1) [] c.next

/-! ## Values without brackets -/

/-- A value without brackets, at a cursor that does not stand before a blank. -/
def scalar : Scanner Json := fun c =>
  match c.rest with
  | [] => .error (c.peekFault .unfinishedValue)
  | 'n' :: _ => literal .null ['u', 'l', 'l'] c.next
  | 't' :: _ => literal (.bool true) ['r', 'u', 'e'] c.next
  | 'f' :: _ => literal (.bool false) ['a', 'l', 's', 'e'] c.next
  | '"' :: _ => do
      let (s, c) ← string c
      .ok (.str s, c)
  | x :: _ =>
      if x = '-' || x.isDigit then do
        let (n, c) ← number c
        .ok (.num n, c)
      else .error (c.peekFault .valueExpected)

end VideoSurvey.Json
