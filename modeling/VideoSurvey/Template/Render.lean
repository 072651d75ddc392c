import VideoSurvey.Json.Printer
import VideoSurvey.Template.Basic
import VideoSurvey.Text.Entity

/-!
# Rendering

`render` fills the places of a template from a scope. A name is looked up in the variables of the
repetitions around it, the innermost first, and then in the context; a path that leads nowhere is
a fault, except in a choice, where it counts as false. A template that escapes writes the strings
it emits with entities, unless `safe` comes last among their filters.
-/

set_option autoImplicit false

namespace VideoSurvey.Template

/-- Why a template cannot be rendered. -/
inductive RenderFault where
  | unknown (path : Path)
  | notAList (path : Path)
  | noLength
deriving DecidableEq, Repr

/-- Named values, the innermost first. -/
abbrev Scope := List (String × Json)

/-! ## Looking up -/

/-- The number that a text of digits stands for. Only zero itself begins with a zero. -/
def natural? (s : List Char) : Option Nat :=
  if s.isEmpty || !s.all Char.isDigit || (s.head? = some '0' && s.length ≠ 1) then none
  else some (s.foldl (fun n c => n * 10 + (c.toNat - '0'.toNat)) 0)

/-- The value below a key: a member of an object, or an item of a list by its number. -/
def child? (v : Json) (key : String) : Option Json :=
  match v with
  | .obj members => Json.Members.lookup key members
  | .arr items => (natural? key.toList).bind fun i => items[i]?
  | _ => none

/-- The value below several keys. -/
def follow? (v : Json) : List String → Option Json
  | [] => some v
  | key :: r => (child? v key).bind fun v => follow? v r

/-- The value that a path leads to. -/
def lookup? (scope : Scope) : Path → Option Json
  | [] => none
  | name :: r => scope.findSome? fun entry => if entry.1 = name then follow? entry.2 r else none

/-! ## Values as text -/

/-- A number of 64 bits without an exponent and without a point behind a whole number. -/
def plainReal (x : Decimal.Binary64) : List Char :=
  let decimal := Decimal.shortest x.magnitude
  let digits := Json.natDigits decimal.digits
  let body :=
    if 0 ≤ decimal.exponent then
      if decimal.digits = 0 then digits else digits ++ List.replicate decimal.exponent.toNat '0'
    else Json.positional digits (decimal.exponent + (digits.length : Int) - 1)
  if x.isNegative then '-' :: body else body

mutual

/-- A value as text, without entities. -/
def display : Json → List Char
  | .null => []
  | .bool b => Json.boolText b
  | .num (.integer n) => Json.intDigits n
  | .num (.binary x) => plainReal x
  | .str s => s.toList
  | .arr [] => ['[', ']']
  | .arr (v :: r) => '[' :: display v ++ displayRest r
  | .obj _ => "[object]".toList

/-- The items of a list after the first, and its bracket. -/
def displayRest : List Json → List Char
  | [] => [']']
  | v :: r => ',' :: ' ' :: display v ++ displayRest r

end

/-- Whether a value counts as true. -/
def isTruthy : Json → Bool
  | .null => false
  | .bool b => b
  | .num (.integer n) => n ≠ 0
  | .num (.binary x) => x.magnitude.significand ≠ 0
  | .str s => !s.isEmpty
  | .arr items => !items.isEmpty
  | .obj members => !members.isEmpty

/-- The items that a repetition goes through. The items of a string are its characters. -/
def items? : Json → Option (List Json)
  | .arr items => some items
  | .str s => some (s.toList.map fun c => .str (String.singleton c))
  | _ => none

/-- The number of items of a list, members of an object, or characters of a string. -/
def length? : Json → Option Nat
  | .arr items => some items.length
  | .obj members => some members.length
  | .str s => some s.length
  | _ => none

/-! ## Rendering -/

/-- The value of an operand. -/
def operandValue (scope : Scope) : Operand → Except RenderFault Json
  | .path path =>
      match lookup? scope path with
      | some v => .ok v
      | none => .error (.unknown path)
  | .number n => .ok (Json.ofInt n)

/-- The value behind the filters. -/
def filtered : List Filter → Json → Except RenderFault Json
  | [], v => .ok v
  | .safe :: r, v => filtered r v
  | .length :: r, v =>
      match length? v with
      | some n => filtered r (Json.ofNat n)
      | none => .error .noLength

/-- The text of an emitted value. -/
def emitted (escapes : Bool) (filters : List Filter) (v : Json) : List Char :=
  match v with
  | .str s =>
      if escapes && filters.getLast? ≠ some .safe then Text.Entity.escape s.toList else s.toList
  | v => display v

/-- The results of a part for each item, one after the other. -/
def forItems (part : Json → Except RenderFault (List Char)) : List Json →
    Except RenderFault (List Char)
  | [] => .ok []
  | v :: r => do
      let first ← part v
      let rest ← forItems part r
      .ok (first ++ rest)

mutual

/-- The text of one part. -/
def renderNode (escapes : Bool) (scope : Scope) : Node → Except RenderFault (List Char)
  | .text text => .ok text
  | .emit operand filters => do
      let v ← operandValue scope operand
      let v ← filtered filters v
      .ok (emitted escapes filters v)
  | .choose path whenTrue whenFalse =>
      if (lookup? scope path).any isTruthy then render escapes scope whenTrue
      else render escapes scope whenFalse
  | .each name path body => do
      let v ← operandValue scope (.path path)
      match items? v with
      | none => .error (.notAList path)
      | some items => forItems (fun v => render escapes ((name, v) :: scope) body) items

/-- The text of a template. -/
def render (escapes : Bool) (scope : Scope) : List Node → Except RenderFault (List Char)
  | [] => .ok []
  | node :: r => do
      let first ← renderNode escapes scope node
      let rest ← render escapes scope r
      .ok (first ++ rest)

end

end VideoSurvey.Template
