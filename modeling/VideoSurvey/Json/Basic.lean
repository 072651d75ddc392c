import VideoSurvey.Decimal.Numeral

/-!
# JSON values

A JSON value, and objects as lists of members. An object that was read holds each key once, in
increasing order of keys by code points; `insert` and `erase` keep that order, and `lookup` gives
the value of a key. What a lookup finds after an insertion is `lookup_insert_self` and
`lookup_insert_of_ne`.
-/

set_option autoImplicit false

namespace VideoSurvey

/-- A JSON value. The members of an object stand in the order in which they are written. -/
inductive Json where
  | null
  | bool (value : Bool)
  | num (value : Decimal.Number)
  | str (value : String)
  | arr (items : List Json)
  | obj (members : List (String × Json))
deriving Repr, Inhabited

namespace Json

/-- The members of an object. -/
abbrev Members := List (String × Json)

/-- A whole number. -/
def ofInt (n : Int) : Json := .num (.integer n)

/-- A natural number. -/
def ofNat (n : Nat) : Json := .num (.integer n)

/-- The members of an object, and none of another value. -/
def members? : Json → Option Members
  | .obj members => some members
  | _ => none

/-- The text of a string, and none of another value. -/
def str? : Json → Option String
  | .str value => some value
  | _ => none

namespace Members

/-- The value of the first member with a key. -/
def lookup (key : String) : Members → Option Json
  | [] => none
  | (k, v) :: r => if k = key then some v else lookup key r

/-- Sets the value of a key; a new key is placed before the first larger one. -/
def insert (key : String) (value : Json) : Members → Members
  | [] => [(key, value)]
  | (k, v) :: r =>
      if k = key then (key, value) :: r
      else if key < k then (key, value) :: (k, v) :: r
      else (k, v) :: insert key value r

/-- Drops the members with a key. -/
def erase (key : String) (members : Members) : Members := members.filter fun m => m.1 ≠ key

/-- The members in increasing order of keys; of members with one key the last counts. -/
def sorted (members : Members) : Members :=
  members.foldl (fun found m => insert m.1 m.2 found) []

/-- Keys in strictly increasing order. -/
def Sorted (members : Members) : Prop := members.Pairwise fun a b => a.1 < b.1

@[simp] theorem lookup_insert_self (key : String) (value : Json) (members : Members) :
    lookup key (insert key value members) = some value := by
  induction members with
  | nil => simp [insert, lookup]
  | cons m r ih =>
      by_cases h : m.1 = key
      · simp [insert, lookup, h]
      · by_cases hlt : key < m.1 <;> simp [insert, lookup, h, hlt, ih]

theorem lookup_insert_of_ne {key other : String} (h : other ≠ key) (value : Json)
    (members : Members) : lookup other (insert key value members) = lookup other members := by
  induction members with
  | nil => simp [insert, lookup, Ne.symm h]
  | cons m r ih =>
      by_cases hk : m.1 = key
      · simp [insert, lookup, hk, Ne.symm h]
      · by_cases hlt : key < m.1
        · simp [insert, lookup, hk, hlt, Ne.symm h]
        · simp [insert, lookup, hk, hlt, ih]

end Members

/-- Orders the members of every object inside a value by their keys. -/
def sortKeys : Json → Json
  | .arr items => .arr (sortItems items)
  | .obj members => .obj (Members.sorted (sortMembers members))
  | other => other
where
  /-- `sortKeys` on the items of an array. -/
  sortItems : List Json → List Json
    | [] => []
    | v :: r => sortKeys v :: sortItems r
  /-- `sortKeys` on the values of an object's members. -/
  sortMembers : List (String × Json) → List (String × Json)
    | [] => []
    | (k, v) :: r => (k, sortKeys v) :: sortMembers r

end Json

end VideoSurvey
