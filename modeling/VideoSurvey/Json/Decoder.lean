import VideoSurvey.Json.Reader

/-!
# Decoders

A decoder makes a value of a type out of JSON, in two ways. `ofJson` takes a JSON value that was
read before. `read` takes a text directly, and then the first fault of the text in reading order
counts, whether it is one of the grammar or of the shape asked for.

The combinators build both ways at once: `text`, the integers, `number`, `optional`, `list`,
`record`. A record takes its fields from an object, in any order and among other members, or from
an array, in the order of the fields. It starts from a blank value, which each field changes.
Members that no field takes are passed over by a `record` and kept by `readOpen`.
-/

set_option autoImplicit false

namespace VideoSurvey.Json

/-- A way to make a value of a type out of JSON. -/
structure Decoder (α : Type) where
  /-- From a value. -/
  ofJson : Json → Except Mismatch α
  /-- From a text; the number is the depth of brackets still allowed. -/
  read : Nat → Reader α

/-- The value that a whole text stands for. -/
def Decoder.ofText {α : Type} (d : Decoder α) (text : String) : Except ReadError α :=
  readWhole (d.read greatestDepth) text

/-- The decoder of a function of a value. -/
def Decoder.map {α β : Type} (f : α → β) (d : Decoder α) : Decoder β where
  ofJson v := (d.ofJson v).map f
  read room c := (d.read room c).map fun found => (f found.1, found.2)

/-- Any value. -/
def anything : Decoder Json := ⟨.ok, value⟩

/-! ## Values without brackets -/

/-- The halt of a reader that asked for another kind of value than the one at the cursor. -/
def mismatchAt (wanted : Shape) (c : Cursor) : Halt :=
  match c.rest with
  | '[' :: _ => .settled ⟨.inr (.kind (.arr []) wanted), c.position⟩
  | '\x7b' :: _ => .settled ⟨.inr (.kind (.obj []) wanted), c.position⟩
  | _ =>
      match scalar c with
      | .ok (v, c) => .settled ⟨.inr (.kind v wanted), c.position⟩
      | .error e => .settled e

/-- A value without brackets that a test accepts. -/
def leaf {α : Type} (wanted : Shape) (accept : Json → Except Mismatch α) : Decoder α where
  ofJson := accept
  read _ c :=
    let c := c.skipSpace
    match c.rest with
    | [] => .error (.settled (c.peekFault .unfinishedValue))
    | '[' :: _ => .error (mismatchAt wanted c)
    | '\x7b' :: _ => .error (mismatchAt wanted c)
    | _ => do
        let (v, c) ← scalar.reader c
        match accept v with
        | .ok a => .ok (a, c)
        | .error m => .error (.settled ⟨.inr m, c.position⟩)

/-- A string. -/
def text : Decoder String := leaf .text fun
  | .str s => .ok s
  | v => .error (.kind v .text)

/-- An integer from `low` to `high`. -/
def integer (wanted : Shape) (low high : Int) : Decoder Int := leaf wanted fun
  | .num (.integer n) => if low ≤ n ∧ n ≤ high then .ok n else .error (.range n wanted)
  | v => .error (.kind v wanted)

/-- An integer of 64 bits with a sign. -/
def signed64 : Decoder Int :=
  integer .signed64 (-9223372036854775808) 9223372036854775807

/-- A natural number of 64 bits. -/
def unsigned64 : Decoder Nat :=
  (integer .unsigned64 0 18446744073709551615).map Int.toNat

/-- A natural number of 32 bits. -/
def unsigned32 : Decoder Nat := (integer .unsigned32 0 4294967295).map Int.toNat

/-- A position in a list. -/
def count64 : Decoder Nat := (integer .count64 0 18446744073709551615).map Int.toNat

/-- A number of any kind. -/
def anyNumber : Decoder Decimal.Number where
  ofJson
    | .num n => .ok n
    | v => .error (.kind v .number)
  read room c :=
    let c := c.skipSpace
    match c.rest with
    | '[' :: _ =>
        nested room (fun _ => enclosed closeList fun c =>
          .error (.pending (.kind (.arr []) .number) c)) c
    | '\x7b' :: _ =>
        nested room (fun _ => enclosed closeObject fun c =>
          .error (.pending (.kind (.obj []) .number) c)) c
    | _ => do
        let (v, c) ← scalar.reader c
        match v with
        | .num n => .ok (n, c)
        | v => .error (.settled ⟨.inr (.kind v .number), c.position⟩)

/-- A value that may be `null`. -/
def optional {α : Type} (d : Decoder α) : Decoder (Option α) where
  ofJson
    | .null => .ok none
    | v => (d.ofJson v).map some
  read room c :=
    let c := c.skipSpace
    match c.rest with
    | 'n' :: _ => do
        let (_, c) ← (literal .null ['u', 'l', 'l']).reader c.next
        .ok (none, c)
    | _ => (d.read room c).map fun found => (some found.1, found.2)

/-! ## Lists and tables -/

/-- The items of an array. -/
def list {α : Type} (d : Decoder α) : Decoder (List α) where
  ofJson
    | .arr items => items.mapM d.ofJson
    | v => .error (.kind v .list)
  read room c :=
    let c := c.skipSpace
    match c.rest with
    | [] => .error (.settled (c.peekFault .unfinishedValue))
    | '[' :: _ => nested room (fun room => enclosed closeList (items (d.read room))) c
    | _ => .error (mismatchAt .list c)

/-- The members of an object, whatever they are. -/
def table : Decoder Members where
  ofJson
    | .obj members => .ok members
    | v => .error (.kind v .table)
  read room c :=
    let c := c.skipSpace
    match c.rest with
    | [] => .error (.settled (c.peekFault .unfinishedValue))
    | '\x7b' :: _ => do
        let (found, c) ← nested room (fun room => enclosed closeObject (members (value room))) c
        .ok (Members.sorted found, c)
    | _ => .error (mismatchAt .table c)

/-! ## Records -/

/-- A field of a record: its key, whether it has to be there, and the change it makes. -/
structure RecordField (σ : Type) where
  key : String
  required : Bool
  change : Decoder (σ → σ)

namespace RecordField

/-- A field that has to be there. -/
def needed {σ α : Type} (key : String) (d : Decoder α) (set : α → σ → σ) : RecordField σ :=
  ⟨key, true, d.map set⟩

/-- A field that may be left out. -/
def defaulted {σ α : Type} (key : String) (d : Decoder α) (set : α → σ → σ) : RecordField σ :=
  ⟨key, false, d.map set⟩

end RecordField

section Record

variable {σ : Type}

/-- The field with a key. -/
def field? (fields : List (RecordField σ)) (key : String) : Option (RecordField σ) :=
  fields.find? fun f => f.key = key

/-- The first required field that was not seen. -/
def missing? (fields : List (RecordField σ)) (seen : List String) : Option String :=
  (fields.find? fun f => f.required && !seen.contains f.key).map RecordField.key

/-- The changes that the members of an object make, in their order. The keys met so far come
first. -/
def ofMembers (fields : List (RecordField σ)) :
    List String → σ → Members → Except Mismatch (List String × σ)
  | seen, s, [] => .ok (seen, s)
  | seen, s, (key, v) :: r =>
      match field? fields key with
      | none => ofMembers fields seen s r
      | some f =>
          if seen.contains key then .error (.duplicate key)
          else do
            let change ← f.change.ofJson v
            ofMembers fields (key :: seen) (change s) r

/-- The changes that the items of an array make, field by field; `index` fields are done. -/
def ofItems (short : Quota) (long : Mismatch) : List (RecordField σ) → Nat → σ → List Json →
    Except Mismatch σ
  | [], _, s, [] => .ok s
  | [], _, _, _ :: _ => .error long
  | f :: fields, index, s, [] =>
      if f.required then .error (.length index short)
      else ofItems short long fields (index + 1) s []
  | f :: fields, index, s, v :: r => do
      let change ← f.change.ofJson v
      ofItems short long fields (index + 1) (change s) r

/-- A record out of a value. `short` and `long` word an array of the wrong length. -/
def recordOfJson (wanted : Shape) (short long : Quota) (fields : List (RecordField σ)) (blank : σ) :
    Json → Except Mismatch σ
  | .obj members => do
      let (seen, s) ← ofMembers fields [] blank members
      match missing? fields seen with
      | some key => .error (.missing key)
      | none => .ok s
  | .arr items => ofItems short (.length items.length long) fields 0 blank items
  | v => .error (.kind v wanted)

/-- A member that no field takes is passed over. -/
def passedOver (_ : String) : Decoder (σ → σ) where
  ofJson _ := .ok id
  read _ c := (Skip.value.reader c).map fun found => (id, found.2)

/-- A member that no field takes is kept. -/
def kept (keep : String → Json → σ → σ) (key : String) : Decoder (σ → σ) := anything.map (keep key)

/-- The changes that the members of an object make, read from a text. `others` decodes a member that
no field takes. -/
def readMembers (fields : List (RecordField σ)) (others : String → Decoder (σ → σ)) (room : Nat) :
    Nat → Bool → List String → σ → Reader (List String × σ)
  | 0, _, _, _, c => .error (.settled (c.peekFault .unfinishedObject))
  | fuel + 1, isFirst, seen, s, c => do
      let (more, c) ← (moreMembers isFirst).reader c
      if more then
        let (key, c) ← string.reader c
        match field? fields key with
        | none =>
            let (_, c) ← colon.reader c
            let (change, c) ← (others key).read room c
            readMembers fields others room fuel false seen (change s) c
        | some f =>
            if seen.contains key then .error (.pending (.duplicate key) c)
            else
              let (_, c) ← colon.reader c
              let (change, c) ← f.change.read room c
              readMembers fields others room fuel false (key :: seen) (change s) c
      else .ok ((seen, s), c)

/-- A record read from the inside of an object. -/
def readObject (fields : List (RecordField σ)) (others : String → Decoder (σ → σ)) (blank : σ)
    (room : Nat) : Reader σ := fun c => do
  let ((seen, s), c) ← readMembers fields others room (c.rest.length + 1) true [] blank c
  match missing? fields seen with
  | some key => .error (.pending (.missing key) c)
  | none => .ok (s, c)

/-- The changes that the items of an array make, read from a text. -/
def readItems (short : Quota) (room : Nat) : List (RecordField σ) → Nat → Bool → σ → Reader σ
  | [], _, _, s, c => .ok (s, c)
  | f :: fields, index, isFirst, s, c => do
      let (more, c) ← (moreItems isFirst).reader c
      if more then
        let (change, c) ← f.change.read room c
        readItems short room fields (index + 1) false (change s) c
      else if f.required then .error (.pending (.length index short) c)
      else readItems short room fields (index + 1) isFirst s c

/-- A record that begins as `blank`. -/
def record (name : String) (fields : List (RecordField σ)) (blank : σ) : Decoder σ where
  ofJson := recordOfJson (.record name) (.record name fields.length) .fewer fields blank
  read room c :=
    let c := c.skipSpace
    match c.rest with
    | [] => .error (.settled (c.peekFault .unfinishedValue))
    | '[' :: _ =>
        nested room (fun room => enclosed closeList
          (readItems (.record name fields.length) room fields 0 true blank)) c
    | '\x7b' :: _ =>
        nested room (fun room => enclosed closeObject (readObject fields passedOver blank room)) c
    | _ => .error (mismatchAt (.record name) c)

/-- A record that keeps the members no field takes, read from a text. An array is no such record. -/
def readOpen (name : String) (fields : List (RecordField σ)) (keep : String → Json → σ → σ)
    (blank : σ) (room : Nat) : Reader σ := fun c =>
  let c := c.skipSpace
  match c.rest with
  | [] => .error (.settled (c.peekFault .unfinishedValue))
  | '\x7b' :: _ =>
      nested room (fun room => enclosed closeObject (readObject fields (kept keep) blank room)) c
  | _ => .error (mismatchAt (.record name) c)

end Record

/-! ## Choices -/

section Choice

variable {α : Type}

/-- The value with a name. -/
def named (known : List (String × α)) (name : String) : Except Mismatch α :=
  match known.find? fun k => k.1 = name with
  | some found => .ok found.2
  | none => .error (.variant name (known.map Prod.fst))

/-- A name to choose by. -/
def chosenName (known : List (String × α)) : Decoder α := leaf .choiceName fun
  | .str name => named known name
  | v => .error (.kind v .choiceName)

/-- The literal `null`. -/
def nothing : Decoder Unit := leaf .nothing fun
  | .null => .ok ()
  | v => .error (.kind v .nothing)

/-- One of several named values, given by its name alone or as the only key of an object, with
`null` behind it. -/
def choice (known : List (String × α)) : Decoder α where
  ofJson
    | .str name => named known name
    | .obj [(name, v)] => do
        let a ← named known name
        let _ ← nothing.ofJson v
        .ok a
    | .obj _ => .error .severalKeys
    | v => .error (.kind v .choice)
  read room c :=
    let c := c.skipSpace
    match c.rest with
    | [] => .error (.settled (c.peekFault .unfinishedValue))
    | '"' :: _ => (chosenName known).read room c
    | '\x7b' :: _ =>
        nested room (fun room c => do
          let (more, c) ← (moreMembers true).reader c
          if !more then throw (.settled (c.peekFault .valueExpected))
          let (a, c) ← (chosenName known).read room c
          let (_, c) ← colon.reader c
          let (_, c) ← nothing.read room c
          let c := c.skipSpace
          match c.rest with
          | [] => .error (.settled (c.fault .unfinishedObject))
          | '\x7d' :: _ => .ok (a, c.next)
          | _ :: _ => .error (.settled (c.fault .valueExpected))) c
    | _ => .error (.settled (c.peekFault .valueExpected))

/-! ## Tagged variants -/

/-- The members of a tagged object as they are written, apart from the tag, and what the tag
chooses. -/
def taggedMembers (tag : String) (known : List (String × α)) (room : Nat) :
    Nat → Bool → Option α → Members → Reader (Option α × Members)
  | 0, _, _, _, c => .error (.settled (c.peekFault .unfinishedObject))
  | fuel + 1, isFirst, chosen, read, c => do
      let (more, c) ← (moreMembers isFirst).reader c
      if more then
        let (key, c) ← string.reader c
        if key = tag then
          if chosen.isSome then .error (.pending (.duplicate tag) c)
          else
            let (_, c) ← colon.reader c
            let (a, c) ← (chosenName known).read room c
            taggedMembers tag known room fuel false (some a) read c
        else
          let (_, c) ← colon.reader c
          let (v, c) ← value room c
          taggedMembers tag known room fuel false chosen ((key, v) :: read) c
      else .ok ((chosen, read.reverse), c)

/-- What the tag chooses, and the rest of a tagged object. -/
def taggedObject (tag : String) (known : List (String × α)) (room : Nat) : Reader (α × Json) :=
  fun c => do
    let ((chosen, rest), c) ← taggedMembers tag known room (c.rest.length + 1) true none [] c
    match chosen with
    | some a => .ok ((a, .obj rest), c)
    | none => .error (.pending (.missing tag) c)

/-- What the first item chooses, and the rest of a tagged array. -/
def taggedList (tag : String) (known : List (String × α)) (room : Nat) : Reader (α × Json) :=
  fun c => do
    let (more, c) ← (moreItems true).reader c
    if more then
      let (a, c) ← (chosenName known).read room c
      let (rest, c) ← itemsLoop (value room) (c.rest.length + 1) false [] c
      .ok ((a, .arr rest), c)
    else .error (.pending (.missing tag) c)

/-- One of several variants, chosen by a tag among the members of an object or at the head of an
array. The other members or items make the variant, and what is wrong with them is noticed behind
the closing bracket. -/
def tagged (name tag : String) (known : List (String × (Json → Except Mismatch α))) :
    Decoder α where
  ofJson
    | .obj members =>
        match Members.lookup tag members with
        | none => .error (.missing tag)
        | some v => do
            let make ← (chosenName known).ofJson v
            make (.obj (Members.erase tag members))
    | .arr [] => .error (.missing tag)
    | .arr (v :: r) => do
        let make ← (chosenName known).ofJson v
        make (.arr r)
    | v => .error (.kind v (.tagged name))
  read room c :=
    let c := c.skipSpace
    let body : Reader ((Json → Except Mismatch α) × Json) :=
      match c.rest with
      | '[' :: _ => nested room fun room => enclosed closeList (taggedList tag known room)
      | '\x7b' :: _ => nested room fun room => enclosed closeObject (taggedObject tag known room)
      | _ => fun c => do
          let (v, c) ← scalar.reader c
          .error (.settled ⟨.inr (.kind v (.tagged name)), c.position⟩)
    match body c with
    | .error h => .error h
    | .ok ((make, rest), c) =>
        match make rest with
        | .ok a => .ok (a, c)
        | .error m => .error (.pending m c)

/-- A variant without contents. Members of an object are of no account. -/
def emptyVariant (a : α) : Json → Except Mismatch α
  | .arr (v :: r) => .error (.length (v :: r).length (.read 0))
  | _ => .ok a

/-- A variant whose contents are a record. -/
def recordVariant {σ : Type} (name : String) (fields : List (RecordField σ)) (blank : σ)
    (make : σ → α) (v : Json) : Except Mismatch α :=
  (recordOfJson (.record name) (.variant name fields.length) (.read fields.length) fields blank
    v).map make

end Choice

end VideoSurvey.Json
