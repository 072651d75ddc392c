import VideoSurvey.Proofs.Json.Records

/-!
# What decoders take

`Decoder.takes` says whether a decoder makes anything of a value. For the decoders without brackets
it is a test of the value alone. A record is described by its `Types`, the keys of its fields with a
test for each: it takes an object whose members pass the tests of their keys, in any order and among
other members, and an array whose items pass the tests one after the other (`takes_record`).
-/

set_option autoImplicit false

namespace VideoSurvey.Json

open Results

variable {σ α β : Type}

/-- Whether a decoder makes anything of a value. -/
def Decoder.takes (d : Decoder α) (v : Json) : Bool := (d.ofJson v).isOk

theorem isOk_iff {ε : Type} {x : Except ε α} : x.isOk = true ↔ ∃ a, x = .ok a := by
  cases x with
  | error e =>
      refine iff_of_false Bool.false_ne_true ?_
      rintro ⟨a, ⟨⟩⟩
  | ok a => exact iff_of_true rfl ⟨a, rfl⟩

theorem takes_iff {d : Decoder α} {v : Json} : d.takes v = true ↔ ∃ a, d.ofJson v = .ok a :=
  isOk_iff

/-! ## Tests of values -/

/-- A string. -/
def isText : Json → Bool
  | .str _ => true
  | _ => false

/-- An integer from `low` to `high`. -/
def isIntegerIn (low high : Int) : Json → Bool
  | .num (.integer n) => low ≤ n && n ≤ high
  | _ => false

/-- A number of any kind. -/
def isNumber : Json → Bool
  | .num _ => true
  | _ => false

/-- An object, whatever its members are. -/
def isTable : Json → Bool
  | .obj _ => true
  | _ => false

/-- The literal `null`, or a value that passes a test. -/
def orNull (test : Json → Bool) : Json → Bool
  | .null => true
  | v => test v

/-- An array of values that pass a test. -/
def isListOf (test : Json → Bool) : Json → Bool
  | .arr items => items.all test
  | _ => false

@[simp] theorem takes_map (f : α → β) (d : Decoder α) : (d.map f).takes = d.takes := by
  funext v
  show ((d.ofJson v).map f).isOk = (d.ofJson v).isOk
  cases d.ofJson v with
  | error e => rfl
  | ok a => rfl

@[simp] theorem takes_text : text.takes = isText := by
  funext v
  cases v <;> rfl

@[simp] theorem takes_anyNumber : anyNumber.takes = isNumber := by
  funext v
  cases v <;> rfl

@[simp] theorem takes_table : table.takes = isTable := by
  funext v
  cases v <;> rfl

@[simp] theorem takes_integer (wanted : Shape) (low high : Int) :
    (integer wanted low high).takes = isIntegerIn low high := by
  funext v
  cases v with
  | num n =>
      cases n with
      | integer n =>
          show (if low ≤ n ∧ n ≤ high then Except.ok n else _).isOk = _
          by_cases h : low ≤ n ∧ n ≤ high
          · rw [if_pos h]
            simp [isIntegerIn, h, Except.isOk, Except.toBool]
          · rw [if_neg h]
            simpa [isIntegerIn, Except.isOk, Except.toBool] using h
      | _ => rfl
  | _ => rfl

@[simp] theorem takes_signed64 :
    signed64.takes = isIntegerIn (-9223372036854775808) 9223372036854775807 :=
  takes_integer _ _ _

@[simp] theorem takes_unsigned64 : unsigned64.takes = isIntegerIn 0 18446744073709551615 :=
  (takes_map _ _).trans (takes_integer _ _ _)

@[simp] theorem takes_optional (d : Decoder α) : (optional d).takes = orNull d.takes := by
  funext v
  by_cases h : v = .null
  · subst h
    rfl
  · have hsome : (optional d).takes v = (d.map some).takes v :=
      congrArg Except.isOk (optional_ofJson h d)
    rw [hsome, takes_map]
    cases v with
    | null => exact absurd rfl h
    | _ => rfl

/-- A list is gone through with a result when each of its entries has one. -/
theorem isOk_mapM {ε : Type} (f : α → Except ε β) (l : List α) :
    (l.mapM f).isOk = l.all fun a => (f a).isOk := by
  induction l with
  | nil => rfl
  | cons a l ih =>
      rw [List.mapM_cons, List.all_cons, ← ih]
      cases f a with
      | error e => rfl
      | ok b =>
          cases l.mapM f with
          | error e => rfl
          | ok r => rfl

@[simp] theorem takes_list (d : Decoder α) : (list d).takes = isListOf d.takes := by
  funext v
  cases v with
  | arr items => exact isOk_mapM d.ofJson items
  | _ => rfl

/-! ## Records -/

/-- The keys of some fields, each with a test for the value under it. -/
abbrev Types := List (String × (Json → Bool))

/-- The members of an object pass the tests of their keys. -/
def membersFit (types : Types) (members : Members) : Bool :=
  types.all fun t => (members.lookup t.1).all t.2

/-- The items of an array pass the tests, one after the other, and there are no more items. -/
def itemsFit : Types → List Json → Bool
  | _, [] => true
  | [], _ :: _ => false
  | t :: types, v :: r => t.2 v && itemsFit types r

/-- A value that a record of some types is read from. -/
def isRecordOf (types : Types) : Json → Bool
  | .obj members => membersFit types members
  | .arr items => itemsFit types items
  | _ => false

/-- The tests say what the fields make of the values that may stand under their keys. -/
def Agree (may : String → Json → Prop) (types : Types) (fields : List (RecordField σ)) : Prop :=
  List.Forall₂ (fun t f => t.1 = f.key ∧ ∀ v, may t.1 v → f.change.takes v = t.2 v) types fields

variable {types : Types} {fields : List (RecordField σ)} {members : Members}

theorem Agree.mono {may may' : String → Json → Prop} (h : Agree may types fields)
    (hmay : ∀ key v, may' key v → may key v) : Agree may' types fields :=
  List.Forall₂.imp (fun _ _ htf => ⟨htf.1, fun v hv => htf.2 v (hmay _ v hv)⟩) h

/-- The changes of all fields can be made exactly when the members pass the tests. -/
theorem Agree.exists_applied_iff (h : Agree (fun key v => members.lookup key = some v) types fields)
    {s : σ} : (∃ s', applied fields members s = .ok s') ↔ membersFit types members = true := by
  rw [Json.exists_applied_iff]
  unfold membersFit
  induction h with
  | nil => simp
  | @cons t f types fields htf _ ih =>
      rw [List.forall_mem_cons, List.all_cons, Bool.and_eq_true, ih, ← htf.1]
      refine and_congr_left fun _ => ?_
      cases hlookup : members.lookup t.1 with
      | none => simp
      | some v =>
          rw [Option.all_some, ← htf.2 v hlookup, takes_iff]
          simp

/-- A record that is read from an object is what the fields make of the members. -/
theorem applied_of_record {name : String} {blank s : σ} (h : Independent fields)
    (hmembers : members.Distinct) (hs : (record name fields blank).ofJson (.obj members) = .ok s) :
    applied fields members blank = .ok s := by
  obtain ⟨⟨seen, s'⟩, hread, hs⟩ := bind_eq_ok.1 hs
  have happlied :=
    (ofMembers_iff_applied h hmembers fun _ _ => List.not_mem_nil).1 ⟨seen, hread⟩
  -- a required field may still be missing, but no field changes the record any more
  simp only at hs
  split at hs
  · cases hs
  · cases hs
    exact happlied

/-- An object without a required field missing is taken when its members pass the tests. -/
theorem takes_record_obj {name : String} {blank : σ} (h : Independent fields)
    (hmembers : members.Distinct)
    (hrequired : ∀ f ∈ fields, f.required = true → (members.lookup f.key).isSome)
    (hagree : Agree (fun key v => members.lookup key = some v) types fields) :
    (record name fields blank).takes (.obj members) = membersFit types members := by
  rw [Bool.eq_iff_iff, takes_iff, ← hagree.exists_applied_iff (s := blank)]
  constructor
  · rintro ⟨s, hs⟩
    exact ⟨s, applied_of_record h hmembers hs⟩
  · rintro ⟨s, hs⟩
    refine ⟨s, ?_⟩
    rw [record_ofJson]
    exact recordOfJson_obj h hmembers hrequired hs

/-- The items of an array are taken when they pass the tests, if no field has to be there. -/
theorem isOk_ofItems {short : Quota} {long : Mismatch} (hagree : Agree (fun _ _ => True) types fields)
    (hoptional : ∀ f ∈ fields, f.required = false) (index : Nat) (s : σ) (items : List Json) :
    (ofItems short long fields index s items).isOk = itemsFit types items := by
  induction hagree generalizing index s items with
  | nil =>
      cases items with
      | nil => rfl
      | cons v r => rfl
  | @cons t f types fields htf _ ih =>
      obtain ⟨hf, hfields⟩ := List.forall_mem_cons.1 hoptional
      cases items with
      | nil =>
          have hrest := ih hfields (index + 1) s []
          rw [ofItems, if_neg (by simp [hf]), hrest]
          cases types <;> rfl
      | cons v r =>
          rw [ofItems, itemsFit, ← htf.2 v trivial]
          unfold Decoder.takes
          cases f.change.ofJson v with
          | error e => rfl
          | ok change => exact ih hfields (index + 1) (change s) r

/-- **A record takes the values of its types,** if no field has to be there. -/
theorem takes_record {name : String} {blank : σ} (h : Independent fields)
    (hagree : Agree (fun _ _ => True) types fields) (hoptional : ∀ f ∈ fields, f.required = false)
    {v : Json} (hv : Ordered v) : (record name fields blank).takes v = isRecordOf types v := by
  cases v with
  | obj members =>
      refine takes_record_obj h (ordered_obj.1 hv).1.distinct ?_ (hagree.mono fun _ _ _ => trivial)
      intro f hf hneeded
      cases (hoptional f hf).symm.trans hneeded
  | arr items => exact isOk_ofItems hagree hoptional 0 blank items
  | _ => rfl

end VideoSurvey.Json
