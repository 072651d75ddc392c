import VideoSurvey.Json.Decoder
import VideoSurvey.Proofs.Json.Values
import VideoSurvey.Proofs.Results

/-!
# Records out of members

`ofMembers` takes the members of an object in the order in which they stand. When each key stands
there once and the changes of two fields never hinder each other, the order is of no account: the
record is what the fields, one after the other, make of the members looked up under their keys
(`ofMembers_iff_applied`). `found` is what one field finds, and a record whose fields all find
something is read (`recordOfJson_obj`). What every field keeps, a record keeps, whether it is read
from an object or from an array (`record_invariant`).
-/

set_option autoImplicit false

namespace VideoSurvey.Json

open Results

variable {σ α β : Type}

/-! ## Values without brackets -/

theorem anyNumber_eq_ok {v : Json} {n : Decimal.Number} :
    anyNumber.ofJson v = .ok n ↔ v = .num n := by
  constructor
  · intro h
    cases v <;> cases h
    rfl
  · rintro rfl
    rfl

theorem table_eq_ok {v : Json} {members : Members} :
    table.ofJson v = .ok members ↔ v = .obj members := by
  constructor
  · intro h
    cases v <;> cases h
    rfl
  · rintro rfl
    rfl

theorem list_eq_ok {d : Decoder α} {v : Json} {found : List α} :
    (list d).ofJson v = .ok found ↔
      ∃ items, v = .arr items ∧ List.Forall₂ (fun v a => d.ofJson v = .ok a) items found := by
  constructor
  · intro h
    cases v with
    | arr items => exact ⟨items, rfl, mapM_eq_ok.1 h⟩
    | null => cases h
    | bool b => cases h
    | num n => cases h
    | str s => cases h
    | obj members => cases h
  · rintro ⟨items, rfl, h⟩
    exact mapM_eq_ok.2 h

theorem integer_eq_ok {wanted : Shape} {low high : Int} {v : Json} {n : Int}
    (h : (integer wanted low high).ofJson v = .ok n) : v = ofInt n ∧ low ≤ n ∧ n ≤ high := by
  unfold integer leaf at h
  simp only at h
  split at h
  · split at h
    · rename_i hrange
      cases h
      exact ⟨rfl, hrange⟩
    · cases h
  · cases h

theorem signed64_eq_ok {v : Json} {n : Int} (h : signed64.ofJson v = .ok n) : v = ofInt n :=
  (integer_eq_ok h).1

theorem unsigned64_eq_ok {v : Json} {n : Nat} (h : unsigned64.ofJson v = .ok n) :
    v = ofNat n ∧ (n : Int) ≤ 18446744073709551615 := by
  unfold unsigned64 Decoder.map at h
  simp only at h
  cases hm : (integer .unsigned64 0 18446744073709551615).ofJson v with
  | error e =>
      rw [hm] at h
      cases h
  | ok m =>
      rw [hm] at h
      cases h
      obtain ⟨hv, hlow, hhigh⟩ := integer_eq_ok hm
      rw [hv, ofNat, Int.toNat_of_nonneg hlow]
      exact ⟨rfl, hhigh⟩

/-! ## One field -/

/-- What a decoder makes of the member with a key, or a default where there is none. -/
def found (members : Members) (key : String) (d : Decoder α) (default : α) : Except Mismatch α :=
  match members.lookup key with
  | none => .ok default
  | some v => d.ofJson v

theorem found_eq_of_lookup {members members' : Members} {key : String}
    (h : members.lookup key = members'.lookup key) (d : Decoder α) (default : α) :
    found members key d default = found members' key d default := by
  rw [found, found, h]

theorem found_some {members : Members} {key : String} {v : Json}
    (h : members.lookup key = some v) (d : Decoder α) (default : α) :
    found members key d default = d.ofJson v := by
  rw [found, h]

theorem found_none {members : Members} {key : String} (h : members.lookup key = none)
    (d : Decoder α) (default : α) : found members key d default = .ok default := by
  rw [found, h]

theorem optional_eq_some {d : Decoder α} {v : Json} {a : α}
    (h : (optional d).ofJson v = .ok (some a)) : d.ofJson v = .ok a := by
  unfold optional at h
  simp only at h
  split at h
  · cases h
  · cases hd : d.ofJson v with
    | error e =>
        rw [hd] at h
        cases h
    | ok b =>
        rw [hd] at h
        cases h
        rfl

theorem optional_ofJson {v : Json} (h : v ≠ .null) (d : Decoder α) :
    (optional d).ofJson v = (d.ofJson v).map some := by
  cases v with
  | null => exact absurd rfl h
  | bool b => rfl
  | num n => rfl
  | str s => rfl
  | arr items => rfl
  | obj members => rfl

theorem found_eq_ok {members : Members} {key : String} {d : Decoder α} {default a : α}
    (h : found members key d default = .ok a) :
    a = default ∨ ∃ v, members.lookup key = some v ∧ d.ofJson v = .ok a := by
  cases hv : members.lookup key with
  | none =>
      rw [found_none hv] at h
      cases h
      exact .inl rfl
  | some v =>
      rw [found_some hv] at h
      exact .inr ⟨v, rfl, h⟩

/-- An option that was written, or left out, is found. -/
theorem found_optional {members : Members} {key : String} {d : Decoder α} {toJson : α → Json}
    {o : Option α} (h : members.lookup key = o.map toJson)
    (hread : ∀ a ∈ o, d.ofJson (toJson a) = .ok a) (hnull : ∀ a, toJson a ≠ .null) :
    found members key (optional d) none = .ok o := by
  cases o with
  | none => exact found_none h _ _
  | some a =>
      rw [found_some h, optional_ofJson (hnull a), hread a rfl]
      rfl

namespace RecordField

/-- The record after the change of the member that a field looks up. -/
def applied (f : RecordField σ) (members : Members) (s : σ) : Except Mismatch σ :=
  match members.lookup f.key with
  | none => .ok s
  | some v => do
      let change ← f.change.ofJson v
      .ok (change s)

/-- The changes of two fields can be made in either order. -/
def Commutes (f g : RecordField σ) : Prop :=
  ∀ v w a b s, f.change.ofJson v = .ok a → g.change.ofJson w = .ok b → a (b s) = b (a s)

theorem applied_congr {f : RecordField σ} {members members' : Members}
    (h : members.lookup f.key = members'.lookup f.key) (s : σ) :
    f.applied members s = f.applied members' s := by
  rw [applied, applied, h]

theorem change_eq_ok {key : String} {isRequired : Bool} {d : Decoder α} {set : α → σ → σ}
    {v : Json} {change : σ → σ}
    (h : (⟨key, isRequired, d.map set⟩ : RecordField σ).change.ofJson v = .ok change) :
    ∃ a, d.ofJson v = .ok a ∧ change = set a := by
  have h' : (d.ofJson v).map set = .ok change := h
  cases hd : d.ofJson v with
  | error e =>
      rw [hd] at h'
      cases h'
  | ok a =>
      rw [hd] at h'
      cases h'
      exact ⟨a, rfl, rfl⟩

/-- Fields that set different parts of a record commute. -/
theorem commutes_of_set {key key' : String} {isRequired isRequired' : Bool} {d : Decoder α}
    {d' : Decoder β} {set : α → σ → σ} {set' : β → σ → σ}
    (h : ∀ a b s, set a (set' b s) = set' b (set a s)) :
    Commutes ⟨key, isRequired, d.map set⟩ ⟨key', isRequired', d'.map set'⟩ := by
  intro v w a b s ha hb
  obtain ⟨x, -, rfl⟩ := change_eq_ok ha
  obtain ⟨y, -, rfl⟩ := change_eq_ok hb
  exact h x y s

/-- A field sets what it finds, where the default is what the record begins with. -/
theorem applied_eq_found {key : String} {isRequired : Bool} {d : Decoder α} {set : α → σ → σ}
    {members : Members} {s : σ} (default : α) (hdefault : set default s = s) :
    (⟨key, isRequired, d.map set⟩ : RecordField σ).applied members s =
      (found members key d default).map fun a => set a s := by
  unfold applied found
  simp only
  cases members.lookup key with
  | none => exact congrArg Except.ok hdefault.symm
  | some v =>
      simp only [Decoder.map]
      cases d.ofJson v with
      | error e => rfl
      | ok a => rfl

theorem applied_commute {f g : RecordField σ} (h : g.Commutes f) {v : Json} {change : σ → σ}
    (hchange : f.change.ofJson v = .ok change) (members : Members) (s : σ) :
    g.applied members (change s) = (g.applied members s).map change := by
  unfold applied
  cases members.lookup g.key with
  | none => rfl
  | some w =>
      simp only
      cases hg : g.change.ofJson w with
      | error e => rfl
      | ok b => exact congrArg Except.ok (h w v b change s hg hchange)

end RecordField

/-! ## All fields -/

/-- The record after the changes of some fields, in the order of the fields. -/
def applied : List (RecordField σ) → Members → σ → Except Mismatch σ
  | [], _, s => .ok s
  | f :: fields, members, s => do
      let s ← f.applied members s
      applied fields members s

/-- Fields with different keys and changes that can be made in any order. -/
def Independent (fields : List (RecordField σ)) : Prop :=
  fields.Pairwise fun f g => f.key ≠ g.key ∧ f.Commutes g

theorem applied_cons (f : RecordField σ) (fields : List (RecordField σ)) (members : Members)
    (s : σ) :
    applied (f :: fields) members s = f.applied members s >>= applied fields members := rfl

/-- Fields set what they find, the first one first, where the default is what the record begins
with. -/
theorem applied_cons_eq_ok {key : String} {isRequired : Bool} {d : Decoder α} {set : α → σ → σ}
    {fields : List (RecordField σ)} {members : Members} {s s' : σ} (default : α)
    (hdefault : set default s = s) :
    applied (⟨key, isRequired, d.map set⟩ :: fields) members s = .ok s' ↔
      ∃ a, found members key d default = .ok a ∧ applied fields members (set a s) = .ok s' := by
  rw [applied_cons, RecordField.applied_eq_found default hdefault]
  cases found members key d default with
  | error e =>
      constructor
      · intro h
        cases h
      · rintro ⟨a, h, -⟩
        cases h
  | ok a =>
      constructor
      · intro h
        exact ⟨a, rfl, h⟩
      · rintro ⟨b, h, h'⟩
        cases h
        exact h'

theorem applied_congr {fields : List (RecordField σ)} {members members' : Members}
    (h : ∀ f ∈ fields, members.lookup f.key = members'.lookup f.key) (s : σ) :
    applied fields members s = applied fields members' s := by
  induction fields generalizing s with
  | nil => rfl
  | cons f fields ih =>
      rw [applied_cons, applied_cons, RecordField.applied_congr (h f List.mem_cons_self)]
      cases f.applied members' s with
      | error e => rfl
      | ok s' => exact ih (fun g hg => h g (List.mem_cons_of_mem f hg)) s'

theorem applied_nil_members (fields : List (RecordField σ)) (s : σ) :
    applied fields [] s = .ok s := by
  induction fields with
  | nil => rfl
  | cons f fields ih => exact ih

/-- The changes of all fields can be made exactly when the change of each field can be told. -/
theorem exists_applied_iff {fields : List (RecordField σ)} {members : Members} {s : σ} :
    (∃ s', applied fields members s = .ok s') ↔
      ∀ f ∈ fields, ∀ v, members.lookup f.key = some v →
        ∃ change, f.change.ofJson v = .ok change := by
  induction fields generalizing s with
  | nil => exact ⟨fun _ f hf => absurd hf List.not_mem_nil, fun _ => ⟨s, rfl⟩⟩
  | cons f fields ih =>
      rw [List.forall_mem_cons]
      cases hlookup : members.lookup f.key with
      | none =>
          have hstep : applied (f :: fields) members s = applied fields members s := by
            rw [applied_cons, RecordField.applied, hlookup]
            rfl
          rw [hstep]
          exact ih.trans (and_iff_right fun v hv => nomatch hv).symm
      | some v =>
          have hstep : applied (f :: fields) members s =
              (f.change.ofJson v).bind fun change => applied fields members (change s) := by
            rw [applied_cons, RecordField.applied, hlookup]
            simp only
            cases f.change.ofJson v with
            | error e => rfl
            | ok change => rfl
          rw [hstep]
          cases hchange : f.change.ofJson v with
          | error e =>
              refine iff_of_false ?_ ?_
              · rintro ⟨s', h⟩
                cases h
              · rintro ⟨h, -⟩
                obtain ⟨change, hv⟩ := h v rfl
                cases hchange.symm.trans hv
          | ok change =>
              refine Iff.trans (ih (s := change s)) (and_iff_right ?_).symm
              rintro w ⟨⟩
              exact ⟨change, hchange⟩

/-- The change of a member may be made before all others. -/
theorem applied_cons_member {fields : List (RecordField σ)} (h : Independent fields)
    {f : RecordField σ} (hf : f ∈ fields) {members : Members}
    (hmembers : members.lookup f.key = none) (v : Json) {s s' : σ} :
    applied fields ((f.key, v) :: members) s = .ok s' ↔
      ∃ change, f.change.ofJson v = .ok change ∧ applied fields members (change s) = .ok s' := by
  have hself : Members.lookup f.key ((f.key, v) :: members) = some v := by
    rw [Members.lookup_cons, if_pos rfl]
  have hother : ∀ g : RecordField σ, f.key ≠ g.key →
      Members.lookup g.key ((f.key, v) :: members) = members.lookup g.key := by
    intro g hne
    rw [Members.lookup_cons, if_neg hne]
  induction fields generalizing s with
  | nil => cases hf
  | cons g fields ih =>
      obtain ⟨hhead, htail⟩ := List.pairwise_cons.1 h
      rw [applied_cons, bind_eq_ok]
      rcases List.mem_cons.1 hf with rfl | hmem
      · -- the member is that of the first field, and the fields behind it do not see it
        have hrest : ∀ s, applied fields ((f.key, v) :: members) s = applied fields members s :=
          applied_congr fun g hg => hother g (hhead g hg).1
        have hhere : f.applied ((f.key, v) :: members) s =
            f.change.ofJson v >>= fun change => .ok (change s) := by
          rw [RecordField.applied, hself]
        have hnone : ∀ s, f.applied members s = .ok s := by
          intro s
          rw [RecordField.applied, hmembers]
        rw [hhere]
        constructor
        · rintro ⟨s1, hs1, h'⟩
          obtain ⟨change, hchange, hs1⟩ := bind_eq_ok.1 hs1
          cases hs1
          refine ⟨change, hchange, ?_⟩
          rw [applied_cons, hnone]
          exact (hrest _).symm.trans h'
        · rintro ⟨change, hchange, h'⟩
          rw [applied_cons, hnone] at h'
          exact ⟨change s, bind_eq_ok.2 ⟨change, hchange, rfl⟩, (hrest _).trans h'⟩
      · -- the member is that of a later field, whose change commutes with the first one
        have hne := Ne.symm (hhead f hmem).1
        rw [RecordField.applied_congr (hother g hne)]
        constructor
        · rintro ⟨s1, hs1, h'⟩
          obtain ⟨change, hchange, h'⟩ := (ih htail hmem).1 h'
          refine ⟨change, hchange, ?_⟩
          rw [applied_cons, RecordField.applied_commute (hhead f hmem).2 hchange, hs1]
          exact h'
        · rintro ⟨change, hchange, h'⟩
          rw [applied_cons, RecordField.applied_commute (hhead f hmem).2 hchange] at h'
          obtain ⟨s1, hs1, h'⟩ := bind_eq_ok.1 h'
          cases hg : g.applied members s with
          | error e =>
              rw [hg] at hs1
              cases hs1
          | ok s2 =>
              rw [hg] at hs1
              cases hs1
              exact ⟨s2, rfl, (ih htail hmem).2 ⟨change, hchange, h'⟩⟩

theorem field?_eq_some {fields : List (RecordField σ)} {key : String} {f : RecordField σ}
    (h : field? fields key = some f) : f ∈ fields ∧ f.key = key := by
  unfold field? at h
  refine ⟨List.mem_of_find?_eq_some h, ?_⟩
  simpa using List.find?_some h

theorem field?_eq_none {fields : List (RecordField σ)} {key : String}
    (h : field? fields key = none) : ∀ f ∈ fields, f.key ≠ key := by
  intro f hf
  simpa using List.find?_eq_none.1 h f hf

/-- **The order of the members is of no account.** -/
theorem ofMembers_iff_applied {fields : List (RecordField σ)} (h : Independent fields)
    {members : Members} (hmembers : members.Distinct) {seen : List String}
    (hseen : ∀ m ∈ members, m.1 ∉ seen) {s s' : σ} :
    (∃ seen', ofMembers fields seen s members = .ok (seen', s')) ↔
      applied fields members s = .ok s' := by
  induction members generalizing seen s with
  | nil =>
      rw [applied_nil_members]
      constructor
      · rintro ⟨seen', h'⟩
        cases h'
        rfl
      · intro h'
        cases h'
        exact ⟨seen, rfl⟩
  | cons m r ih =>
      obtain ⟨key, v⟩ := m
      obtain ⟨hhead, htail⟩ := List.pairwise_cons.1 hmembers
      have hrest : ∀ m ∈ r, m.1 ∉ seen := fun m hm => hseen m (List.mem_cons_of_mem _ hm)
      cases hfield : field? fields key with
      | none =>
          -- a member of no field is passed over on both sides
          have hskip : ofMembers fields seen s ((key, v) :: r) = ofMembers fields seen s r := by
            rw [ofMembers, hfield]
          have hunseen : applied fields ((key, v) :: r) s = applied fields r s := by
            refine applied_congr ?_ s
            intro f hf
            rw [Members.lookup_cons, if_neg (Ne.symm (field?_eq_none hfield f hf))]
          rw [hskip, hunseen]
          exact ih htail hrest
      | some f =>
          obtain ⟨hf, rfl⟩ := field?_eq_some hfield
          -- the key is met for the first time, so it is not refused as met twice
          have hnew : ¬ seen.contains f.key = true := by
            simpa using hseen _ List.mem_cons_self
          have hrest' : ∀ m ∈ r, m.1 ∉ f.key :: seen := by
            intro m hm hmem
            rcases List.mem_cons.1 hmem with heq | hmem
            · exact hhead m hm heq.symm
            · exact hrest m hm hmem
          have hnone : Members.lookup f.key r = none :=
            Members.lookup_eq_none.2 fun m hm => Ne.symm (hhead m hm)
          have hstep : ofMembers fields seen s ((f.key, v) :: r) = (do
              let change ← f.change.ofJson v
              ofMembers fields (f.key :: seen) (change s) r) := by
            rw [ofMembers, hfield]
            exact if_neg hnew
          rw [hstep, applied_cons_member h hf hnone]
          constructor
          · rintro ⟨seen', h'⟩
            obtain ⟨change, hchange, h'⟩ := bind_eq_ok.1 h'
            exact ⟨change, hchange, (ih htail hrest').1 ⟨seen', h'⟩⟩
          · rintro ⟨change, hchange, h'⟩
            obtain ⟨seen', h'⟩ := (ih htail hrest').2 h'
            exact ⟨seen', bind_eq_ok.2 ⟨change, hchange, h'⟩⟩

/-! ## Whole records -/

/-- Each member of a field is met. -/
theorem mem_seen {fields : List (RecordField σ)} {members : Members} {seen seen' : List String}
    {s s' : σ} (h : ofMembers fields seen s members = .ok (seen', s')) {key : String}
    (hkey : key ∈ seen ∨ (field? fields key).isSome ∧ (members.lookup key).isSome) :
    key ∈ seen' := by
  induction members generalizing seen s with
  | nil =>
      cases h
      rcases hkey with hseen | ⟨-, hnone⟩
      · exact hseen
      · cases hnone
  | cons m r ih =>
      obtain ⟨key', v⟩ := m
      rw [Members.lookup_cons] at hkey
      unfold ofMembers at h
      split at h
      · rename_i hfield
        refine ih h (hkey.imp_right ?_)
        rintro ⟨hknown, hsome⟩
        refine ⟨hknown, ?_⟩
        by_cases heq : key' = key
        · rw [← heq, hfield] at hknown
          cases hknown
        · rwa [if_neg heq] at hsome
      · split at h
        · cases h
        · obtain ⟨change, -, h⟩ := bind_eq_ok.1 h
          apply ih h
          rcases hkey with hseen | ⟨hknown, hsome⟩
          · exact .inl (List.mem_cons_of_mem key' hseen)
          · by_cases heq : key' = key
            · exact .inl (heq ▸ List.mem_cons_self)
            · rw [if_neg heq] at hsome
              exact .inr ⟨hknown, hsome⟩

theorem Independent.distinct {fields : List (RecordField σ)} (h : Independent fields)
    {members : Members} (hkeys : (members.map Prod.fst).Sublist (fields.map RecordField.key)) :
    members.Distinct := by
  have hfields : (fields.map RecordField.key).Nodup :=
    List.pairwise_map.2 (h.imp fun hfg => hfg.1)
  exact List.pairwise_map.1 (hfields.sublist hkeys)

/-- Of fields that may all be left out, nothing is asked. -/
theorem forall_required {fields : List (RecordField σ)} {P : RecordField σ → Prop}
    (h : (fields.all fun f => !f.required) = true) : ∀ f ∈ fields, f.required = true → P f := by
  intro f hf hneeded
  have hdefaulted := List.all_eq_true.1 h f hf
  rw [hneeded] at hdefaulted
  cases hdefaulted

/-- **A record is read from an object** whose members the fields accept and where no required one
is missing. -/
theorem recordOfJson_obj {wanted : Shape} {short long : Quota} {fields : List (RecordField σ)}
    {blank s : σ} (h : Independent fields) {members : Members} (hmembers : members.Distinct)
    (hrequired : ∀ f ∈ fields, f.required = true → (members.lookup f.key).isSome)
    (happlied : applied fields members blank = .ok s) :
    recordOfJson wanted short long fields blank (.obj members) = .ok s := by
  obtain ⟨seen, hread⟩ :=
    (ofMembers_iff_applied h hmembers (fun _ _ => List.not_mem_nil)).2 happlied
  have hnone : missing? fields seen = none := by
    refine Option.map_eq_none_iff.2 (List.find?_eq_none.2 ?_)
    intro f hf hmissing
    obtain ⟨hneeded, hunseen⟩ := Bool.and_eq_true_iff.1 hmissing
    have hknown : (field? fields f.key).isSome := by
      refine List.find?_isSome.2 ⟨f, hf, ?_⟩
      exact decide_eq_true rfl
    -- a required field whose member stands there cannot have gone unseen
    have hseen := mem_seen hread (.inr ⟨hknown, hrequired f hf hneeded⟩)
    simp [hseen] at hunseen
  simp only [recordOfJson, hread, bind, Except.bind, hnone]

theorem record_ofJson (name : String) (fields : List (RecordField σ)) (blank : σ) (v : Json) :
    (record name fields blank).ofJson v =
      recordOfJson (.record name) (.record name fields.length) .fewer fields blank v := rfl

/-- A record is read back from the members that it is written as, once they are put in order. -/
theorem record_sortKeys {name : String} {fields : List (RecordField σ)} {blank s : σ}
    (h : Independent fields) {members : Members}
    (hkeys : (members.map Prod.fst).Sublist (fields.map RecordField.key))
    (hrequired : ∀ f ∈ fields, f.required = true → (members.lookup f.key).isSome)
    (happlied : ∀ read : Members,
      (∀ key, Members.lookup key read = (members.lookup key).map sortKeys) →
        applied fields read blank = .ok s) :
    (record name fields blank).ofJson (sortKeys (.obj members)) = .ok s := by
  have hlookup := lookup_sortKeys (h.distinct hkeys)
  rw [sortKeys_obj, record_ofJson]
  refine recordOfJson_obj h (Members.sorted_sorted _).distinct ?_ (happlied _ hlookup)
  intro f hf hneeded
  rw [hlookup, Option.isSome_map]
  exact hrequired f hf hneeded

section Invariant

variable {P : σ → Prop} {Q : Json → Prop} {fields : List (RecordField σ)}

theorem ofMembers_invariant
    (hchange : ∀ f ∈ fields, ∀ v change s, Q v → f.change.ofJson v = .ok change → P s →
      P (change s))
    {members : Members} (hmembers : ∀ m ∈ members, Q m.2) {seen seen' : List String} {s s' : σ}
    (hs : P s) (h : ofMembers fields seen s members = .ok (seen', s')) : P s' := by
  induction members generalizing seen s with
  | nil =>
      cases h
      exact hs
  | cons m r ih =>
      have hrest : ∀ m ∈ r, Q m.2 := fun m' hm => hmembers m' (List.mem_cons_of_mem m hm)
      unfold ofMembers at h
      split at h
      · exact ih hrest hs h
      · rename_i f hfield
        split at h
        · cases h
        · obtain ⟨change, hv, h⟩ := bind_eq_ok.1 h
          have hm := hmembers m List.mem_cons_self
          exact ih hrest (hchange f (field?_eq_some hfield).1 _ change s hm hv hs) h

theorem ofItems_invariant {short : Quota} {long : Mismatch}
    (hchange : ∀ f ∈ fields, ∀ v change s, Q v → f.change.ofJson v = .ok change → P s →
      P (change s))
    {items : List Json} (hitems : ∀ v ∈ items, Q v) {index : Nat} {s s' : σ} (hs : P s)
    (h : ofItems short long fields index s items = .ok s') : P s' := by
  -- an array gives its items to the fields in their order, so the induction is on the fields
  induction fields generalizing items index s with
  | nil =>
      cases items with
      | nil =>
          cases h
          exact hs
      | cons v r => cases h
  | cons f fields ih =>
      have hfields : ∀ g ∈ fields, ∀ v change s, Q v → g.change.ofJson v = .ok change → P s →
          P (change s) := fun g hg => hchange g (List.mem_cons_of_mem f hg)
      cases items with
      | nil =>
          -- too few items: a required field fails, and any other keeps what the record holds
          unfold ofItems at h
          split at h
          · cases h
          · exact ih hfields hitems hs h
      | cons v r =>
          obtain ⟨change, hv, h⟩ := bind_eq_ok.1 h
          have hs' := hchange f List.mem_cons_self v change s (hitems v List.mem_cons_self) hv hs
          exact ih hfields (fun w hw => hitems w (List.mem_cons_of_mem v hw)) hs' h

/-- **What every field keeps, a record keeps**, in whichever form it is read. -/
theorem record_invariant {name : String} {blank s : σ}
    (hchange : ∀ f ∈ fields, ∀ v change s, Q v → f.change.ofJson v = .ok change → P s →
      P (change s))
    (hblank : P blank) {v : Json} (hparts : v.Each Q)
    (h : (record name fields blank).ofJson v = .ok s) : P s := by
  rw [record_ofJson] at h
  unfold recordOfJson at h
  split at h
  · rename_i members
    obtain ⟨⟨seen, s1⟩, hread, h⟩ := bind_eq_ok.1 h
    simp only at h
    split at h
    · cases h
    · cases h
      exact ofMembers_invariant hchange hparts hblank hread
  · rename_i items
    exact ofItems_invariant hchange hparts hblank h
  · cases h

end Invariant

end VideoSurvey.Json
