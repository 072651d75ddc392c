import VideoSurvey.Json.Decoder
import VideoSurvey.Proofs.Json.RoundTrip
import VideoSurvey.Proofs.Results

/-!
# Decoding what was written

A decoder reads a text directly, without making a value first. `Decoder.Reads` says that it takes a
written value to `a`, in whichever layout the value is written, and each combinator has a rule for
it: values without brackets (`reads_leaf`), lists, choices by name, variants whose tag stands first,
and records. A record is read from members in any order (`MembersRead`), which hold when they stand
in the order of the fields (`FieldsRead`); a record that keeps its other members is read by the same
rule (`readsBack_open`). For a whole text this is `Decoder.Reads.ofText`.
-/

set_option autoImplicit false

namespace VideoSurvey.Json

open Cursor (isSpace)

variable {α β σ : Type}

/-- A decoder takes a value to `a` in whichever layout it is written, where brackets may be nested
as deep as the value is. -/
structure Decoder.Reads (d : Decoder α) (v : Json) (a : α) : Prop where
  whole : v.hasWholeNumbers = true
  back : ∀ (l : Layout) (level room : Nat), v.depth ≤ room →
    ReadsBack (d.read room) (written l level v) a

namespace Decoder.Reads

/-- **A decoder reads the compact text of a value.** -/
theorem ofText {d : Decoder α} {v : Json} {a : α} (h : d.Reads v a)
    (hdepth : v.depth ≤ greatestDepth) : d.ofText v.compactText = .ok a := by
  have hread := (h.back .compact 0 greatestDepth hdepth).here endsNumber_nil Position.start
  rw [List.append_nil, written_compact] at hread
  have htext : Cursor.ofText v.compactText = ⟨compact v, Position.start⟩ := by
    simp [Cursor.ofText, compactText]
  unfold Decoder.ofText readWhole
  rw [htext, hread]
  rfl

theorem map {d : Decoder α} {v : Json} {a : α} (h : d.Reads v a) (f : α → β) :
    (d.map f).Reads v (f a) := by
  refine ⟨h.whole, fun l level room hdepth b hb rest hrest p => ?_⟩
  unfold Decoder.map
  simp only [h.back l level room hdepth b hb rest hrest p]
  rfl

end Decoder.Reads

/-! ## Values without brackets -/

theorem reads_leaf {wanted : Shape} {accept : Json → Except Mismatch α} {v : Json} {a : α}
    (hwhole : v.hasWholeNumbers = true) (hflat : v.depth = 0) (haccept : accept v = .ok a) :
    (leaf wanted accept).Reads v a := by
  refine ⟨hwhole, fun l level room _ b hb rest hrest p => ?_⟩
  obtain ⟨c, s, htext, hspace, hlist, hobject, hscalar⟩ := scalar_written l level hwhole hflat
  rw [htext, List.cons_append]
  unfold leaf
  simp only [skipSpace_blank_cons hb hspace]
  split
  -- neither the end of the text nor a bracket: the value begins with `c`
  · rename_i heq
    cases heq
  · rename_i heq
    exact absurd (List.cons.inj heq).1 hlist
  · rename_i heq
    exact absurd (List.cons.inj heq).1 hobject
  · simp only [hscalar rest hrest, bind, Except.bind, haccept]

theorem reads_text (s : String) : text.Reads (.str s) s := reads_leaf rfl rfl rfl

theorem reads_integer {wanted : Shape} {low high n : Int} (hlow : low ≤ n) (hhigh : n ≤ high)
    (hleast : leastInteger ≤ n) (hgreatest : n ≤ greatestInteger) :
    (integer wanted low high).Reads (.num (.integer n)) n :=
  reads_leaf (hasWholeNumbers_integer.2 ⟨hleast, hgreatest⟩) rfl (if_pos ⟨hlow, hhigh⟩)

/-- A natural number is read by the decoders for naturals. -/
theorem reads_natural {wanted : Shape} {high n : Nat} (hn : n ≤ high)
    (hhigh : (high : Int) ≤ greatestInteger) :
    ((integer wanted 0 high).map Int.toNat).Reads (ofNat n) n := by
  have hle : (n : Int) ≤ high := Int.ofNat_le.2 hn
  have h : (integer wanted 0 high).Reads (ofNat n) n :=
    reads_integer (Int.natCast_nonneg n) hle (by unfold leastInteger; omega)
      (Int.le_trans hle hhigh)
  exact h.map Int.toNat

theorem reads_unsigned64 {n : Nat} (hn : n ≤ 18446744073709551615) :
    unsigned64.Reads (ofNat n) n := reads_natural hn (by decide)

theorem reads_unsigned32 {n : Nat} (hn : n ≤ 4294967295) : unsigned32.Reads (ofNat n) n :=
  reads_natural hn (by decide)

theorem reads_count64 {n : Nat} (hn : n ≤ 18446744073709551615) : count64.Reads (ofNat n) n :=
  reads_natural hn (by decide)

theorem reads_signed64 {n : Int} (hlow : -9223372036854775808 ≤ n)
    (hhigh : n ≤ 9223372036854775807) : signed64.Reads (ofInt n) n :=
  reads_integer hlow hhigh hlow (Int.le_trans hhigh (by decide))

theorem reads_anyNumber {n : Int} (hlow : leastInteger ≤ n) (hhigh : n ≤ greatestInteger) :
    anyNumber.Reads (ofInt n) (.integer n) := by
  have hwhole : hasWholeNumbers (ofInt n) = true := hasWholeNumbers_integer.2 ⟨hlow, hhigh⟩
  refine ⟨hwhole, fun l level room _ b hb rest hrest p => ?_⟩
  obtain ⟨c, s, htext, hspace, hlist, hobject, hscalar⟩ := scalar_written l level hwhole rfl
  rw [htext, List.cons_append]
  unfold anyNumber
  simp only [skipSpace_blank_cons hb hspace]
  split
  · rename_i heq
    exact absurd (List.cons.inj heq).1 hlist
  · rename_i heq
    exact absurd (List.cons.inj heq).1 hobject
  · simp only [hscalar rest hrest, bind, Except.bind]
    rfl

theorem reads_optional {d : Decoder α} {v : Json} {a : α} (h : d.Reads v a) (hv : v ≠ .null) :
    (optional d).Reads v (some a) := by
  refine ⟨h.whole, fun l level room hdepth b hb rest hrest p => ?_⟩
  obtain ⟨c, t, htext, hspace, -, hnull⟩ := head_written l level h.whole
  have hread := (h.back l level room hdepth).here hrest (p.afterAll b)
  rw [htext, List.cons_append] at hread ⊢
  unfold optional
  simp only [skipSpace_blank_cons hb hspace]
  split
  · rename_i heq
    exact absurd (List.cons.inj heq).1 (hnull hv)
  · rw [hread]
    rfl

/-! ## Any value -/

theorem reads_anything {v : Json} (hordered : Ordered v) (hwhole : v.hasWholeNumbers = true) :
    anything.Reads v v := by
  refine ⟨hwhole, fun l level room hdepth => ?_⟩
  have hread := value_written l hwhole hdepth level
  rw [sortKeys_of_ordered hordered] at hread
  exact hread

theorem reads_table {members : Members} (hordered : Ordered (.obj members))
    (hwhole : (Json.obj members).hasWholeNumbers = true) : table.Reads (.obj members) members := by
  refine ⟨hwhole, fun l level room hdepth b hb rest hrest p => ?_⟩
  obtain ⟨room, rfl⟩ : ∃ k, room = k + 1 := ⟨room - 1, by have := depth_obj_pos members; omega⟩
  have heach := hasWholeNumbers_obj.1 hwhole
  obtain ⟨hsorted, hvalues⟩ := ordered_obj.1 hordered
  have hitems : ∀ m ∈ members, ReadsBack (value room) (written l (level + 1) m.2) (id m.2) :=
    fun m hm => (reads_anything (hvalues m hm) (heach m hm)).back l (level + 1) room
      (depth_obj_le.1 hdepth m hm)
  have hbody := enclosed_membersBody l level hitems rest ((p.afterAll b).after '\x7b')
  have hbracket : isSpace '\x7b' = false := rfl
  have hnested : nested (room + 1) (fun room => enclosed closeObject (Json.members (value room)))
      ⟨'\x7b' :: (membersBody l level members ++ rest), p.afterAll b⟩ = _ := hbody
  rw [written_obj, List.cons_append]
  unfold table
  simp only [skipSpace_blank_cons hb hbracket, hnested, bind, Except.bind, id_eq, List.map_id',
    hsorted.sorted_eq]
  rfl

/-! ## Lists -/

theorem readsBack_items {d : Decoder α} {items : List Json} {found : List α}
    (h : List.Forall₂ d.Reads items found) {room : Nat} (hdepth : ∀ v ∈ items, v.depth ≤ room)
    (l : Layout) (level : Nat) :
    List.Forall₂ (fun v a => ReadsBack (d.read room) (written l level v) a) items found := by
  induction h with
  | nil => exact .nil
  | @cons v a items found hv _ ih =>
      exact .cons (hv.back l level room (hdepth v List.mem_cons_self))
        (ih fun w hw => hdepth w (List.mem_cons_of_mem v hw))

theorem reads_list {d : Decoder α} {items : List Json} {found : List α}
    (h : List.Forall₂ d.Reads items found) : (list d).Reads (.arr items) found := by
  have hwhole : ∀ v ∈ items, v.hasWholeNumbers = true := by
    intro v hv
    have hflip : List.Forall₂ (fun a v => d.Reads v a) found items := h.flip
    obtain ⟨a, -, hva⟩ := Results.exists_of_forall₂ hflip hv
    exact hva.whole
  refine ⟨hasWholeNumbers_arr.2 hwhole, fun l level room hdepth b hb rest hrest p => ?_⟩
  obtain ⟨room, rfl⟩ : ∃ k, room = k + 1 := ⟨room - 1, by have := depth_arr_pos items; omega⟩
  have hbody := enclosed_itemsBody l level hwhole
    (readsBack_items h (depth_arr_le.1 hdepth) l (level + 1)) rest ((p.afterAll b).after '[')
  have hbracket : isSpace '[' = false := rfl
  rw [written_arr, List.cons_append]
  unfold list
  simp only [skipSpace_blank_cons hb hbracket]
  exact hbody

/-! ## Records -/

section Records

variable {fields : List (RecordField σ)} {others : String → Decoder (σ → σ)} {room : Nat}

/-- How a record decodes the member with a key. -/
def memberDecoder (fields : List (RecordField σ)) (others : String → Decoder (σ → σ))
    (key : String) : Decoder (σ → σ) :=
  match field? fields key with
  | some f => f.change
  | none => others key

theorem memberDecoder_field {key : String} {f : RecordField σ} (h : field? fields key = some f) :
    memberDecoder fields others key = f.change := by
  unfold memberDecoder
  rw [h]

theorem memberDecoder_other {key : String} (h : field? fields key = none) :
    memberDecoder fields others key = others key := by
  unfold memberDecoder
  rw [h]

/-- Members that are read one after the other, and what they make of a record. -/
inductive MembersRead (fields : List (RecordField σ)) (others : String → Decoder (σ → σ)) :
    Members → σ → σ → Prop
  | nil (s : σ) : MembersRead fields others [] s s
  | cons {key : String} {v : Json} {members : Members} {change : σ → σ} {s s' : σ}
      (hv : (memberDecoder fields others key).Reads v change)
      (hrest : MembersRead fields others members (change s) s') :
      MembersRead fields others ((key, v) :: members) s s'

theorem MembersRead.whole {members : Members} {s s' : σ}
    (h : MembersRead fields others members s s') :
    ∀ m ∈ members, m.2.hasWholeNumbers = true := by
  induction h with
  | nil s => exact List.forall_mem_nil _
  | cons hv _ ih => exact List.forall_mem_cons.2 ⟨hv.whole, ih⟩

/-- A member that a field reads. -/
theorem MembersRead.field {key : String} {required : Bool} {d : Decoder α} {set : α → σ → σ}
    (hfield : field? fields key = some ⟨key, required, d.map set⟩) {v : Json} {a : α}
    (hv : d.Reads v a) {members : Members} {s s' : σ}
    (hrest : MembersRead fields others members (set a s) s') :
    MembersRead fields others ((key, v) :: members) s s' := by
  refine .cons ?_ hrest
  rw [memberDecoder_field hfield]
  exact hv.map set

theorem field?_isSome_of_mem {f : RecordField σ} (hf : f ∈ fields) :
    (field? fields f.key).isSome = true :=
  List.find?_isSome.2 ⟨f, hf, decide_eq_true rfl⟩

/-- The keys of the fields seen so far, when a member with a key has been read. -/
def noted (fields : List (RecordField σ)) (seen : List String) (key : String) : List String :=
  if (field? fields key).isSome then key :: seen else seen

theorem mem_noted {seen : List String} {key k : String} :
    k ∈ noted fields seen key ↔ (k = key ∧ (field? fields key).isSome = true) ∨ k ∈ seen := by
  unfold noted
  by_cases h : (field? fields key).isSome = true
  · rw [if_pos h, List.mem_cons]
    simp [h]
  · rw [if_neg h]
    simp [h]

variable (l : Layout) (level : Nat)

/-- A member is read by the field that has its key, or as the others are. -/
theorem readMembers_member {key : String} {seen : List String} (hseen : key ∉ seen) {v : Json}
    {change : σ → σ} (hv : (memberDecoder fields others key).Reads v change)
    (hdepth : v.depth ≤ room) {rest : List Char} (hrest : EndsNumber rest) {isFirst : Bool}
    {c : Cursor} {p : Position}
    (hmore : (moreMembers isFirst).reader c =
      .ok (true, ⟨writtenMember l level key v ++ rest, p⟩)) (fuel : Nat) (s : σ) :
    readMembers fields others room (fuel + 1) isFirst seen s c =
      readMembers fields others room fuel false (noted fields seen key) (change s)
        ⟨rest, p.afterAll (writtenMember l level key v)⟩ := by
  obtain ⟨c1, c2, hstring, hcolon, hvalue⟩ :=
    member_written l level (f := fun _ => change) key (hv.back l (level + 1) room hdepth) hrest p
  have hnew : seen.contains key = false := by simpa using hseen
  rw [readMembers]
  cases hfield : field? fields key with
  | none =>
      rw [memberDecoder_other hfield] at hvalue
      simp only [hmore, bind, Except.bind, if_true, hstring, hfield, hcolon, hvalue, noted,
        Option.isSome_none, Bool.false_eq_true, if_false]
  | some f =>
      rw [memberDecoder_field hfield] at hvalue
      simp only [hmore, bind, Except.bind, if_true, hstring, hfield, hnew, hcolon, hvalue, noted,
        Option.isSome_some, Bool.false_eq_true, if_false]

/-- The members after the first are read up to the closing bracket. -/
theorem readMembers_written {members : Members} {s s' : σ}
    (h : MembersRead fields others members s s') (hdistinct : members.Distinct)
    (hdepth : ∀ m ∈ members, m.2.depth ≤ room) {seen : List String}
    (hseen : ∀ m ∈ members, m.1 ∉ seen) {fuel : Nat} (hfuel : members.length < fuel)
    (rest : List Char) (p : Position) :
    ∃ q seen', readMembers fields others room fuel false seen s
          ⟨writtenMembers l level members ++ rest, p⟩ =
        .ok ((seen', s'), ⟨'\x7d' :: rest, q⟩) ∧
      q.after '\x7d' = p.afterAll (writtenMembers l level members) ∧ seen ⊆ seen' ∧
      ∀ m ∈ members, (field? fields m.1).isSome = true → m.1 ∈ seen' := by
  -- one unit of fuel is spent on each member and one on the closing bracket
  obtain ⟨fuel, rfl⟩ : ∃ k, fuel = k + 1 := ⟨fuel - 1, by omega⟩
  induction h generalizing seen fuel p with
  | nil s =>
      refine ⟨p.afterAll (l.newLine level), seen, ?_, after_writtenMembers_nil l level p,
        List.Subset.refl seen, List.forall_mem_nil _⟩
      rw [readMembers]
      simp only [reader_eq_ok (moreMembers_written_nil l level rest p false), bind, Except.bind,
        Bool.false_eq_true, if_false]
  | @cons key v members change s s' hv hrest ih =>
      obtain ⟨hnew, hdistinct⟩ := List.pairwise_cons.1 hdistinct
      obtain ⟨fuel, rfl⟩ : ∃ k, fuel = k + 1 :=
        ⟨fuel - 1, by rw [List.length_cons] at hfuel; omega⟩
      have hstep := readMembers_member l level (hseen _ List.mem_cons_self) hv
        (hdepth _ List.mem_cons_self) (endsNumber_writtenMembers l level members rest)
        (reader_eq_ok (moreMembers_written l level key v members rest p)) (fuel + 1) s
      -- no member that is left has the key just read
      have hseen' : ∀ m ∈ members, m.1 ∉ noted fields seen key := by
        intro m hm hmem
        rcases mem_noted.1 hmem with ⟨heq, -⟩ | hmem
        · exact hnew m hm heq.symm
        · exact hseen m (List.mem_cons_of_mem _ hm) hmem
      obtain ⟨q, seen', hloop, hq, hsubset, hall⟩ := ih hdistinct
        (fun m hm => hdepth m (List.mem_cons_of_mem _ hm)) hseen' _ fuel
        (by rw [List.length_cons] at hfuel; omega)
      refine ⟨q, seen', hstep.trans hloop,
        hq.trans (afterAll_writtenMembers l level key v members p),
        fun k hk => hsubset (mem_noted.2 (.inr hk)), ?_⟩
      rintro m hm hknown
      rcases List.mem_cons.1 hm with rfl | hm
      · exact hsubset (mem_noted.2 (.inl ⟨rfl, hknown⟩))
      · exact hall m hm hknown

/-- **Members are read from behind the opening bracket of an object to behind its closing one,** if
the required ones are among them. -/
theorem enclosed_readObject {members : Members} {blank s : σ}
    (h : MembersRead fields others members blank s) (hdistinct : members.Distinct)
    (hrequired : ∀ f ∈ fields, f.required = true → (members.lookup f.key).isSome)
    (hdepth : ∀ m ∈ members, m.2.depth ≤ room) (rest : List Char) (p : Position) :
    enclosed closeObject (readObject fields others blank room)
        ⟨membersBody l level members ++ rest, p⟩ =
      .ok (s, ⟨rest, p.afterAll (membersBody l level members)⟩) := by
  have hclose : ∀ q, closeObject ⟨'\x7d' :: rest, q⟩ = (⟨rest, q.after '\x7d'⟩, none) :=
    fun _ => rfl
  -- `q` stands before the closing bracket, which `enclosed` itself takes
  suffices hbody : ∃ q seen, readMembers fields others room
      ((membersBody l level members ++ rest).length + 1) true [] blank
        ⟨membersBody l level members ++ rest, p⟩ = .ok ((seen, s), ⟨'\x7d' :: rest, q⟩) ∧
        q.after '\x7d' = p.afterAll (membersBody l level members) ∧
        ∀ m ∈ members, (field? fields m.1).isSome = true → m.1 ∈ seen by
    obtain ⟨q, seen, hread, hq, hseen⟩ := hbody
    have hmissing : missing? fields seen = none := by
      refine Option.map_eq_none_iff.2 (List.find?_eq_none.2 fun f hf hmissing => ?_)
      rw [Bool.and_eq_true] at hmissing
      obtain ⟨v, hv⟩ := Option.isSome_iff_exists.1 (hrequired f hf hmissing.1)
      have hmem := hseen _ (Members.mem_of_lookup hv) (field?_isSome_of_mem hf)
      simp [hmem] at hmissing
    unfold enclosed readObject
    simp only [hread, bind, Except.bind, hmissing, hclose, hq]
  cases h with
  | nil => exact ⟨p, [], rfl, rfl, List.forall_mem_nil _⟩
  | @cons key v members change _ _ hv hrest =>
      obtain ⟨hnew, hdistinct⟩ := List.pairwise_cons.1 hdistinct
      have hstep := readMembers_member l level List.not_mem_nil hv
        (hdepth _ List.mem_cons_self) (endsNumber_writtenMembers l level members rest)
        (reader_eq_ok (moreMembers_membersBody l level key v members rest p))
        (membersBody l level ((key, v) :: members) ++ rest).length blank
      have hseen : ∀ m ∈ members, m.1 ∉ noted fields [] key := by
        intro m hm hmem
        rcases mem_noted.1 hmem with ⟨heq, -⟩ | hmem
        · exact hnew m hm heq.symm
        · cases hmem
      obtain ⟨q, seen, hloop, hq, hsubset, hall⟩ := readMembers_written l level hrest hdistinct
        (fun m hm => hdepth m (List.mem_cons_of_mem _ hm)) hseen
        (length_lt_membersBody l level key v members rest) rest
        ((p.afterAll (l.newLine (level + 1))).afterAll (writtenMember l level key v))
      refine ⟨q, seen, hstep.trans hloop,
        hq.trans (afterAll_membersBody l level key v members p), ?_⟩
      rintro m hm hknown
      rcases List.mem_cons.1 hm with rfl | hm
      · exact hsubset (mem_noted.2 (.inl ⟨rfl, hknown⟩))
      · exact hall m hm hknown

end Records

section Objects

variable {name : String} {fields : List (RecordField σ)} {members : Members} {blank s : σ}

/-- **A record is read from an object** whose members its fields read, the required ones among
them. -/
theorem reads_object (h : MembersRead fields passedOver members blank s)
    (hdistinct : members.Distinct)
    (hrequired : ∀ f ∈ fields, f.required = true → (members.lookup f.key).isSome) :
    (record name fields blank).Reads (.obj members) s := by
  refine ⟨hasWholeNumbers_obj.2 h.whole, fun l level room hdepth b hb rest hrest p => ?_⟩
  obtain ⟨room, rfl⟩ : ∃ k, room = k + 1 := ⟨room - 1, by have := depth_obj_pos members; omega⟩
  have hbody := enclosed_readObject l level h hdistinct hrequired (depth_obj_le.1 hdepth) rest
    ((p.afterAll b).after '\x7b')
  have hbracket : isSpace '\x7b' = false := rfl
  rw [written_obj, List.cons_append]
  unfold record
  simp only [skipSpace_blank_cons hb hbracket]
  exact hbody

/-- **A record that keeps the other members** is read in the same way. -/
theorem readsBack_open {keep : String → Json → σ → σ}
    (h : MembersRead fields (kept keep) members blank s) (hdistinct : members.Distinct)
    (hrequired : ∀ f ∈ fields, f.required = true → (members.lookup f.key).isSome) (l : Layout)
    (level : Nat) {room : Nat} (hdepth : (Json.obj members).depth ≤ room) :
    ReadsBack (readOpen name fields keep blank room) (written l level (.obj members)) s := by
  intro b hb rest hrest p
  obtain ⟨room, rfl⟩ : ∃ k, room = k + 1 := ⟨room - 1, by have := depth_obj_pos members; omega⟩
  have hbody := enclosed_readObject l level h hdistinct hrequired (depth_obj_le.1 hdepth) rest
    ((p.afterAll b).after '\x7b')
  have hbracket : isSpace '\x7b' = false := rfl
  rw [written_obj, List.cons_append]
  unfold readOpen
  simp only [skipSpace_blank_cons hb hbracket]
  exact hbody

end Objects

/-! ### Members in the order of the fields -/

/-- Members that stand in the order of the fields, one for each, and what they make of a record. -/
inductive FieldsRead : List (RecordField σ) → Members → σ → σ → Prop
  | nil (s : σ) : FieldsRead [] [] s s
  | cons {f : RecordField σ} {fields : List (RecordField σ)} {v : Json} {members : Members}
      {change : σ → σ} {s s' : σ} (hv : f.change.Reads v change)
      (hrest : FieldsRead fields members (change s) s') :
      FieldsRead (f :: fields) ((f.key, v) :: members) s s'

/-- A field that has to be there and is. -/
theorem FieldsRead.needed {key : String} {d : Decoder α} {set : α → σ → σ}
    {fields : List (RecordField σ)} {v : Json} {a : α} {members : Members} {s s' : σ}
    (hv : d.Reads v a) (hrest : FieldsRead fields members (set a s) s') :
    FieldsRead (.needed key d set :: fields) ((key, v) :: members) s s' :=
  .cons (hv.map set) hrest

/-- A field that may be left out and is there. -/
theorem FieldsRead.defaulted {key : String} {d : Decoder α} {set : α → σ → σ}
    {fields : List (RecordField σ)} {v : Json} {a : α} {members : Members} {s s' : σ}
    (hv : d.Reads v a) (hrest : FieldsRead fields members (set a s) s') :
    FieldsRead (.defaulted key d set :: fields) ((key, v) :: members) s s' :=
  .cons (hv.map set) hrest

theorem FieldsRead.keys {fields : List (RecordField σ)} {members : Members} {s s' : σ}
    (h : FieldsRead fields members s s') :
    members.map Prod.fst = fields.map RecordField.key := by
  induction h with
  | nil s => rfl
  | cons _ _ ih => rw [List.map_cons, List.map_cons, ih]

theorem field?_of_mem {fields : List (RecordField σ)}
    (hdistinct : (fields.map RecordField.key).Nodup) {f : RecordField σ} (hf : f ∈ fields) :
    field? fields f.key = some f := by
  induction fields with
  | nil => cases hf
  | cons g fields ih =>
      rw [List.map_cons, List.nodup_cons] at hdistinct
      unfold field?
      rcases List.mem_cons.1 hf with rfl | hf
      · exact List.find?_cons_of_pos (decide_eq_true rfl)
      · have hne : g.key ≠ f.key := fun heq => hdistinct.1 (heq ▸ List.mem_map_of_mem hf)
        rw [List.find?_cons_of_neg (by simpa using hne)]
        exact ih hdistinct.2 hf

theorem FieldsRead.membersRead {fields left : List (RecordField σ)} {members : Members}
    {s s' : σ} (h : FieldsRead left members s s')
    (hfields : ∀ f ∈ left, field? fields f.key = some f) (others : String → Decoder (σ → σ)) :
    MembersRead fields others members s s' := by
  induction h with
  | nil s => exact .nil s
  | @cons f left v members change s s' hv hrest ih =>
      refine .cons ?_ (ih fun g hg => hfields g (List.mem_cons_of_mem f hg))
      rw [memberDecoder_field (hfields f List.mem_cons_self)]
      exact hv

theorem reads_record {name : String} {fields : List (RecordField σ)} {members : Members}
    {blank s : σ} (h : FieldsRead fields members blank s)
    (hdistinct : (fields.map RecordField.key).Nodup) :
    (record name fields blank).Reads (.obj members) s := by
  have hdistinct' : members.Distinct := by
    rw [← h.keys] at hdistinct
    exact List.pairwise_map.1 hdistinct
  refine reads_object (h.membersRead (fun f hf => field?_of_mem hdistinct hf) passedOver)
    hdistinct' ?_
  · intro f hf _
    have hkey : f.key ∈ members.map Prod.fst := by
      rw [h.keys]
      exact List.mem_map_of_mem hf
    obtain ⟨m, hm, hkey⟩ := List.mem_map.1 hkey
    rw [← hkey, hdistinct'.lookup_of_mem hm]
    rfl

/-! ## Choices -/

theorem reads_chosenName {known : List (String × α)} {name : String} {a : α}
    (h : named known name = .ok a) : (chosenName known).Reads (.str name) a :=
  reads_leaf rfl rfl h

theorem reads_choice {known : List (String × α)} {name : String} {a : α}
    (h : named known name = .ok a) : (choice known).Reads (.str name) a := by
  refine ⟨rfl, fun l level room hdepth b hb rest hrest p => ?_⟩
  have hname := ((reads_chosenName h).back l level room hdepth).here hrest (p.afterAll b)
  have hquote : isSpace '"' = false := rfl
  have htext : written l level (.str name) = '"' :: (quoteString name).tail := rfl
  rw [htext, List.cons_append] at hname ⊢
  unfold choice
  simp only [skipSpace_blank_cons hb hquote]
  exact hname

/-! ## Tagged variants -/

section Tagged

variable {tag : String} (known : List (String × α)) {room : Nat} (l : Layout) (level : Nat)

/-- The members behind the tag are read as they are, up to the closing bracket. -/
theorem taggedMembers_written {members : Members}
    (hwhole : ∀ m ∈ members, m.2.hasWholeNumbers = true)
    (hdepth : ∀ m ∈ members, m.2.depth ≤ room) (htag : ∀ m ∈ members, m.1 ≠ tag) {fuel : Nat}
    (hfuel : members.length < fuel) (a : α) (read : Members) (rest : List Char) (p : Position) :
    ∃ q, taggedMembers tag known room fuel false (some a) read
          ⟨writtenMembers l level members ++ rest, p⟩ =
        .ok ((some a, read.reverse ++ members.map fun m => (m.1, m.2.sortKeys)),
          ⟨'\x7d' :: rest, q⟩) ∧
      q.after '\x7d' = p.afterAll (writtenMembers l level members) := by
  obtain ⟨fuel, rfl⟩ : ∃ k, fuel = k + 1 := ⟨fuel - 1, by omega⟩
  induction members generalizing fuel read p with
  | nil =>
      refine ⟨p.afterAll (l.newLine level), ?_, after_writtenMembers_nil l level p⟩
      rw [taggedMembers]
      simp only [reader_eq_ok (moreMembers_written_nil l level rest p false), bind, Except.bind,
        Bool.false_eq_true, if_false, List.map_nil, List.append_nil]
  | cons m members ih =>
      obtain ⟨k, v⟩ := m
      obtain ⟨fuel, rfl⟩ : ∃ k, fuel = k + 1 :=
        ⟨fuel - 1, by rw [List.length_cons] at hfuel; omega⟩
      have hmore := reader_eq_ok (moreMembers_written l level k v members rest p)
      obtain ⟨c, c', hstring, hcolon, hvalue⟩ := member_written l level (f := sortKeys) k
        (value_written l (hwhole _ List.mem_cons_self) (hdepth _ List.mem_cons_self) (level + 1))
        (endsNumber_writtenMembers l level members rest)
        ((p.after ',').afterAll (l.newLine (level + 1)))
      obtain ⟨q, hloop, hq⟩ := ih (fun m hm => hwhole m (List.mem_cons_of_mem _ hm))
        (fun m hm => hdepth m (List.mem_cons_of_mem _ hm))
        (fun m hm => htag m (List.mem_cons_of_mem _ hm)) ((k, v.sortKeys) :: read)
        (((p.after ',').afterAll (l.newLine (level + 1))).afterAll (writtenMember l level k v))
        fuel (by rw [List.length_cons] at hfuel; omega)
      refine ⟨q, ?_, hq.trans (afterAll_writtenMembers l level k v members p)⟩
      rw [taggedMembers]
      -- the key is not the tag's, so the member is kept for later
      simp only [hmore, bind, Except.bind, if_true, hstring, htag _ List.mem_cons_self, if_false,
        hcolon, hvalue, hloop, List.reverse_cons, List.append_assoc, List.singleton_append,
        List.map_cons]

/-- **An object whose tag stands first is read to what its tag chooses and its other members.** -/
theorem enclosed_taggedObject {known : List (String × α)} {name : String} {a : α}
    (hname : named known name = .ok a) {members : Members}
    (hwhole : ∀ m ∈ members, m.2.hasWholeNumbers = true)
    (hdepth : ∀ m ∈ members, m.2.depth ≤ room) (htag : ∀ m ∈ members, m.1 ≠ tag)
    (rest : List Char) (p : Position) :
    enclosed closeObject (taggedObject tag known room)
        ⟨membersBody l level ((tag, .str name) :: members) ++ rest, p⟩ =
      .ok ((a, .obj (members.map fun m => (m.1, m.2.sortKeys))),
        ⟨rest, p.afterAll (membersBody l level ((tag, .str name) :: members))⟩) := by
  have hclose : ∀ q, closeObject ⟨'\x7d' :: rest, q⟩ = (⟨rest, q.after '\x7d'⟩, none) :=
    fun _ => rfl
  have hmore := reader_eq_ok (moreMembers_membersBody l level tag (.str name) members rest p)
  -- the tag's value is read as a name, and chooses
  obtain ⟨c, c', hstring, hcolon, hvalue⟩ := member_written l level (f := fun _ => a) tag
    ((reads_chosenName hname).back l (level + 1) room (Nat.zero_le _))
    (endsNumber_writtenMembers l level members rest) (p.afterAll (l.newLine (level + 1)))
  obtain ⟨q, hloop, hq⟩ := taggedMembers_written known l level hwhole hdepth htag
    (length_lt_membersBody l level tag (.str name) members rest) a [] rest
    ((p.afterAll (l.newLine (level + 1))).afterAll (writtenMember l level tag (.str name)))
  have hread : taggedObject tag known room
      ⟨membersBody l level ((tag, .str name) :: members) ++ rest, p⟩ =
        .ok ((a, .obj (members.map fun m => (m.1, m.2.sortKeys))), ⟨'\x7d' :: rest, q⟩) := by
    unfold taggedObject
    simp only [taggedMembers, hmore, bind, Except.bind, if_true, hstring, hcolon, hvalue, hloop,
      Option.isSome_none, Bool.false_eq_true, if_false, List.reverse_nil, List.nil_append]
  unfold enclosed
  simp only [hread, hclose, hq, afterAll_membersBody]

end Tagged

theorem reads_tagged {name tag chosen : String}
    {known : List (String × (Json → Except Mismatch α))} {make : Json → Except Mismatch α}
    (hchosen : named known chosen = .ok make) {members : Members}
    (hwhole : ∀ m ∈ members, m.2.hasWholeNumbers = true) (htag : ∀ m ∈ members, m.1 ≠ tag) {a : α}
    (hmake : make (.obj (members.map fun m => (m.1, m.2.sortKeys))) = .ok a) :
    (tagged name tag known).Reads (.obj ((tag, .str chosen) :: members)) a := by
  refine ⟨hasWholeNumbers_obj.2 (List.forall_mem_cons.2 ⟨rfl, hwhole⟩),
    fun l level room hdepth b hb rest hrest p => ?_⟩
  obtain ⟨room, rfl⟩ : ∃ k, room = k + 1 :=
    ⟨room - 1, by have := depth_obj_pos ((tag, .str chosen) :: members); omega⟩
  have hbody := enclosed_taggedObject l level hchosen hwhole
    (List.forall_mem_cons.1 (depth_obj_le.1 hdepth)).2 htag rest ((p.afterAll b).after '\x7b')
  have hbracket : isSpace '\x7b' = false := rfl
  rw [written_obj, List.cons_append]
  unfold tagged
  simp only [skipSpace_blank_cons hb hbracket]
  have hnested : nested (room + 1)
      (fun room => enclosed closeObject (taggedObject tag known room))
      ⟨'\x7b' :: (membersBody l level ((tag, .str chosen) :: members) ++ rest), p.afterAll b⟩ =
      .ok ((make, .obj (members.map fun m => (m.1, m.2.sortKeys))), ⟨rest,
        ((p.afterAll b).after '\x7b').afterAll
          (membersBody l level ((tag, .str chosen) :: members))⟩) := hbody
  rw [hnested]
  simp only [hmake]
  rfl

end VideoSurvey.Json
