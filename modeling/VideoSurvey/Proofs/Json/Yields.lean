import VideoSurvey.Proofs.Json.Reading
import VideoSurvey.Proofs.Json.Records

/-!
# What decoders give

A decoder makes its result out of a value or out of a text. `Decoder.Yields` says that the result
has a property in both cases, whatever the value or the text is. The combinators hand the property
on: an integer is in its range (`yields_integer`), what every item has a list has item by item
(`yields_list`), what every field keeps a record keeps (`yields_record`), and what every variant has
a tagged choice has (`yields_tagged`). So a result fits its type however it was written
(`Decoder.Yields.ofText`).

How deep brackets are nested in a result turns on the depth at which it is read, and only a reader
knows that. `Decoder.Gives` says what is read at one depth; it is handed on by records
(`gives_record`) and by records that keep their other members (`gives_open`).
-/

set_option autoImplicit false

namespace VideoSurvey.Json

open Results

variable {α β σ : Type} {P : α → Prop}

/-- What a decoder gives has a property, out of a value as out of a text. -/
structure Decoder.Yields (d : Decoder α) (P : α → Prop) : Prop where
  ofJson : ∀ {v : Json} {a : α}, d.ofJson v = .ok a → P a
  read : ∀ {room : Nat} {c c' : Cursor} {a : α}, d.read room c = .ok (a, c') → P a

/-- What a decoder reads at a depth of brackets has a property. -/
def Decoder.Gives (d : Decoder α) (room : Nat) (P : α → Prop) : Prop :=
  ∀ c c' a, d.read room c = .ok (a, c') → P a

theorem map_eq_ok {ε : Type} {f : α → β} {x : Except ε α} {b : β} (h : x.map f = .ok b) :
    ∃ a, x = .ok a ∧ f a = b := by
  cases x with
  | error e => cases h
  | ok a =>
      cases h
      exact ⟨a, rfl, rfl⟩

namespace Decoder.Yields

/-- **What a decoder gives for a whole text** has the property. -/
theorem ofText {d : Decoder α} (h : d.Yields P) {text : String} {a : α}
    (ha : d.ofText text = .ok a) : P a := by
  obtain ⟨c, hread⟩ := readWhole_eq_ok ha
  exact h.read hread

theorem gives {d : Decoder α} (h : d.Yields P) (room : Nat) : d.Gives room P :=
  fun _ _ _ ha => h.read ha

theorem mono {d : Decoder α} (h : d.Yields P) {Q : α → Prop} (hPQ : ∀ a, P a → Q a) :
    d.Yields Q :=
  ⟨fun ha => hPQ _ (h.ofJson ha), fun ha => hPQ _ (h.read ha)⟩

theorem trivial (d : Decoder α) : d.Yields fun _ => True :=
  ⟨fun _ => True.intro, fun _ => True.intro⟩

end Decoder.Yields

theorem Decoder.Gives.map {d : Decoder α} {room : Nat} (h : d.Gives room P) {Q : β → Prop}
    {f : α → β} (hf : ∀ a, P a → Q (f a)) : (d.map f).Gives room Q := by
  intro c c' b hb
  obtain ⟨⟨a, _⟩, ha, hpair⟩ := map_eq_ok hb
  cases hpair
  exact hf a (h _ _ _ ha)

theorem Decoder.Yields.map {d : Decoder α} (h : d.Yields P) {Q : β → Prop} {f : α → β}
    (hf : ∀ a, P a → Q (f a)) : (d.map f).Yields Q := by
  refine ⟨?_, fun hb => (h.gives _).map hf _ _ _ hb⟩
  intro v b hb
  obtain ⟨a, ha, rfl⟩ := map_eq_ok hb
  exact hf a (h.ofJson ha)

/-! ## Values without brackets -/

theorem yields_leaf {wanted : Shape} {accept : Json → Except Mismatch α}
    (h : ∀ v a, accept v = .ok a → P a) : (leaf wanted accept).Yields P := by
  refine ⟨fun ha => h _ _ ha, ?_⟩
  intro room c c' a ha
  simp only [leaf] at ha
  split at ha
  · cases ha
  · cases ha
  · cases ha
  -- neither the end of the text nor a bracket: the value was read before it was tested
  · obtain ⟨⟨v, c1⟩, -, ha⟩ := bind_eq_ok.1 ha
    simp only at ha
    split at ha
    · rename_i haccept
      cases ha
      exact h v a haccept
    · cases ha

/-- An integer is in its range. -/
theorem yields_integer (wanted : Shape) (low high : Int) :
    (integer wanted low high).Yields fun n => low ≤ n ∧ n ≤ high := by
  apply yields_leaf
  intro v n h
  exact (@integer_eq_ok wanted low high v n h).2

/-- A natural number is at most the largest of its type. -/
theorem yields_natural (wanted : Shape) (high : Nat) :
    ((integer wanted 0 high).map Int.toNat).Yields fun n => n ≤ high := by
  apply (yields_integer wanted 0 high).map
  rintro n ⟨hlow, hhigh⟩
  omega

/-- An integer of 64 bits is one as it is written. -/
theorem yields_signed64 : signed64.Yields fun n => signed64.ofJson (ofInt n) = .ok n :=
  (yields_integer .signed64 _ _).mono fun _ hn => if_pos hn

theorem yields_unsigned64 : unsigned64.Yields fun n => unsigned64.ofJson (ofNat n) = .ok n := by
  apply (yields_natural .unsigned64 18446744073709551615).mono
  intro n hn
  have hinteger : (integer .unsigned64 0 18446744073709551615).ofJson (ofNat n) = .ok (n : Int) :=
    if_pos ⟨Int.natCast_nonneg n, Int.ofNat_le.2 hn⟩
  show ((integer .unsigned64 0 18446744073709551615).ofJson (ofNat n)).map Int.toNat = _
  rw [hinteger]
  rfl

theorem yields_chosenName (known : List (String × α)) :
    (chosenName known).Yields fun a => ∃ name, (name, a) ∈ known := by
  apply yields_leaf
  intro v a ha
  split at ha
  · rw [named] at ha
    split at ha
    · rename_i found hfound
      cases ha
      exact ⟨found.1, List.mem_of_find?_eq_some hfound⟩
    · cases ha
  · cases ha

/-- A value that may be `null`. -/
theorem yields_optional {d : Decoder α} (h : d.Yields P) :
    (optional d).Yields fun o => ∀ a ∈ o, P a := by
  constructor
  · intro v o ho a ha
    exact h.ofJson (optional_eq_some (ho.trans (congrArg Except.ok ha)))
  · intro room c c' o ho a ha
    simp only [optional] at ho
    split at ho
    · obtain ⟨_, -, ho⟩ := bind_eq_ok.1 ho
      cases ho
      cases ha
    · obtain ⟨⟨b, c1⟩, hb, hpair⟩ := map_eq_ok ho
      cases hpair
      cases ha
      exact h.read hb

/-! ## Lists -/

/-- What is read from a bracket is read with one level less. -/
theorem nested_eq_ok {room : Nat} {body : Nat → Reader α} {c c' : Cursor} {a : α}
    (h : nested room body c = .ok (a, c')) : body (room - 1) c.next = .ok (a, c') := by
  cases room with
  | zero => cases h
  | succ left => exact h

/-- **What a decoder gives for an item, it gives for every item of a list.** -/
theorem yields_list {d : Decoder α} (h : d.Yields P) : (list d).Yields fun l => ∀ a ∈ l, P a := by
  constructor
  · intro v found hfound a ha
    obtain ⟨items, -, hitems⟩ := list_eq_ok.1 hfound
    obtain ⟨w, -, hw⟩ := exists_of_forall₂ hitems ha
    exact h.ofJson hw
  · intro room c c' found hfound
    simp only [list] at hfound
    split at hfound
    · cases hfound
    · have hbody := nested_eq_ok hfound
      obtain ⟨c1, hitems⟩ := enclosed_eq_ok hbody
      apply itemsLoop_forall (fun _ _ _ => h.read) hitems
      rintro a ⟨⟩
    · cases hfound

/-! ## Any value -/

/-- **Any value that is read** is in order and nested no deeper than there is room for. -/
theorem gives_anything (room : Nat) : anything.Gives room fun v => Ordered v ∧ v.depth ≤ room :=
  fun _ _ _ hv => value_ordered hv

theorem gives_table (room : Nat) :
    table.Gives room fun members => Ordered (.obj members) ∧ (Json.obj members).depth ≤ room := by
  intro c c' found hfound
  -- an object is read the same way among other values, and as a value it is in order
  suffices hvalue : value room c = .ok (.obj found, c') from value_ordered hvalue
  simp only [table] at hfound
  split at hfound
  · cases hfound
  · rename_i hhead
    obtain ⟨⟨read, c1⟩, hread, hfound⟩ := bind_eq_ok.1 hfound
    cases hfound
    cases room with
    | zero => cases hread
    | succ room =>
        unfold value
        simp only [hhead]
        exact bind_eq_ok.2 ⟨_, hread, rfl⟩
  · cases hfound

/-! ## Records -/

section Records

variable {S : σ → Prop} {fields : List (RecordField σ)}

/-- What each field of a record makes keeps a property of records. -/
def FieldsKeep (S : σ → Prop) (fields : List (RecordField σ)) : Prop :=
  ∀ f ∈ fields, f.change.Yields fun change => ∀ s, S s → S (change s)

theorem FieldsKeep.cons {d : Decoder α} (hd : d.Yields P) {key : String} {required : Bool}
    {set : α → σ → σ} (hset : ∀ a s, P a → S s → S (set a s)) (h : FieldsKeep S fields) :
    FieldsKeep S (⟨key, required, d.map set⟩ :: fields) :=
  List.forall_mem_cons.2 ⟨hd.map fun a ha s hs => hset a s ha hs, h⟩

theorem fieldsKeep_nil : FieldsKeep S [] := List.forall_mem_nil _

/-- What each field of a record reads at a depth keeps a property of records. -/
def FieldsGive (room : Nat) (S : σ → Prop) (fields : List (RecordField σ)) : Prop :=
  ∀ f ∈ fields, f.change.Gives room fun change => ∀ s, S s → S (change s)

theorem FieldsGive.cons {room : Nat} {d : Decoder α} (hd : d.Gives room P) {key : String}
    {required : Bool} {set : α → σ → σ} (hset : ∀ a s, P a → S s → S (set a s))
    (h : FieldsGive room S fields) : FieldsGive room S (⟨key, required, d.map set⟩ :: fields) :=
  List.forall_mem_cons.2 ⟨hd.map fun a ha s hs => hset a s ha hs, h⟩

theorem fieldsGive_nil {room : Nat} : FieldsGive room S [] := List.forall_mem_nil _

theorem FieldsKeep.give (h : FieldsKeep S fields) (room : Nat) : FieldsGive room S fields :=
  fun f hf => (h f hf).gives room

section Reading

variable {room : Nat} {s s' : σ} {c c' : Cursor} {isFirst : Bool}

/-- The members of an object that are read keep what every field keeps, if those that no field takes
keep it too. -/
theorem readMembers_keeps {others : String → Decoder (σ → σ)} (h : FieldsGive room S fields)
    (hothers : ∀ key, field? fields key = none →
      (others key).Gives room fun change => ∀ s, S s → S (change s))
    {fuel : Nat} {seen seen' : List String} (hs : S s)
    (hread : readMembers fields others room fuel isFirst seen s c = .ok ((seen', s'), c')) :
    S s' := by
  -- one unit of fuel for each member, known or not
  induction fuel generalizing isFirst seen s c with
  | zero => cases hread
  | succ fuel ih =>
      rw [readMembers] at hread
      obtain ⟨⟨more, c1⟩, -, hread⟩ := bind_eq_ok.1 hread
      cases more with
      | false =>
          cases hread
          exact hs
      | true =>
          obtain ⟨⟨key, c2⟩, -, hread⟩ := bind_eq_ok.1 hread
          simp only at hread
          split at hread
          · rename_i hfield
            obtain ⟨⟨_, c3⟩, -, hread⟩ := bind_eq_ok.1 hread
            obtain ⟨⟨change, c4⟩, hchange, hread⟩ := bind_eq_ok.1 hread
            exact ih (hothers key hfield _ _ _ hchange s hs) hread
          · rename_i f hfield
            split at hread
            · cases hread
            · obtain ⟨⟨_, c3⟩, -, hread⟩ := bind_eq_ok.1 hread
              obtain ⟨⟨change, c4⟩, hchange, hread⟩ := bind_eq_ok.1 hread
              exact ih (h f (field?_eq_some hfield).1 _ _ _ hchange s hs) hread

theorem readObject_keeps {others : String → Decoder (σ → σ)} (h : FieldsGive room S fields)
    (hothers : ∀ key, field? fields key = none →
      (others key).Gives room fun change => ∀ s, S s → S (change s))
    {blank : σ} (hblank : S blank) (hread : readObject fields others blank room c = .ok (s, c')) :
    S s := by
  obtain ⟨⟨⟨seen, s1⟩, c2⟩, hmembers, hread⟩ := bind_eq_ok.1 hread
  simp only at hread
  split at hread
  · cases hread
  · cases hread
    exact readMembers_keeps h hothers hblank hmembers

/-- The items of an array that are read keep what every field keeps. -/
theorem readItems_keeps (h : FieldsGive room S fields) {short : Quota} {index : Nat} (hs : S s)
    (hread : readItems short room fields index isFirst s c = .ok (s', c')) : S s' := by
  -- an array gives its items to the fields in their order
  induction fields generalizing index isFirst s c with
  | nil =>
      cases hread
      exact hs
  | cons f fields ih =>
      have hrest : FieldsGive room S fields := fun g hg => h g (List.mem_cons_of_mem f hg)
      rw [readItems] at hread
      obtain ⟨⟨more, c1⟩, -, hread⟩ := bind_eq_ok.1 hread
      cases more with
      | false =>
          simp only [Bool.false_eq_true, if_false] at hread
          split at hread
          · cases hread
          · exact ih hrest hs hread
      | true =>
          obtain ⟨⟨change, c2⟩, hchange, hread⟩ := bind_eq_ok.1 hread
          exact ih hrest (h f List.mem_cons_self _ _ _ hchange s hs) hread

end Reading

/-- **What every field keeps at a depth, a record keeps** that is read with one level more. -/
theorem gives_record {name : String} {room : Nat} {blank : σ}
    (h : FieldsGive (room - 1) S fields) (hblank : S blank) :
    (record name fields blank).Gives room S := by
  intro c c' s hs
  simp only [record] at hs
  split at hs
  · cases hs
  · obtain ⟨c1, hitems⟩ := enclosed_eq_ok (nested_eq_ok hs)
    exact readItems_keeps h hblank hitems
  -- members that no field takes change nothing
  · obtain ⟨c1, hobject⟩ := enclosed_eq_ok (nested_eq_ok hs)
    refine readObject_keeps h ?_ hblank hobject
    intro key _ c c' change hchange s hs
    obtain ⟨_, -, hpair⟩ := map_eq_ok hchange
    cases hpair
    exact hs
  · cases hs

/-- **A record that keeps its other members** has what its fields keep and what such a member
keeps. -/
theorem gives_open {name : String} {room : Nat} {keep : String → Json → σ → σ} {blank : σ}
    (h : FieldsGive (room - 1) S fields)
    (hkeep : ∀ key, field? fields key = none → ∀ v, Ordered v → v.depth ≤ room - 1 →
      ∀ s, S s → S (keep key v s)) (hblank : S blank) {c c' : Cursor} {s : σ}
    (hs : readOpen name fields keep blank room c = .ok (s, c')) : S s := by
  simp only [readOpen] at hs
  split at hs
  · cases hs
  · obtain ⟨c1, hobject⟩ := enclosed_eq_ok (nested_eq_ok hs)
    refine readObject_keeps h ?_ hblank hobject
    intro key hkey
    exact (gives_anything _).map fun v hv s hs => hkeep key hkey v hv.1 hv.2 s hs
  · cases hs

/-- A record out of a value keeps what every field keeps. -/
theorem recordOfJson_keeps (h : FieldsKeep S fields) {wanted : Shape} {short long : Quota}
    {blank s : σ} (hblank : S blank) {v : Json}
    (hs : recordOfJson wanted short long fields blank v = .ok s) : S s := by
  have hchange : ∀ f ∈ fields, ∀ v change s, True → f.change.ofJson v = .ok change → S s →
      S (change s) := fun f hf v change s _ hv => (h f hf).ofJson hv s
  cases v with
  | obj members =>
      obtain ⟨⟨seen, s1⟩, hread, hs⟩ := bind_eq_ok.1 hs
      simp only at hs
      split at hs
      · cases hs
      · cases hs
        exact ofMembers_invariant hchange (fun _ _ => True.intro) hblank hread
  | arr items => exact ofItems_invariant hchange (fun _ _ => True.intro) hblank hs
  | _ => cases hs

/-- **What every field keeps, a record keeps,** out of a value as out of a text. -/
theorem yields_record {name : String} {blank : σ} (h : FieldsKeep S fields) (hblank : S blank) :
    (record name fields blank).Yields S :=
  ⟨fun hs => recordOfJson_keeps h hblank hs,
    fun hs => gives_record (h.give _) hblank _ _ _ hs⟩

end Records

/-! ## Tagged variants -/

section Tagged

variable {tag : String} {known : List (String × α)}

/-- What the members of a tagged object choose is known. -/
theorem taggedMembers_known {room fuel : Nat} {isFirst : Bool} {chosen chosen' : Option α}
    {read rest : Members} {c c' : Cursor} (hchosen : ∀ a ∈ chosen, ∃ name, (name, a) ∈ known)
    (h : taggedMembers tag known room fuel isFirst chosen read c = .ok ((chosen', rest), c')) :
    ∀ a ∈ chosen', ∃ name, (name, a) ∈ known := by
  induction fuel generalizing isFirst chosen read c with
  | zero => cases h
  | succ fuel ih =>
      rw [taggedMembers] at h
      obtain ⟨⟨more, c1⟩, -, h⟩ := bind_eq_ok.1 h
      cases more with
      | false =>
          cases h
          exact hchosen
      | true =>
          obtain ⟨⟨key, c2⟩, -, h⟩ := bind_eq_ok.1 h
          simp only at h
          split at h
          · split at h
            · cases h
            · obtain ⟨⟨_, c3⟩, -, h⟩ := bind_eq_ok.1 h
              obtain ⟨⟨a, c4⟩, ha, h⟩ := bind_eq_ok.1 h
              refine ih ?_ h
              rintro _ ⟨⟩
              exact (yields_chosenName known).read ha
          -- a member with another key is kept for the variant and chooses nothing
          · obtain ⟨⟨_, c3⟩, -, h⟩ := bind_eq_ok.1 h
            obtain ⟨⟨v, c4⟩, -, h⟩ := bind_eq_ok.1 h
            exact ih hchosen h

theorem taggedObject_known {room : Nat} {a : α} {rest : Json} {c c' : Cursor}
    (h : taggedObject tag known room c = .ok ((a, rest), c')) : ∃ name, (name, a) ∈ known := by
  obtain ⟨⟨⟨chosen, members⟩, c1⟩, hmembers, h⟩ := bind_eq_ok.1 h
  simp only at h
  split at h
  · cases h
    refine taggedMembers_known ?_ hmembers a rfl
    rintro b ⟨⟩
  · cases h

theorem taggedList_known {room : Nat} {a : α} {rest : Json} {c c' : Cursor}
    (h : taggedList tag known room c = .ok ((a, rest), c')) : ∃ name, (name, a) ∈ known := by
  obtain ⟨⟨more, c1⟩, -, h⟩ := bind_eq_ok.1 h
  cases more with
  | false => cases h
  | true =>
      obtain ⟨⟨b, c2⟩, hb, h⟩ := bind_eq_ok.1 h
      obtain ⟨⟨items, c3⟩, -, h⟩ := bind_eq_ok.1 h
      cases h
      exact (yields_chosenName known).read hb

end Tagged

/-- **What every variant has, a tagged choice has.** The tag chooses a variant, and the variant
makes the result out of the rest. -/
theorem yields_tagged {name tag : String} {known : List (String × (Json → Except Mismatch α))}
    (h : ∀ k ∈ known, ∀ v a, k.2 v = .ok a → P a) : (tagged name tag known).Yields P := by
  have hknown : ∀ {make : Json → Except Mismatch α}, (∃ key, (key, make) ∈ known) →
      ∀ {v a}, make v = .ok a → P a := by
    rintro make ⟨key, hmem⟩ v a ha
    exact h _ hmem v a ha
  constructor
  · intro v a ha
    simp only [tagged] at ha
    split at ha
    · split at ha
      · cases ha
      · obtain ⟨make, hmake, ha⟩ := bind_eq_ok.1 ha
        exact hknown ((yields_chosenName known).ofJson hmake) ha
    · cases ha
    · obtain ⟨make, hmake, ha⟩ := bind_eq_ok.1 ha
      exact hknown ((yields_chosenName known).ofJson hmake) ha
    · cases ha
  · intro room c c' a ha
    simp only [tagged] at ha
    split at ha
    · cases ha
    · rename_i make rest c1 hbody
      -- the variant is known, whichever bracket it was read from
      have hmake : ∃ key, (key, make) ∈ known := by
        generalize c.skipSpace.rest = text at hbody
        revert hbody
        split
        all_goals intro hbody
        · have hnested := nested_eq_ok hbody
          obtain ⟨c2, hlist⟩ := enclosed_eq_ok hnested
          exact taggedList_known hlist
        · have hnested := nested_eq_ok hbody
          obtain ⟨c2, hobject⟩ := enclosed_eq_ok hnested
          exact taggedObject_known hobject
        · obtain ⟨⟨v, c2⟩, -, hnone⟩ := bind_eq_ok.1 hbody
          cases hnone
      split at ha
      · rename_i hvariant
        cases ha
        exact hknown hmake hvariant
      · cases ha

end VideoSurvey.Json
