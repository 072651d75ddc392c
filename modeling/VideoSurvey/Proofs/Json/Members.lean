import VideoSurvey.Json.Basic

/-!
# Members of an object

Members in increasing order of keys hold each key once, and are told by what a lookup finds in them
(`Sorted.ext`). Inserting and erasing keep the order. `Members.sorted` puts any members in order;
with distinct keys it changes no lookup, and members in order it leaves alone.
-/

set_option autoImplicit false

namespace VideoSurvey.Json.Members

/-- No two members have one key. -/
def Distinct (members : Members) : Prop := members.Pairwise fun a b => a.1 ≠ b.1

/-! ## Lookups -/

@[simp] theorem lookup_nil (key : String) : lookup key [] = none := rfl

@[simp] theorem lookup_cons (key : String) (m : String × Json) (r : Members) :
    lookup key (m :: r) = if m.1 = key then some m.2 else lookup key r := rfl

theorem mem_of_lookup {key : String} {v : Json} {members : Members}
    (h : lookup key members = some v) : (key, v) ∈ members := by
  induction members with
  | nil => cases h
  | cons m r ih =>
      rw [lookup_cons] at h
      by_cases hk : m.1 = key
      · rw [if_pos hk] at h
        obtain rfl := Option.some.inj h
        rw [← hk]
        exact List.mem_cons_self
      · rw [if_neg hk] at h
        exact List.mem_cons_of_mem m (ih h)

theorem lookup_eq_none {key : String} {members : Members} :
    lookup key members = none ↔ ∀ m ∈ members, m.1 ≠ key := by
  induction members with
  | nil => simp [lookup]
  | cons m r ih =>
      rw [lookup_cons]
      by_cases hk : m.1 = key
      · simp [hk]
      · simp [hk, ih]

/-- With distinct keys a lookup finds whatever member there is. -/
theorem Distinct.lookup_of_mem {members : Members} (h : Distinct members) {m : String × Json}
    (hm : m ∈ members) : lookup m.1 members = some m.2 := by
  induction members with
  | nil => cases hm
  | cons m' r ih =>
      obtain ⟨hhead, htail⟩ := List.pairwise_cons.1 h
      rw [lookup_cons]
      rcases List.mem_cons.1 hm with rfl | hr
      · exact if_pos rfl
      · rw [if_neg (hhead m hr)]
        exact ih htail hr

@[simp] theorem lookup_append (key : String) (a b : Members) :
    lookup key (a ++ b) = (lookup key a).or (lookup key b) := by
  induction a with
  | nil => rfl
  | cons m r ih =>
      rw [List.cons_append, lookup_cons, lookup_cons]
      by_cases hk : m.1 = key
      · rw [if_pos hk, if_pos hk]
        rfl
      · rw [if_neg hk, if_neg hk]
        exact ih

theorem lookup_filter (key : String) (p : String → Bool) (members : Members) :
    lookup key (members.filter fun m => p m.1) = if p key then lookup key members else none := by
  induction members with
  | nil => simp [lookup]
  | cons m r ih =>
      rw [List.filter_cons, lookup_cons key m r]
      by_cases hk : m.1 = key
      · by_cases hp : p m.1 = true
        · rw [if_pos hp, lookup_cons, if_pos hk, if_pos (hk ▸ hp), if_pos hk]
        · rw [if_neg hp, ih, if_neg (hk ▸ hp), if_neg (hk ▸ hp)]
      · rw [if_neg hk]
        by_cases hp : p m.1 = true
        · rw [if_pos hp, lookup_cons, if_neg hk]
          exact ih
        · rw [if_neg hp]
          exact ih

theorem lookup_erase_self (key : String) (members : Members) :
    lookup key (erase key members) = none := by
  apply lookup_eq_none.2
  intro m hm
  simpa using (List.mem_filter.1 hm).2

theorem lookup_erase_of_ne {key other : String} (h : other ≠ key) (members : Members) :
    lookup other (erase key members) = lookup other members := by
  have := lookup_filter other (fun k => decide (k ≠ key)) members
  rw [if_pos (by simpa using h)] at this
  exact this

/-- A lookup in members whose values were all changed. -/
theorem lookup_map (key : String) (f : Json → Json) (members : Members) :
    lookup key (members.map fun m => (m.1, f m.2)) = (lookup key members).map f := by
  induction members with
  | nil => rfl
  | cons m r ih =>
      rw [List.map_cons, lookup_cons, lookup_cons]
      by_cases hk : m.1 = key
      · rw [if_pos hk, if_pos hk]
        rfl
      · rw [if_neg hk, if_neg hk]
        exact ih

/-! ## Order -/

theorem Sorted.distinct {members : Members} (h : Sorted members) : Distinct members := by
  refine List.Pairwise.imp ?_ h
  intro a b hlt heq
  rw [heq] at hlt
  exact String.lt_irrefl b.1 hlt

theorem Distinct.nodup {members : Members} (h : Distinct members) : members.Nodup := by
  refine List.Pairwise.imp ?_ h
  intro a b hne heq
  exact hne (congrArg Prod.fst heq)

theorem Sorted.filter {members : Members} (h : Sorted members) (p : String × Json → Bool) :
    Sorted (members.filter p) :=
  List.Pairwise.filter p h

theorem Sorted.erase {members : Members} (h : Sorted members) (key : String) :
    Sorted (members.erase key) :=
  h.filter _

theorem mem_insert {key : String} {value : Json} {members : Members} {m : String × Json}
    (h : m ∈ insert key value members) : m = (key, value) ∨ m ∈ members := by
  induction members with
  | nil => exact .inl (List.mem_singleton.1 h)
  | cons m' r ih =>
      unfold insert at h
      by_cases hk : m'.1 = key
      · rw [if_pos hk] at h
        exact (List.mem_cons.1 h).imp_right (List.mem_cons_of_mem m')
      · rw [if_neg hk] at h
        by_cases hlt : key < m'.1
        · rw [if_pos hlt] at h
          exact List.mem_cons.1 h
        · rw [if_neg hlt] at h
          rcases List.mem_cons.1 h with rfl | hr
          · exact .inr List.mem_cons_self
          · exact (ih hr).imp_right (List.mem_cons_of_mem m')

/-- A key that is not smaller and not equal is larger. -/
theorem lt_of_ne_of_not_lt {a b : String} (hne : a ≠ b) (h : ¬ b < a) : a < b := by
  apply String.not_le.1
  intro hle
  exact hne (String.le_antisymm (String.not_lt.1 h) hle)

/-- Inserting keeps the order. -/
theorem Sorted.insert {members : Members} (h : Sorted members) (key : String) (value : Json) :
    Sorted (members.insert key value) := by
  induction members with
  | nil => exact List.pairwise_singleton _ _
  | cons m r ih =>
      obtain ⟨hhead, htail⟩ := List.pairwise_cons.1 h
      unfold Members.insert
      by_cases hk : m.1 = key
      · rw [if_pos hk]
        exact List.pairwise_cons.2 ⟨fun a ha => hk ▸ hhead a ha, htail⟩
      · rw [if_neg hk]
        by_cases hlt : key < m.1
        · rw [if_pos hlt]
          refine List.pairwise_cons.2 ⟨?_, h⟩
          intro a ha
          rcases List.mem_cons.1 ha with rfl | hr
          · exact hlt
          · exact String.lt_trans hlt (hhead a hr)
        · rw [if_neg hlt]
          refine List.pairwise_cons.2 ⟨?_, ih htail⟩
          intro a ha
          rcases mem_insert ha with rfl | hr
          · exact lt_of_ne_of_not_lt hk hlt
          · exact hhead a hr

/-- **Members in order are told by their lookups.** -/
theorem Sorted.ext {a b : Members} (ha : Sorted a) (hb : Sorted b)
    (h : ∀ key, lookup key a = lookup key b) : a = b := by
  -- each holds every member of the other, so they are permutations, and the order fixes which
  have hsub : ∀ {x y : Members}, Sorted x → (∀ key, lookup key x = lookup key y) →
      ∀ m ∈ x, m ∈ y := by
    intro x y hx hxy m hm
    have hm' := hx.distinct.lookup_of_mem hm
    rw [hxy] at hm'
    exact mem_of_lookup hm'
  have hperm : a.Perm b := by
    apply (List.perm_ext_iff_of_nodup ha.distinct.nodup hb.distinct.nodup).2
    intro m
    exact ⟨hsub ha h m, hsub hb (fun key => (h key).symm) m⟩
  refine List.Perm.eq_of_pairwise ?_ ha hb hperm
  intro x y _ _ hxy hyx
  exact absurd (String.lt_trans hxy hyx) (String.lt_irrefl _)

/-! ## Putting in order -/

/-- What inserting several members one after the other keeps. -/
theorem foldl_insert_sorted (members : Members) {found : Members} (h : Sorted found) :
    Sorted (members.foldl (fun found m => insert m.1 m.2 found) found) := by
  induction members generalizing found with
  | nil => exact h
  | cons m r ih => exact ih (h.insert m.1 m.2)

theorem sorted_sorted (members : Members) : Sorted (sorted members) :=
  foldl_insert_sorted members List.Pairwise.nil

theorem mem_foldl_insert (members : Members) {found : Members} {m : String × Json}
    (h : m ∈ members.foldl (fun found m => insert m.1 m.2 found) found) :
    m ∈ members ∨ m ∈ found := by
  induction members generalizing found with
  | nil => exact .inr h
  | cons m' r ih =>
      rcases ih h with hr | hi
      · exact .inl (List.mem_cons_of_mem m' hr)
      · rcases mem_insert hi with rfl | hf
        · exact .inl List.mem_cons_self
        · exact .inr hf

theorem mem_sorted {members : Members} {m : String × Json} (h : m ∈ sorted members) :
    m ∈ members := by
  rcases mem_foldl_insert members h with hm | hm
  · exact hm
  · cases hm

/-- With distinct keys each lookup finds the inserted member, or what was there before. -/
theorem Distinct.lookup_foldl_insert {members : Members} (h : Distinct members) (found : Members)
    (key : String) :
    lookup key (members.foldl (fun found m => insert m.1 m.2 found) found) =
      (lookup key members).or (lookup key found) := by
  induction members generalizing found with
  | nil => rfl
  | cons m r ih =>
      obtain ⟨hhead, htail⟩ := List.pairwise_cons.1 h
      rw [List.foldl_cons, ih htail]
      by_cases hk : m.1 = key
      · -- no later member has this key, so the inserted one is not replaced
        have hr : lookup key r = none := lookup_eq_none.2 fun a ha => hk ▸ Ne.symm (hhead a ha)
        rw [hr, lookup_cons, if_pos hk, ← hk, lookup_insert_self]
        rfl
      · rw [lookup_insert_of_ne (Ne.symm hk), lookup_cons, if_neg hk]

/-- Putting members with distinct keys in order changes no lookup. -/
theorem Distinct.lookup_sorted {members : Members} (h : Distinct members) (key : String) :
    lookup key (sorted members) = lookup key members := by
  rw [sorted, h.lookup_foldl_insert]
  exact Option.or_none

/-- **Members in order stay as they are.** -/
theorem Sorted.sorted_eq {members : Members} (h : Sorted members) : sorted members = members :=
  (sorted_sorted members).ext h h.distinct.lookup_sorted

end VideoSurvey.Json.Members
