import VideoSurvey.Proofs.Json.Members

/-!
# Values in order, and what fits into a text

Three things are asked of a JSON value elsewhere: that the members of every object in it stand in
order (`Ordered`), that brackets are nested no deeper than there is room for (`depth`), and that
every number in it is an integer that 64 bits hold (`hasWholeNumbers`). Each is told of an array
or an object by its parts. `sortKeys` puts a value in order, keeps the other two, and leaves a
value in order alone.
-/

set_option autoImplicit false

namespace VideoSurvey.Json

/-- What holds of a bracket whenever it holds of its parts holds of every value. -/
@[elab_as_elim]
theorem induct {P : Json → Prop} (null : P .null) (bool : ∀ b, P (.bool b))
    (num : ∀ n, P (.num n)) (str : ∀ s, P (.str s))
    (arr : ∀ items, (∀ v ∈ items, P v) → P (.arr items))
    (obj : ∀ members, (∀ m ∈ members, P m.2) → P (.obj members)) (v : Json) : P v := by
  match v with
  | .null => exact null
  | .bool b => exact bool b
  | .num n => exact num n
  | .str s => exact str s
  | .arr items =>
      apply arr items
      intro v hv
      -- the items are smaller than the array that holds them
      have := List.sizeOf_lt_of_mem hv
      exact induct null bool num str arr obj v
  | .obj members =>
      apply obj members
      rintro ⟨key, v⟩ hm
      have := List.sizeOf_lt_of_mem hm
      exact induct null bool num str arr obj v
termination_by sizeOf v
decreasing_by
  · simp only [Json.arr.sizeOf_spec]
    omega
  · simp only [Json.obj.sizeOf_spec]
    simp only [Prod.mk.sizeOf_spec] at this
    omega

/-! ## Nesting -/

mutual

/-- How deep brackets are nested. -/
def depth : Json → Nat
  | .arr items => depthItems items + 1
  | .obj members => depthMembers members + 1
  | _ => 0

/-- `depth` over the items of an array. -/
def depthItems : List Json → Nat
  | [] => 0
  | v :: r => max (depth v) (depthItems r)

/-- `depth` over the values of an object's members. -/
def depthMembers : Members → Nat
  | [] => 0
  | (_, v) :: r => max (depth v) (depthMembers r)

end

theorem depth_arr_le {items : List Json} {room : Nat} :
    depth (.arr items) ≤ room + 1 ↔ ∀ v ∈ items, depth v ≤ room := by
  rw [depth, Nat.add_le_add_iff_right]
  induction items with
  | nil => simp [depthItems]
  | cons v r ih => rw [depthItems, Nat.max_le, ih, List.forall_mem_cons]

theorem depth_obj_le {members : Members} {room : Nat} :
    depth (.obj members) ≤ room + 1 ↔ ∀ m ∈ members, depth m.2 ≤ room := by
  rw [depth, Nat.add_le_add_iff_right]
  induction members with
  | nil => simp [depthMembers]
  | cons m r ih => rw [depthMembers, Nat.max_le, ih, List.forall_mem_cons]

theorem depth_arr_pos (items : List Json) : 0 < depth (.arr items) := Nat.succ_pos _

theorem depth_obj_pos (members : Members) : 0 < depth (.obj members) := Nat.succ_pos _

/-! ## Numbers -/

/-- The least integer that is kept exactly. -/
def leastInteger : Int := -9223372036854775808

/-- The greatest integer that is kept exactly. -/
def greatestInteger : Int := 18446744073709551615

mutual

/-- Whether every number is an integer that is kept exactly. -/
def hasWholeNumbers : Json → Bool
  | .num (.integer n) => leastInteger ≤ n && n ≤ greatestInteger
  | .num (.binary _) => false
  | .arr items => itemsWhole items
  | .obj members => membersWhole members
  | _ => true

/-- `hasWholeNumbers` for the items of an array. -/
def itemsWhole : List Json → Bool
  | [] => true
  | v :: r => hasWholeNumbers v && itemsWhole r

/-- `hasWholeNumbers` for the values of an object's members. -/
def membersWhole : Members → Bool
  | [] => true
  | (_, v) :: r => hasWholeNumbers v && membersWhole r

end

theorem hasWholeNumbers_integer {n : Int} :
    hasWholeNumbers (.num (.integer n)) = true ↔ leastInteger ≤ n ∧ n ≤ greatestInteger := by
  rw [hasWholeNumbers, Bool.and_eq_true, decide_eq_true_eq, decide_eq_true_eq]

theorem hasWholeNumbers_arr {items : List Json} :
    hasWholeNumbers (.arr items) = true ↔ ∀ v ∈ items, hasWholeNumbers v = true := by
  rw [hasWholeNumbers]
  induction items with
  | nil => simp [itemsWhole]
  | cons v r ih => rw [itemsWhole, Bool.and_eq_true, ih, List.forall_mem_cons]

theorem hasWholeNumbers_obj {members : Members} :
    hasWholeNumbers (.obj members) = true ↔ ∀ m ∈ members, hasWholeNumbers m.2 = true := by
  rw [hasWholeNumbers]
  induction members with
  | nil => simp [membersWhole]
  | cons m r ih => rw [membersWhole, Bool.and_eq_true, ih, List.forall_mem_cons]

/-! ## Order -/

/-- The members of every object inside stand in order. -/
inductive Ordered : Json → Prop where
  | null : Ordered .null
  | bool (b : Bool) : Ordered (.bool b)
  | num (n : Decimal.Number) : Ordered (.num n)
  | str (s : String) : Ordered (.str s)
  | arr {items : List Json} (each : ∀ v ∈ items, Ordered v) : Ordered (.arr items)
  | obj {members : Members} (sorted : members.Sorted) (each : ∀ m ∈ members, Ordered m.2) :
      Ordered (.obj members)

theorem ordered_arr {items : List Json} : Ordered (.arr items) ↔ ∀ v ∈ items, Ordered v := by
  constructor
  · rintro (_ | _ | _ | _ | each)
    exact each
  · exact .arr

theorem ordered_obj {members : Members} :
    Ordered (.obj members) ↔ members.Sorted ∧ ∀ m ∈ members, Ordered m.2 := by
  constructor
  · intro h
    cases h with
    | obj sorted each => exact ⟨sorted, each⟩
  · rintro ⟨sorted, each⟩
    exact .obj sorted each

/-- What holds of the parts of a bracket. -/
def Each (Q : Json → Prop) : Json → Prop
  | .arr items => ∀ v ∈ items, Q v
  | .obj members => ∀ m ∈ members, Q m.2
  | _ => True

/-- The parts of a value in order are in order. -/
theorem Ordered.each {v : Json} (h : Ordered v) : v.Each Ordered := by
  cases h with
  | arr each => exact each
  | obj sorted each => exact each
  | _ => exact trivial

theorem Each.and {Q R : Json → Prop} {v : Json} (hq : v.Each Q) (hr : v.Each R) :
    v.Each fun w => Q w ∧ R w := by
  cases v with
  | arr items => exact fun w hw => ⟨hq w hw, hr w hw⟩
  | obj members => exact fun m hm => ⟨hq m hm, hr m hm⟩
  | _ => exact trivial

theorem each_of_depth_le {v : Json} {room : Nat} (h : v.depth ≤ room + 1) :
    v.Each fun w => w.depth ≤ room := by
  cases v with
  | arr items => exact depth_arr_le.1 h
  | obj members => exact depth_obj_le.1 h
  | _ => exact trivial

theorem sortItems_eq_map (items : List Json) : sortKeys.sortItems items = items.map sortKeys := by
  induction items with
  | nil => rfl
  | cons v r ih => rw [sortKeys.sortItems, ih, List.map_cons]

theorem sortMembers_eq_map (members : Members) :
    sortKeys.sortMembers members = members.map fun m => (m.1, sortKeys m.2) := by
  induction members with
  | nil => rfl
  | cons m r ih => rw [sortKeys.sortMembers, ih, List.map_cons]

theorem sortKeys_arr (items : List Json) : sortKeys (.arr items) = .arr (items.map sortKeys) := by
  rw [sortKeys, sortItems_eq_map]

theorem sortKeys_obj (members : Members) :
    sortKeys (.obj members) = .obj (Members.sorted (members.map fun m => (m.1, sortKeys m.2))) := by
  rw [sortKeys, sortMembers_eq_map]

/-- Putting members with distinct keys in order puts the value of each key in order. -/
theorem lookup_sortKeys {members : Members} (h : members.Distinct) (key : String) :
    Members.lookup key (Members.sorted (members.map fun m => (m.1, sortKeys m.2))) =
      (members.lookup key).map sortKeys := by
  have hmap : Members.Distinct (members.map fun m => (m.1, sortKeys m.2)) := List.pairwise_map.2 h
  rw [hmap.lookup_sorted, Members.lookup_map]

/-- **`sortKeys` puts a value in order.** -/
theorem sortKeys_ordered (v : Json) : Ordered v.sortKeys := by
  induction v using induct with
  | null => exact .null
  | bool b => exact .bool b
  | num n => exact .num n
  | str s => exact .str s
  | arr items ih =>
      rw [sortKeys_arr, ordered_arr]
      intro v hv
      obtain ⟨w, hw, rfl⟩ := List.mem_map.1 hv
      exact ih w hw
  | obj members ih =>
      rw [sortKeys_obj, ordered_obj]
      refine ⟨Members.sorted_sorted _, ?_⟩
      intro m hm
      obtain ⟨w, hw, rfl⟩ := List.mem_map.1 (Members.mem_sorted hm)
      exact ih w hw

/-- **A value in order stays as it is.** -/
theorem sortKeys_of_ordered {v : Json} (h : Ordered v) : v.sortKeys = v := by
  induction v using induct with
  | null => rfl
  | bool b => rfl
  | num n => rfl
  | str s => rfl
  | arr items ih =>
      have each := ordered_arr.1 h
      have hmap : items.map sortKeys = items := by
        refine (List.map_congr_left ?_).trans (List.map_id items)
        intro v hv
        exact ih v hv (each v hv)
      rw [sortKeys_arr, hmap]
  | obj members ih =>
      obtain ⟨sorted, each⟩ := ordered_obj.1 h
      have hmap : members.map (fun m => (m.1, sortKeys m.2)) = members := by
        refine (List.map_congr_left ?_).trans (List.map_id members)
        intro m hm
        exact Prod.ext rfl (ih m hm (each m hm))
      rw [sortKeys_obj, hmap, sorted.sorted_eq]

section Members

variable {members : Members}

theorem Ordered.lookup (h : Ordered (.obj members)) {key : String} {v : Json}
    (hv : members.lookup key = some v) : Ordered v :=
  (ordered_obj.1 h).2 _ (Members.mem_of_lookup hv)

/-- The values of members in order are in order already. -/
theorem Ordered.lookup_map_sortKeys (h : Ordered (.obj members)) (key : String) :
    (members.lookup key).map sortKeys = members.lookup key := by
  cases hlookup : members.lookup key with
  | none => rfl
  | some v => exact congrArg some (sortKeys_of_ordered (h.lookup hlookup))

theorem Ordered.insert (h : Ordered (.obj members)) (key : String) {v : Json} (hv : Ordered v) :
    Ordered (.obj (members.insert key v)) := by
  obtain ⟨sorted, each⟩ := ordered_obj.1 h
  refine ordered_obj.2 ⟨sorted.insert key v, ?_⟩
  intro m hm
  rcases Members.mem_insert hm with rfl | hm
  · exact hv
  · exact each m hm

theorem Ordered.filter (h : Ordered (.obj members)) (p : String × Json → Bool) :
    Ordered (.obj (members.filter p)) := by
  obtain ⟨sorted, each⟩ := ordered_obj.1 h
  refine ordered_obj.2 ⟨sorted.filter p, ?_⟩
  intro m hm
  exact each m (List.mem_filter.1 hm).1

end Members

theorem depth_sortKeys_le {v : Json} {room : Nat} (h : v.depth ≤ room) :
    v.sortKeys.depth ≤ room := by
  induction v using induct generalizing room with
  | null => exact h
  | bool b => exact h
  | num n => exact h
  | str s => exact h
  | arr items ih =>
      -- the array itself takes one level of the room
      obtain ⟨room, rfl⟩ := Nat.exists_eq_add_of_lt (Nat.lt_of_lt_of_le (depth_arr_pos items) h)
      simp only [Nat.zero_add] at h ⊢
      rw [sortKeys_arr, depth_arr_le]
      intro v hv
      obtain ⟨w, hw, rfl⟩ := List.mem_map.1 hv
      exact ih w hw (depth_arr_le.1 h w hw)
  | obj members ih =>
      obtain ⟨room, rfl⟩ := Nat.exists_eq_add_of_lt (Nat.lt_of_lt_of_le (depth_obj_pos members) h)
      simp only [Nat.zero_add] at h ⊢
      rw [sortKeys_obj, depth_obj_le]
      intro m hm
      obtain ⟨w, hw, rfl⟩ := List.mem_map.1 (Members.mem_sorted hm)
      exact ih w hw (depth_obj_le.1 h w hw)

theorem hasWholeNumbers_sortKeys {v : Json} (h : v.hasWholeNumbers = true) :
    v.sortKeys.hasWholeNumbers = true := by
  induction v using induct with
  | null => exact h
  | bool b => exact h
  | num n => exact h
  | str s => exact h
  | arr items ih =>
      rw [sortKeys_arr, hasWholeNumbers_arr]
      intro v hv
      obtain ⟨w, hw, rfl⟩ := List.mem_map.1 hv
      exact ih w hw (hasWholeNumbers_arr.1 h w hw)
  | obj members ih =>
      rw [sortKeys_obj, hasWholeNumbers_obj]
      intro m hm
      obtain ⟨w, hw, rfl⟩ := List.mem_map.1 (Members.mem_sorted hm)
      exact ih w hw (hasWholeNumbers_obj.1 h w hw)

end VideoSurvey.Json
