import VideoSurvey.Json.Reader
import VideoSurvey.Proofs.Json.Values
import VideoSurvey.Proofs.Results

/-!
# What reading gives

Whatever text is read: the members of every object in the value stand in order, each key once, and
brackets are nested no deeper than there was room for (`read_ordered`, `depth_read_le`). What the
reader of one item always gives holds of every item of a list that was read (`itemsLoop_forall`).
-/

set_option autoImplicit false

namespace VideoSurvey.Json

open Results

section Loops

variable {α : Type} {item : Reader α} {P : α → Prop}

theorem enclosed_eq_ok {close : Cursor → Cursor × Option ReadError} {c c' : Cursor} {a : α}
    (h : enclosed close item c = .ok (a, c')) : ∃ c'', item c = .ok (a, c'') := by
  unfold enclosed at h
  cases hitem : item c with
  | error halt =>
      rw [hitem] at h
      cases halt with
      | settled e => cases h
      | pending m place => cases h
  | ok found =>
      obtain ⟨a', c''⟩ := found
      rw [hitem] at h
      refine ⟨c'', ?_⟩
      simp only at h
      split at h
      · cases h
      · cases h
        rfl

/-- What every read item has, all items of a list have. -/
theorem itemsLoop_forall (hitem : ∀ c a c', item c = .ok (a, c') → P a) {fuel : Nat}
    {isFirst : Bool} {read found : List α} {c c' : Cursor}
    (h : itemsLoop item fuel isFirst read c = .ok (found, c')) (hread : ∀ a ∈ read, P a) :
    ∀ a ∈ found, P a := by
  -- the items read so far are handed on, so they go with the induction
  induction fuel generalizing isFirst read c with
  | zero => cases h
  | succ fuel ih =>
      unfold itemsLoop at h
      obtain ⟨⟨more, c1⟩, -, h⟩ := bind_eq_ok.1 h
      cases more with
      | false =>
          cases h
          intro a ha
          exact hread a (List.mem_reverse.1 ha)
      | true =>
          obtain ⟨⟨a, c2⟩, ha, h⟩ := bind_eq_ok.1 h
          apply ih h
          intro b hb
          rcases List.mem_cons.1 hb with rfl | hb
          · exact hitem _ _ _ ha
          · exact hread b hb

/-- What every read item has, the values of all members of an object have. -/
theorem membersLoop_forall (hitem : ∀ c a c', item c = .ok (a, c') → P a) {fuel : Nat}
    {isFirst : Bool} {read found : List (String × α)} {c c' : Cursor}
    (h : membersLoop item fuel isFirst read c = .ok (found, c')) (hread : ∀ m ∈ read, P m.2) :
    ∀ m ∈ found, P m.2 := by
  induction fuel generalizing isFirst read c with
  | zero => cases h
  | succ fuel ih =>
      unfold membersLoop at h
      obtain ⟨⟨more, c1⟩, -, h⟩ := bind_eq_ok.1 h
      cases more with
      | false =>
          cases h
          intro m hm
          exact hread m (List.mem_reverse.1 hm)
      | true =>
          obtain ⟨⟨key, c2⟩, -, h⟩ := bind_eq_ok.1 h
          obtain ⟨⟨_, c3⟩, -, h⟩ := bind_eq_ok.1 h
          obtain ⟨⟨a, c4⟩, ha, h⟩ := bind_eq_ok.1 h
          apply ih h
          intro m hm
          rcases List.mem_cons.1 hm with rfl | hm
          · exact hitem _ _ _ ha
          · exact hread m hm

end Loops

/-! ## Values -/

theorem literal_eq_ok {v w : Json} {s : List Char} {c c' : Cursor}
    (h : literal v s c = .ok (w, c')) : w = v := by
  induction s generalizing c with
  | nil =>
      cases h
      rfl
  | cons x s ih =>
      unfold literal at h
      split at h
      · cases h
      · split at h
        · exact ih h
        · cases h

/-- A value without brackets is in order and nests nothing. -/
theorem scalar_ordered {c c' : Cursor} {v : Json} (h : scalar c = .ok (v, c')) :
    Ordered v ∧ v.depth = 0 := by
  unfold scalar at h
  split at h
  · cases h
  · obtain rfl := literal_eq_ok h
    exact ⟨.null, rfl⟩
  · obtain rfl := literal_eq_ok h
    exact ⟨.bool true, rfl⟩
  · obtain rfl := literal_eq_ok h
    exact ⟨.bool false, rfl⟩
  · obtain ⟨⟨s, c1⟩, -, h⟩ := bind_eq_ok.1 h
    cases h
    exact ⟨.str s, rfl⟩
  · split at h
    · obtain ⟨⟨n, c1⟩, -, h⟩ := bind_eq_ok.1 h
      cases h
      exact ⟨.num n, rfl⟩
    · cases h

theorem scalar_reader_ordered {c c' : Cursor} {v : Json} (h : scalar.reader c = .ok (v, c'))
    (room : Nat) : Ordered v ∧ v.depth ≤ room := by
  unfold Scanner.reader at h
  split at h
  · rename_i hscalar
    cases h
    obtain ⟨hordered, hdepth⟩ := scalar_ordered hscalar
    exact ⟨hordered, hdepth ▸ Nat.zero_le room⟩
  · cases h

/-- A value that is read is in order and nested no deeper than there is room for. -/
theorem value_ordered {room : Nat} {c c' : Cursor} {v : Json} (h : value room c = .ok (v, c')) :
    Ordered v ∧ v.depth ≤ room := by
  -- on the room: the parts of a bracket are read with one level less
  induction room generalizing c c' v with
  | zero =>
      unfold value at h
      simp only at h
      split at h
      · cases h
      · cases h
      · rename_i hroom
        cases hroom
      · rename_i hroom
        cases hroom
      · exact scalar_reader_ordered h 0
  | succ room ih =>
      unfold value at h
      simp only at h
      split at h
      · rename_i hroom
        cases hroom
      · rename_i hroom
        cases hroom
      · rename_i hroom
        cases hroom
        obtain ⟨⟨found, c1⟩, hfound, h⟩ := bind_eq_ok.1 h
        cases h
        obtain ⟨c2, hitems⟩ := enclosed_eq_ok hfound
        unfold items at hitems
        have heach := itemsLoop_forall (fun _ _ _ => ih) hitems (fun _ ha => by cases ha)
        exact ⟨.arr fun v hv => (heach v hv).1, depth_arr_le.2 fun v hv => (heach v hv).2⟩
      · rename_i hroom
        cases hroom
        obtain ⟨⟨found, c1⟩, hfound, h⟩ := bind_eq_ok.1 h
        cases h
        obtain ⟨c2, hmembers⟩ := enclosed_eq_ok hfound
        unfold members at hmembers
        have heach := membersLoop_forall (fun _ _ _ => ih) hmembers (fun _ ha => by cases ha)
        exact ⟨.obj (Members.sorted_sorted found) fun m hm => (heach m (Members.mem_sorted hm)).1,
          depth_obj_le.2 fun m hm => (heach m (Members.mem_sorted hm)).2⟩
      · exact scalar_reader_ordered h (room + 1)

theorem readWhole_eq_ok {α : Type} {item : Reader α} {text : String} {a : α}
    (h : readWhole item text = .ok a) : ∃ c, item (Cursor.ofText text) = .ok (a, c) := by
  unfold readWhole at h
  split at h
  · cases h
  · rename_i a' c hitem
    simp only at h
    split at h
    · cases h
      exact ⟨c, hitem⟩
    · cases h

/-- **A value that was read is in order.** -/
theorem read_ordered {text : String} {v : Json} (h : read text = .ok v) : Ordered v := by
  obtain ⟨c, hvalue⟩ := readWhole_eq_ok h
  exact (value_ordered hvalue).1

/-- **A value that was read is nested no deeper than the reader allows.** -/
theorem depth_read_le {text : String} {v : Json} (h : read text = .ok v) :
    v.depth ≤ greatestDepth := by
  obtain ⟨c, hvalue⟩ := readWhole_eq_ok h
  exact (value_ordered hvalue).2

end VideoSurvey.Json
