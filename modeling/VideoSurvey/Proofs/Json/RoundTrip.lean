import VideoSurvey.Json.Reader
import VideoSurvey.Proofs.Json.Tokens

/-!
# Reading what was written

The two written forms of a value differ in the blanks between tokens only. `written` is the form
with a given layout of blanks, and the value reader takes each back to the value with its keys in
order (`value_written`): brackets may be nested as deep as there is room for, and every number must
be an integer that 64 bits hold. For the compact form this is `read_compactText`.
-/

set_option autoImplicit false

namespace VideoSurvey.Json

open Cursor (isSpace skipSpaces)

/-! ## Layouts -/

/-- Blanks only. -/
def Blank (s : List Char) : Prop := ∀ c ∈ s, isSpace c = true

/-- The blanks between the tokens of a written value. -/
structure Layout where
  /-- Before an item, a member or a closing bracket, by the brackets around it. -/
  newLine : Nat → List Char
  afterColon : List Char
  newLine_blank : ∀ level, Blank (newLine level)
  afterColon_blank : Blank afterColon

/-- No blanks at all. -/
def Layout.compact : Layout where
  newLine _ := []
  afterColon := []
  newLine_blank := by
    rintro level c ⟨⟩
  afterColon_blank := by
    rintro c ⟨⟩

mutual

/-- A value in a layout; `level` counts the brackets around it. -/
def written (l : Layout) (level : Nat) : Json → List Char
  | .null => "null".toList
  | .bool b => boolText b
  | .num n => numberText n
  | .str s => quoteString s
  | .arr [] => ['[', ']']
  | .arr (v :: r) =>
      '[' :: l.newLine (level + 1) ++ written l (level + 1) v ++ writtenItems l level r
  | .obj [] => ['\x7b', '\x7d']
  | .obj ((k, v) :: r) =>
      '\x7b' :: l.newLine (level + 1) ++ quoteString k ++ ':' :: l.afterColon ++
        written l (level + 1) v ++ writtenMembers l level r

/-- The items after the first, and the closing bracket. -/
def writtenItems (l : Layout) (level : Nat) : List Json → List Char
  | [] => l.newLine level ++ [']']
  | v :: r => ',' :: l.newLine (level + 1) ++ written l (level + 1) v ++ writtenItems l level r

/-- The members after the first, and the closing bracket. -/
def writtenMembers (l : Layout) (level : Nat) : List (String × Json) → List Char
  | [] => l.newLine level ++ ['\x7d']
  | (k, v) :: r =>
      ',' :: l.newLine (level + 1) ++ quoteString k ++ ':' :: l.afterColon ++
        written l (level + 1) v ++ writtenMembers l level r

end

mutual

/-- The compact form is the one without blanks. -/
theorem written_compact (level : Nat) (v : Json) : written .compact level v = compact v := by
  match v with
  | .null => rfl
  | .bool b => rfl
  | .num n => rfl
  | .str s => rfl
  | .arr [] => rfl
  | .arr (v :: r) =>
      rw [written, compact, written_compact (level + 1) v, writtenItems_compact level r]
      rfl
  | .obj [] => rfl
  | .obj ((k, v) :: r) =>
      rw [written, compact, written_compact (level + 1) v, writtenMembers_compact level r]
      simp [Layout.compact]

theorem writtenItems_compact (level : Nat) (r : List Json) :
    writtenItems .compact level r = compactItems r := by
  match r with
  | [] => rfl
  | v :: r =>
      rw [writtenItems, compactItems, written_compact (level + 1) v, writtenItems_compact level r]
      rfl

theorem writtenMembers_compact (level : Nat) (r : List (String × Json)) :
    writtenMembers .compact level r = compactMembers r := by
  match r with
  | [] => rfl
  | (k, v) :: r =>
      rw [writtenMembers, compactMembers, written_compact (level + 1) v,
        writtenMembers_compact level r]
      simp [Layout.compact]

end

/-! ## Between tokens -/

theorem skipSpaces_blank {b : List Char} (hb : Blank b) (s : List Char) (p : Position) :
    skipSpaces (b ++ s) p = skipSpaces s (p.afterAll b) := by
  induction b generalizing p with
  | nil => rfl
  | cons c b ih =>
      rw [List.cons_append, skipSpaces, if_pos (hb c List.mem_cons_self)]
      exact ih (fun d hd => hb d (List.mem_cons_of_mem c hd)) (p.after c)

theorem skipSpaces_of_not_space {c : Char} (hc : isSpace c = false) (s : List Char)
    (p : Position) : skipSpaces (c :: s) p = ⟨c :: s, p⟩ := by
  rw [skipSpaces, hc]
  rfl

theorem skipSpace_blank_cons {b : List Char} (hb : Blank b) {c : Char} (hc : isSpace c = false)
    (s : List Char) (p : Position) :
    Cursor.skipSpace ⟨b ++ c :: s, p⟩ = ⟨c :: s, p.afterAll b⟩ := by
  show skipSpaces (b ++ c :: s) p = _
  rw [skipSpaces_blank hb, skipSpaces_of_not_space hc]

section Brackets

variable {b : List Char} (hb : Blank b) (s : List Char) (p : Position)
include hb

/-- The closing bracket of a list. -/
theorem moreItems_close (isFirst : Bool) :
    moreItems isFirst ⟨b ++ ']' :: s, p⟩ = .ok (false, ⟨']' :: s, p.afterAll b⟩) := by
  unfold moreItems
  rw [skipSpace_blank_cons hb rfl]
  rfl

/-- The first item of a list. -/
theorem moreItems_first {c : Char} (hc : isSpace c = false) (hne : c ≠ ']') :
    moreItems true ⟨b ++ c :: s, p⟩ = .ok (true, ⟨c :: s, p.afterAll b⟩) := by
  unfold moreItems
  simp only [skipSpace_blank_cons hb hc, if_true]

/-- Another item of a list. -/
theorem moreItems_next {c : Char} (hc : isSpace c = false) (hne : c ≠ ']') :
    moreItems false ⟨',' :: (b ++ c :: s), p⟩ =
      .ok (true, ⟨c :: s, (p.after ',').afterAll b⟩) := by
  have hnext : Cursor.skipSpace (Cursor.next ⟨',' :: (b ++ c :: s), p⟩) =
      ⟨c :: s, (p.after ',').afterAll b⟩ := skipSpace_blank_cons hb hc s (p.after ',')
  have hcomma : Cursor.skipSpace ⟨',' :: (b ++ c :: s), p⟩ = ⟨',' :: (b ++ c :: s), p⟩ := rfl
  unfold moreItems
  simp only [hcomma, hnext]
  split
  -- neither the end of the text nor the closing bracket: the text begins with a comma
  · rename_i heq
    cases heq
  · rename_i heq
    obtain ⟨heq, -⟩ := List.cons.inj heq
    cases heq
  · rename_i heq
    obtain ⟨rfl, -⟩ := List.cons.inj heq
    simp only [Bool.false_eq_true, if_false, if_true]

/-- The closing bracket of an object. -/
theorem moreMembers_close (isFirst : Bool) :
    moreMembers isFirst ⟨b ++ '\x7d' :: s, p⟩ = .ok (false, ⟨'\x7d' :: s, p.afterAll b⟩) := by
  unfold moreMembers
  rw [skipSpace_blank_cons hb rfl]
  rfl

/-- The first member of an object. -/
theorem moreMembers_first :
    moreMembers true ⟨b ++ '"' :: s, p⟩ = .ok (true, ⟨'"' :: s, p.afterAll b⟩) := by
  unfold moreMembers
  rw [skipSpace_blank_cons hb rfl]
  rfl

/-- Another member of an object. -/
theorem moreMembers_next :
    moreMembers false ⟨',' :: (b ++ '"' :: s), p⟩ =
      .ok (true, ⟨'"' :: s, (p.after ',').afterAll b⟩) := by
  have hnext : Cursor.skipSpace (Cursor.next ⟨',' :: (b ++ '"' :: s), p⟩) =
      ⟨'"' :: s, (p.after ',').afterAll b⟩ := skipSpace_blank_cons hb rfl s (p.after ',')
  have hcomma : Cursor.skipSpace ⟨',' :: (b ++ '"' :: s), p⟩ = ⟨',' :: (b ++ '"' :: s), p⟩ := rfl
  unfold moreMembers
  simp only [hcomma, hnext]
  rfl

end Brackets

/-! ## Brackets around items -/

/-- A reader takes a text to a value, whatever blanks stand before it and whatever stands behind
it. -/
def ReadsBack {α : Type} (item : Reader α) (s : List Char) (a : α) : Prop :=
  ∀ b, Blank b → ∀ rest, EndsNumber rest → ∀ p,
    item ⟨b ++ (s ++ rest), p⟩ = .ok (a, ⟨rest, (p.afterAll b).afterAll s⟩)

theorem blank_nil : Blank [] := by
  rintro c ⟨⟩

theorem ReadsBack.here {α : Type} {item : Reader α} {s : List Char} {a : α}
    (h : ReadsBack item s a) {rest : List Char} (hrest : EndsNumber rest) (p : Position) :
    item ⟨s ++ rest, p⟩ = .ok (a, ⟨rest, p.afterAll s⟩) :=
  h [] blank_nil rest hrest p

/-- What stands behind the opening bracket of a list. -/
def itemsBody (l : Layout) (level : Nat) : List Json → List Char
  | [] => [']']
  | v :: r => l.newLine (level + 1) ++ written l (level + 1) v ++ writtenItems l level r

/-- What stands behind the opening bracket of an object. -/
def membersBody (l : Layout) (level : Nat) : Members → List Char
  | [] => ['\x7d']
  | (k, v) :: r =>
      l.newLine (level + 1) ++ quoteString k ++ ':' :: l.afterColon ++
        written l (level + 1) v ++ writtenMembers l level r

theorem written_arr (l : Layout) (level : Nat) (items : List Json) :
    written l level (.arr items) = '[' :: itemsBody l level items := by
  cases items with
  | nil => rfl
  | cons v r =>
      rw [written, itemsBody]
      simp

theorem written_obj (l : Layout) (level : Nat) (members : Members) :
    written l level (.obj members) = '\x7b' :: membersBody l level members := by
  cases members with
  | nil => rfl
  | cons m r =>
      rw [written, membersBody]
      simp

/-- The head of a written integer. -/
theorem head_intDigits (n : Int) :
    ∃ c t, intDigits n = c :: t ∧ (c = '-' ∨ c.isDigit = true) := by
  unfold intDigits
  by_cases hn : n < 0
  · rw [if_pos hn]
    exact ⟨'-', _, rfl, .inl rfl⟩
  · rw [if_neg hn]
    obtain ⟨c, s, hs⟩ := List.exists_cons_of_ne_nil (natDigits_ne_nil n.natAbs)
    exact ⟨c, s, hs, .inr (isDigit_natDigits (hs ▸ List.mem_cons_self))⟩

/-- A digit or a minus sign is neither a blank nor a bracket, nor the head of `null`. -/
theorem isSpace_of_digit {c : Char} (h : c = '-' ∨ c.isDigit = true) :
    isSpace c = false ∧ c ≠ ']' ∧ c ≠ '[' ∧ c ≠ '\x7b' ∧ c ≠ 'n' := by
  rcases h with rfl | h
  · decide
  · refine ⟨?_, ?_, ?_, ?_, ?_⟩
    · unfold isSpace
      simp only [Bool.or_eq_false_iff, decide_eq_false_iff_not]
      refine ⟨⟨⟨?_, ?_⟩, ?_⟩, ?_⟩
      · rintro rfl
        cases h
      · rintro rfl
        cases h
      · rintro rfl
        cases h
      · rintro rfl
        cases h
    · rintro rfl
      cases h
    · rintro rfl
      cases h
    · rintro rfl
      cases h
    · rintro rfl
      cases h

/-- A written value begins with a character that is neither a blank nor a closing bracket, and with
the head of `null` only if it is `null`. -/
theorem head_written (l : Layout) (level : Nat) {v : Json} (hv : v.hasWholeNumbers = true) :
    ∃ c t, written l level v = c :: t ∧ isSpace c = false ∧ c ≠ ']' ∧ (v ≠ .null → c ≠ 'n') := by
  cases v with
  | null => exact ⟨'n', _, rfl, rfl, by decide, fun hnull => absurd rfl hnull⟩
  | bool b =>
      cases b with
      | true => exact ⟨'t', _, rfl, rfl, by decide, fun _ => by decide⟩
      | false => exact ⟨'f', _, rfl, rfl, by decide, fun _ => by decide⟩
  | num n =>
      cases n with
      | integer n =>
          obtain ⟨c, t, ht, hc⟩ := head_intDigits n
          obtain ⟨hspace, hclose, -, -, hnull⟩ := isSpace_of_digit hc
          exact ⟨c, t, ht, hspace, hclose, fun _ => hnull⟩
      | binary x => cases hv
  | str s => exact ⟨'"', _, rfl, rfl, by decide, fun _ => by decide⟩
  | arr items =>
      rw [written_arr]
      exact ⟨'[', _, rfl, rfl, by decide, fun _ => by decide⟩
  | obj members =>
      rw [written_obj]
      exact ⟨'\x7b', _, rfl, rfl, by decide, fun _ => by decide⟩

theorem compactMembers_eq (r : Members) : ∃ s, compactMembers r = s ++ ['\x7d'] := by
  induction r with
  | nil => exact ⟨[], rfl⟩
  | cons m r ih =>
      obtain ⟨s, hs⟩ := ih
      rw [compactMembers, hs, ← List.append_assoc]
      exact ⟨_, rfl⟩

/-- A written object ends with its bracket. -/
theorem compact_obj_eq (members : Members) : ∃ s, compact (.obj members) = s ++ ['\x7d'] := by
  cases members with
  | nil => exact ⟨['\x7b'], rfl⟩
  | cons m r =>
      obtain ⟨s, hs⟩ := compactMembers_eq r
      rw [compact, hs, ← List.append_assoc]
      exact ⟨_, rfl⟩

/-- A blank does not go on with a number. -/
theorem endsNumber_blank_append {b : List Char} (hb : Blank b) {s : List Char}
    (hs : EndsNumber s) : EndsNumber (b ++ s) := by
  cases b with
  | nil => exact hs
  | cons c b =>
      have hc := hb c List.mem_cons_self
      unfold isSpace at hc
      simp only [Bool.or_eq_true, decide_eq_true_eq] at hc
      rcases hc with ((rfl | rfl) | rfl) | rfl <;> exact endsNumber_cons (by decide)

theorem endsNumber_writtenItems (l : Layout) (level : Nat) (r : List Json) (rest : List Char) :
    EndsNumber (writtenItems l level r ++ rest) := by
  cases r with
  | nil =>
      rw [writtenItems, List.append_assoc]
      exact endsNumber_blank_append (l.newLine_blank level) (endsNumber_cons (by decide))
  | cons v r =>
      rw [writtenItems]
      exact endsNumber_cons (by decide)

theorem endsNumber_writtenMembers (l : Layout) (level : Nat) (r : Members) (rest : List Char) :
    EndsNumber (writtenMembers l level r ++ rest) := by
  cases r with
  | nil =>
      rw [writtenMembers, List.append_assoc]
      exact endsNumber_blank_append (l.newLine_blank level) (endsNumber_cons (by decide))
  | cons m r =>
      rw [writtenMembers]
      exact endsNumber_cons (by decide)

section Loops

variable {α : Type} {item : Reader α} {f : Json → α} (l : Layout) (level : Nat)

theorem length_lt_writtenItems (r : List Json) : r.length < (writtenItems l level r).length := by
  induction r with
  | nil =>
      rw [writtenItems, List.length_append]
      exact Nat.succ_pos _
  | cons v r ih =>
      rw [writtenItems]
      simp only [List.length_append, List.length_cons]
      omega

theorem length_lt_writtenMembers (r : Members) :
    r.length < (writtenMembers l level r).length := by
  induction r with
  | nil =>
      rw [writtenMembers, List.length_append]
      exact Nat.succ_pos _
  | cons m r ih =>
      rw [writtenMembers]
      simp only [List.length_append, List.length_cons]
      omega

/-- The items after the first are read up to the closing bracket. -/
theorem itemsLoop_written {r : List Json} {found : List α}
    (hwhole : ∀ v ∈ r, v.hasWholeNumbers = true)
    (hitem : List.Forall₂ (fun v a => ReadsBack item (written l (level + 1) v) a) r found)
    {fuel : Nat} (hfuel : r.length < fuel) (read : List α) (rest : List Char) (p : Position) :
    ∃ q, itemsLoop item fuel false read ⟨writtenItems l level r ++ rest, p⟩ =
        .ok (read.reverse ++ found, ⟨']' :: rest, q⟩) ∧
      q.after ']' = p.afterAll (writtenItems l level r) := by
  -- one unit of fuel is spent on each item and one on the closing bracket
  obtain ⟨fuel, rfl⟩ : ∃ k, fuel = k + 1 := ⟨fuel - 1, by omega⟩
  induction hitem generalizing fuel read p with
  | nil =>
      refine ⟨p.afterAll (l.newLine level), ?_, ?_⟩
      · unfold itemsLoop Scanner.reader
        rw [writtenItems, List.append_assoc, List.singleton_append,
          moreItems_close (l.newLine_blank level)]
        simp [bind, Except.bind]
      · rw [writtenItems, Position.afterAll_append]
        rfl
  | @cons v a r found hv hr ih =>
      obtain ⟨c, t, ht, hspace, hne, -⟩ := head_written l (level + 1) (hwhole v List.mem_cons_self)
      -- a number ends here: a blank, a comma or the closing bracket follows it
      have hread := hv.here (endsNumber_writtenItems l level r rest)
        ((p.after ',').afterAll (l.newLine (level + 1)))
      have htext : writtenItems l level (v :: r) ++ rest =
          ',' :: (l.newLine (level + 1) ++ c :: (t ++ (writtenItems l level r ++ rest))) := by
        rw [writtenItems, ht]
        simp
      rw [ht, List.cons_append] at hread
      have hlen : r.length < fuel := by simpa using hfuel
      obtain ⟨k, rfl⟩ : ∃ k, fuel = k + 1 := ⟨fuel - 1, by omega⟩
      obtain ⟨q, hloop, hq⟩ := ih (fun w hw => hwhole w (List.mem_cons_of_mem v hw)) (a :: read)
        (((p.after ',').afterAll (l.newLine (level + 1))).afterAll (written l (level + 1) v))
        k hlen
      refine ⟨q, ?_, ?_⟩
      · rw [htext, itemsLoop]
        unfold Scanner.reader
        rw [moreItems_next (l.newLine_blank (level + 1)) _ _ hspace hne]
        simp only [bind, Except.bind, if_true, hread, ← ht, hloop, List.reverse_cons,
          List.append_assoc, List.singleton_append]
      · rw [hq, writtenItems]
        simp [Position.afterAll_append]

/-- **A list of items is read from behind its opening bracket to behind its closing one.** -/
theorem enclosed_itemsBody {items : List Json} {found : List α}
    (hwhole : ∀ v ∈ items, v.hasWholeNumbers = true)
    (hitem : List.Forall₂ (fun v a => ReadsBack item (written l (level + 1) v) a) items found)
    (rest : List Char) (p : Position) :
    enclosed closeList (Json.items item) ⟨itemsBody l level items ++ rest, p⟩ =
      .ok (found, ⟨rest, p.afterAll (itemsBody l level items)⟩) := by
  have hclose : ∀ q, closeList ⟨']' :: rest, q⟩ = (⟨rest, q.after ']'⟩, none) := fun _ => rfl
  -- `q` stands before the closing bracket, which `enclosed` itself takes
  suffices hbody : ∃ q, Json.items item ⟨itemsBody l level items ++ rest, p⟩ =
      .ok (found, ⟨']' :: rest, q⟩) ∧ q.after ']' = p.afterAll (itemsBody l level items) by
    obtain ⟨q, hread, hq⟩ := hbody
    unfold enclosed
    simp only [hread, hclose, hq]
  cases hitem with
  | nil => exact ⟨p, rfl, rfl⟩
  | @cons v a r found hv hr =>
      obtain ⟨c, t, ht, hspace, hne, -⟩ := head_written l (level + 1) (hwhole v List.mem_cons_self)
      have hread := hv.here (endsNumber_writtenItems l level r rest)
        (p.afterAll (l.newLine (level + 1)))
      have htext : itemsBody l level (v :: r) ++ rest =
          l.newLine (level + 1) ++ c :: (t ++ (writtenItems l level r ++ rest)) := by
        rw [itemsBody, ht]
        simp
      have hlen := length_lt_writtenItems l level r
      -- the fuel is the length of the text, and each item takes at least one character
      have hfuel : r.length < (itemsBody l level (v :: r) ++ rest).length := by
        rw [itemsBody]
        simp only [List.length_append]
        omega
      rw [ht, List.cons_append] at hread
      obtain ⟨q, hloop, hq⟩ := itemsLoop_written l level
        (fun w hw => hwhole w (List.mem_cons_of_mem v hw)) hr hfuel [a] rest
        ((p.afterAll (l.newLine (level + 1))).afterAll (written l (level + 1) v))
      refine ⟨q, ?_, ?_⟩
      · unfold Json.items
        show itemsLoop item ((itemsBody l level (v :: r) ++ rest).length + 1) true [] _ = _
        rw [itemsLoop]
        unfold Scanner.reader
        rw [htext] at hloop ⊢
        rw [moreItems_first (l.newLine_blank (level + 1)) _ _ hspace hne]
        simp only [bind, Except.bind, if_true, hread, ← ht, hloop]
        rfl
      · rw [hq, itemsBody]
        simp [Position.afterAll_append]

/-- The text of a member. -/
def writtenMember (k : String) (v : Json) : List Char :=
  quoteString k ++ ':' :: l.afterColon ++ written l (level + 1) v

/-- A member is read part by part. -/
theorem member_written (k : String) {v : Json}
    (hitem : ReadsBack item (written l (level + 1) v) (f v)) {rest : List Char}
    (hrest : EndsNumber rest) (p : Position) :
    ∃ c c', string.reader ⟨writtenMember l level k v ++ rest, p⟩ = .ok (k, c) ∧
      colon.reader c = .ok ((), c') ∧
      item c' = .ok (f v, ⟨rest, p.afterAll (writtenMember l level k v)⟩) := by
  have htext : writtenMember l level k v ++ rest =
      quoteString k ++ (':' :: (l.afterColon ++ (written l (level + 1) v ++ rest))) := by
    simp [writtenMember]
  refine ⟨⟨':' :: (l.afterColon ++ (written l (level + 1) v ++ rest)), p.afterAll (quoteString k)⟩,
    ⟨l.afterColon ++ (written l (level + 1) v ++ rest), (p.afterAll (quoteString k)).after ':'⟩,
    ?_, rfl, ?_⟩
  · unfold Scanner.reader
    rw [htext, string_quoteString]
  · rw [hitem _ l.afterColon_blank rest hrest]
    simp [writtenMember, Position.afterAll_append]

section Members

variable (k : String) (v : Json) (r : Members) (rest : List Char) (p : Position)

/-- Another member stands behind a comma and a line break. Only the quotation mark of its key is
looked at. -/
theorem moreMembers_written :
    moreMembers false ⟨writtenMembers l level ((k, v) :: r) ++ rest, p⟩ =
      .ok (true, ⟨writtenMember l level k v ++ (writtenMembers l level r ++ rest),
        (p.after ',').afterAll (l.newLine (level + 1))⟩) := by
  obtain ⟨t, ht⟩ : ∃ t, writtenMember l level k v ++ (writtenMembers l level r ++ rest) =
      '"' :: t := ⟨_, rfl⟩
  have htext : writtenMembers l level ((k, v) :: r) ++ rest =
      ',' :: (l.newLine (level + 1) ++ (writtenMember l level k v ++
        (writtenMembers l level r ++ rest))) := by
    rw [writtenMembers]
    simp [writtenMember]
  rw [htext, ht]
  exact moreMembers_next (l.newLine_blank (level + 1)) t p

/-- The first member stands behind a line break. -/
theorem moreMembers_membersBody :
    moreMembers true ⟨membersBody l level ((k, v) :: r) ++ rest, p⟩ =
      .ok (true, ⟨writtenMember l level k v ++ (writtenMembers l level r ++ rest),
        p.afterAll (l.newLine (level + 1))⟩) := by
  obtain ⟨t, ht⟩ : ∃ t, writtenMember l level k v ++ (writtenMembers l level r ++ rest) =
      '"' :: t := ⟨_, rfl⟩
  have htext : membersBody l level ((k, v) :: r) ++ rest =
      l.newLine (level + 1) ++ (writtenMember l level k v ++
        (writtenMembers l level r ++ rest)) := by
    rw [membersBody]
    simp [writtenMember]
  rw [htext, ht]
  exact moreMembers_first (l.newLine_blank (level + 1)) t p

/-- Behind the last member stands the closing bracket. -/
theorem moreMembers_written_nil (isFirst : Bool) :
    moreMembers isFirst ⟨writtenMembers l level [] ++ rest, p⟩ =
      .ok (false, ⟨'\x7d' :: rest, p.afterAll (l.newLine level)⟩) := by
  rw [writtenMembers, List.append_assoc, List.singleton_append]
  exact moreMembers_close (l.newLine_blank level) rest p isFirst

theorem after_writtenMembers_nil :
    (p.afterAll (l.newLine level)).after '\x7d' = p.afterAll (writtenMembers l level []) := by
  rw [writtenMembers, Position.afterAll_append]
  rfl

theorem afterAll_writtenMembers :
    (((p.after ',').afterAll (l.newLine (level + 1))).afterAll (writtenMember l level k v)).afterAll
        (writtenMembers l level r) = p.afterAll (writtenMembers l level ((k, v) :: r)) := by
  rw [writtenMembers]
  simp [writtenMember, Position.afterAll_append]

theorem afterAll_membersBody :
    ((p.afterAll (l.newLine (level + 1))).afterAll (writtenMember l level k v)).afterAll
        (writtenMembers l level r) = p.afterAll (membersBody l level ((k, v) :: r)) := by
  rw [membersBody]
  simp [writtenMember, Position.afterAll_append]

/-- The fuel is the length of the text, and each member takes at least one character. -/
theorem length_lt_membersBody :
    r.length < (membersBody l level ((k, v) :: r) ++ rest).length := by
  have hlen := length_lt_writtenMembers l level r
  rw [membersBody]
  simp only [List.length_append]
  omega

end Members

/-- The members after the first are read up to the closing bracket. -/
theorem membersLoop_written {r : Members}
    (hitem : ∀ m ∈ r, ReadsBack item (written l (level + 1) m.2) (f m.2)) {fuel : Nat}
    (hfuel : r.length < fuel) (read : List (String × α)) (rest : List Char) (p : Position) :
    ∃ q, membersLoop item fuel false read ⟨writtenMembers l level r ++ rest, p⟩ =
        .ok (read.reverse ++ r.map fun m => (m.1, f m.2), ⟨'\x7d' :: rest, q⟩) ∧
      q.after '\x7d' = p.afterAll (writtenMembers l level r) := by
  -- one unit of fuel is spent on each member and one on the closing bracket
  obtain ⟨fuel, rfl⟩ : ∃ k, fuel = k + 1 := ⟨fuel - 1, by omega⟩
  induction r generalizing fuel read p with
  | nil =>
      refine ⟨p.afterAll (l.newLine level), ?_, after_writtenMembers_nil l level p⟩
      unfold membersLoop Scanner.reader
      rw [moreMembers_written_nil]
      simp [bind, Except.bind]
  | cons m r ih =>
      obtain ⟨k, v⟩ := m
      obtain ⟨c, c', hstring, hcolon, hvalue⟩ := member_written l level k
        (hitem (k, v) List.mem_cons_self) (endsNumber_writtenMembers l level r rest)
        ((p.after ',').afterAll (l.newLine (level + 1)))
      have hlen : r.length < fuel := by simpa using hfuel
      obtain ⟨fuel, rfl⟩ : ∃ k, fuel = k + 1 := ⟨fuel - 1, by omega⟩
      obtain ⟨q, hloop, hq⟩ := ih (fun w hw => hitem w (List.mem_cons_of_mem (k, v) hw))
        ((k, f v) :: read)
        (((p.after ',').afterAll (l.newLine (level + 1))).afterAll (writtenMember l level k v))
        fuel hlen
      refine ⟨q, ?_, hq.trans (afterAll_writtenMembers l level k v r p)⟩
      rw [membersLoop]
      unfold Scanner.reader at hstring hcolon ⊢
      rw [moreMembers_written]
      simp only [bind, Except.bind, if_true, hstring, hcolon, hvalue, hloop, List.reverse_cons,
        List.append_assoc, List.singleton_append, List.map_cons]

/-- **The members of an object are read from behind its opening bracket to behind its closing
one.** -/
theorem enclosed_membersBody {members : Members}
    (hitem : ∀ m ∈ members, ReadsBack item (written l (level + 1) m.2) (f m.2))
    (rest : List Char) (p : Position) :
    enclosed closeObject (Json.members item) ⟨membersBody l level members ++ rest, p⟩ =
      .ok (members.map fun m => (m.1, f m.2),
        ⟨rest, p.afterAll (membersBody l level members)⟩) := by
  have hclose : ∀ q, closeObject ⟨'\x7d' :: rest, q⟩ = (⟨rest, q.after '\x7d'⟩, none) :=
    fun _ => rfl
  -- `q` stands before the closing bracket, which `enclosed` itself takes
  suffices hbody : ∃ q, Json.members item ⟨membersBody l level members ++ rest, p⟩ =
      .ok (members.map fun m => (m.1, f m.2), ⟨'\x7d' :: rest, q⟩) ∧
        q.after '\x7d' = p.afterAll (membersBody l level members) by
    obtain ⟨q, hread, hq⟩ := hbody
    unfold enclosed
    simp only [hread, hclose, hq]
  cases members with
  | nil => exact ⟨p, rfl, rfl⟩
  | cons m r =>
      obtain ⟨k, v⟩ := m
      obtain ⟨c, c', hstring, hcolon, hvalue⟩ := member_written l level k
        (hitem (k, v) List.mem_cons_self) (endsNumber_writtenMembers l level r rest)
        (p.afterAll (l.newLine (level + 1)))
      obtain ⟨q, hloop, hq⟩ := membersLoop_written l level
        (fun w hw => hitem w (List.mem_cons_of_mem (k, v) hw))
        (length_lt_membersBody l level k v r rest) [(k, f v)] rest
        ((p.afterAll (l.newLine (level + 1))).afterAll (writtenMember l level k v))
      refine ⟨q, ?_, hq.trans (afterAll_membersBody l level k v r p)⟩
      unfold Json.members
      show membersLoop item ((membersBody l level ((k, v) :: r) ++ rest).length + 1) true [] _ = _
      rw [membersLoop]
      unfold Scanner.reader at hstring hcolon ⊢
      rw [moreMembers_membersBody]
      simp only [bind, Except.bind, if_true, hstring, hcolon, hvalue, hloop]
      rfl

end Loops

/-! ## Values -/

/-- A value without brackets is read by its scanner. -/
theorem value_eq_scalar {c : Char} (hspace : isSpace c = false) (hlist : c ≠ '[')
    (hobject : c ≠ '\x7b') {b : List Char} (hb : Blank b) (room : Nat) (s : List Char)
    (p : Position) :
    value room ⟨b ++ c :: s, p⟩ = scalar.reader ⟨c :: s, p.afterAll b⟩ := by
  unfold value
  simp only [skipSpace_blank_cons hb hspace]
  split
  -- the brackets, when there is no room left and when there is
  · rename_i heq
    obtain ⟨rfl, -⟩ := List.cons.inj heq
    exact absurd rfl hlist
  · rename_i heq
    obtain ⟨rfl, -⟩ := List.cons.inj heq
    exact absurd rfl hobject
  · rename_i heq
    obtain ⟨rfl, -⟩ := List.cons.inj heq
    exact absurd rfl hlist
  · rename_i heq
    obtain ⟨rfl, -⟩ := List.cons.inj heq
    exact absurd rfl hobject
  · rfl

/-- A number is scanned from its sign or its first digit on. -/
theorem scalar_eq_number {c : Char} (h : c = '-' ∨ c.isDigit = true) {s : List Char}
    {p : Position} {n : Decimal.Number} {c' : Cursor} (hn : number ⟨c :: s, p⟩ = .ok (n, c')) :
    scalar ⟨c :: s, p⟩ = .ok (.num n, c') := by
  unfold scalar
  split
  · rename_i heq
    cases heq
  -- the four tokens that begin with a letter or a quotation mark
  · rename_i heq
    obtain ⟨rfl, -⟩ := List.cons.inj heq
    rcases h with h | h <;> cases h
  · rename_i heq
    obtain ⟨rfl, -⟩ := List.cons.inj heq
    rcases h with h | h <;> cases h
  · rename_i heq
    obtain ⟨rfl, -⟩ := List.cons.inj heq
    rcases h with h | h <;> cases h
  · rename_i heq
    obtain ⟨rfl, -⟩ := List.cons.inj heq
    rcases h with h | h <;> cases h
  · rename_i heq
    obtain ⟨rfl, -⟩ := List.cons.inj heq
    have hcond : (c = '-' || c.isDigit) = true := by
      simpa using h
    rw [if_pos hcond]
    simp only [hn, bind, Except.bind]

theorem reader_eq_ok {α : Type} {scan : Scanner α} {c : Cursor} {found : α × Cursor}
    (h : scan c = .ok found) : scan.reader c = .ok found := by
  unfold Scanner.reader
  rw [h]

/-- **A value without brackets is scanned back.** -/
theorem scalar_written (l : Layout) (level : Nat) {v : Json} (hwhole : v.hasWholeNumbers = true)
    (hflat : v.depth = 0) :
    ∃ c s, written l level v = c :: s ∧ isSpace c = false ∧ c ≠ '[' ∧ c ≠ '\x7b' ∧
      ∀ rest, EndsNumber rest → ∀ p,
        scalar.reader ⟨c :: (s ++ rest), p⟩ = .ok (v, ⟨rest, p.afterAll (c :: s)⟩) := by
  cases v with
  | null =>
      exact ⟨'n', _, rfl, rfl, by decide, by decide, fun rest _ p =>
        reader_eq_ok (literal_append .null ['u', 'l', 'l'] rest (p.after 'n'))⟩
  | bool b =>
      cases b with
      | true =>
          exact ⟨'t', _, rfl, rfl, by decide, by decide, fun rest _ p =>
            reader_eq_ok (literal_append (.bool true) ['r', 'u', 'e'] rest (p.after 't'))⟩
      | false =>
          exact ⟨'f', _, rfl, rfl, by decide, by decide, fun rest _ p =>
            reader_eq_ok (literal_append (.bool false) ['a', 'l', 's', 'e'] rest (p.after 'f'))⟩
  | num n =>
      cases n with
      | integer n =>
          obtain ⟨hlow, hhigh⟩ := hasWholeNumbers_integer.1 hwhole
          obtain ⟨c, s, hs, hc⟩ := head_intDigits n
          obtain ⟨hspace, -, hlist, hobject, -⟩ := isSpace_of_digit hc
          refine ⟨c, s, hs, hspace, hlist, hobject, fun rest hrest p => ?_⟩
          refine reader_eq_ok (scalar_eq_number hc ?_)
          rw [← List.cons_append, ← hs]
          exact number_intDigits hlow hhigh hrest p
      | binary x => cases hwhole
  | str s =>
      refine ⟨'"', _, rfl, rfl, by decide, by decide, fun rest _ p => ?_⟩
      have hstring := string_quoteString s rest p
      refine reader_eq_ok ?_
      show (string ⟨quoteString s ++ rest, p⟩ >>= _) = _
      rw [hstring]
      rfl
  | arr items => exact absurd hflat (Nat.ne_of_gt (depth_arr_pos items))
  | obj members => exact absurd hflat (Nat.ne_of_gt (depth_obj_pos members))

theorem readsBack_scalar (l : Layout) (level room : Nat) {v : Json}
    (hwhole : v.hasWholeNumbers = true) (hflat : v.depth = 0) :
    ReadsBack (value room) (written l level v) v := by
  obtain ⟨c, s, htext, hspace, hlist, hobject, hscalar⟩ := scalar_written l level hwhole hflat
  intro b hb rest hrest p
  rw [htext, List.cons_append, value_eq_scalar hspace hlist hobject hb, hscalar rest hrest]

/-- **A written value is read back with its keys in order.** -/
theorem value_written (l : Layout) {v : Json} (hwhole : v.hasWholeNumbers = true) {room : Nat}
    (hdepth : v.depth ≤ room) (level : Nat) :
    ReadsBack (value room) (written l level v) v.sortKeys := by
  induction v using induct generalizing room level with
  | null => exact readsBack_scalar l level room hwhole rfl
  | bool b => exact readsBack_scalar l level room hwhole rfl
  | num n => exact readsBack_scalar l level room hwhole rfl
  | str s => exact readsBack_scalar l level room hwhole rfl
  | arr items ih =>
      have heach := hasWholeNumbers_arr.1 hwhole
      -- a bracket needs room, and its own depth counts it
      obtain ⟨room, rfl⟩ : ∃ k, room = k + 1 :=
        ⟨room - 1, by have := depth_arr_pos items; omega⟩
      intro b hb rest hrest p
      have hitems : List.Forall₂
          (fun v a => ReadsBack (value room) (written l (level + 1) v) a) items
          (items.map sortKeys) := by
        rw [List.forall₂_map_right_iff, List.forall₂_same]
        exact fun v hv => ih v hv (heach v hv) (depth_arr_le.1 hdepth v hv) (level + 1)
      have hbody := enclosed_itemsBody l level heach hitems rest ((p.afterAll b).after '[')
      unfold value
      rw [written_arr, List.cons_append, sortKeys_arr, skipSpace_blank_cons hb rfl]
      show (enclosed closeList (Json.items (value room))
        ⟨itemsBody l level items ++ rest, (p.afterAll b).after '['⟩ >>= _) = _
      rw [hbody]
      rfl
  | obj members ih =>
      have heach := hasWholeNumbers_obj.1 hwhole
      obtain ⟨room, rfl⟩ : ∃ k, room = k + 1 :=
        ⟨room - 1, by have := depth_obj_pos members; omega⟩
      intro b hb rest hrest p
      have hbody := enclosed_membersBody l level
        (fun m hm => ih m hm (heach m hm) (depth_obj_le.1 hdepth m hm) (level + 1)) rest
        ((p.afterAll b).after '\x7b')
      unfold value
      rw [written_obj, List.cons_append, sortKeys_obj, skipSpace_blank_cons hb rfl]
      show (enclosed closeObject (Json.members (value room))
        ⟨membersBody l level members ++ rest, (p.afterAll b).after '\x7b'⟩ >>= _) = _
      rw [hbody]
      rfl

/-- **The compact text of a value is read as the value with its keys in order.** -/
theorem read_compactText {v : Json} (hwhole : v.hasWholeNumbers = true)
    (hdepth : v.depth ≤ greatestDepth) : read v.compactText = .ok v.sortKeys := by
  have hread := (value_written .compact hwhole hdepth 0).here endsNumber_nil Position.start
  rw [List.append_nil, written_compact] at hread
  have htext : Cursor.ofText v.compactText = ⟨compact v, Position.start⟩ := by
    simp [Cursor.ofText, compactText]
  unfold read readWhole
  rw [htext, hread]
  rfl

end VideoSurvey.Json
