import VideoSurvey.Json.Token
import VideoSurvey.Proofs.Json.Values
import VideoSurvey.Proofs.Results

/-!
# Scanning what was written

The scanners read back the tokens that the printer writes: integers (`number_intDigits`), strings
(`string_quoteString`) and literals. Each is said with any text behind the token and any place
before it; behind an integer the text must not go on with the number (`EndsNumber`).
-/

set_option autoImplicit false

namespace VideoSurvey.Json

open Decimal (Numeral Number)
open Results

/-! ## Digits -/

/-- A text that a number does not go on with. -/
def EndsNumber (rest : List Char) : Prop :=
  ∀ c ∈ rest.head?, c.isDigit = false ∧ c ≠ '.' ∧ c ≠ 'e' ∧ c ≠ 'E'

theorem endsNumber_nil : EndsNumber [] := by
  rintro c ⟨⟩

theorem endsNumber_cons {c : Char} {rest : List Char}
    (h : c.isDigit = false ∧ c ≠ '.' ∧ c ≠ 'e' ∧ c ≠ 'E') : EndsNumber (c :: rest) := by
  rintro d ⟨⟩
  exact h

theorem isDigit_natDigits {n : Nat} {c : Char} (h : c ∈ natDigits n) : c.isDigit = true :=
  Nat.isDigit_of_mem_toDigits (by decide) (by decide) h

theorem natDigits_ne_nil (n : Nat) : natDigits n ≠ [] := Nat.toDigits_ne_nil

/-- Only zero begins with a zero. -/
theorem head_natDigits {n : Nat} (hn : n ≠ 0) : (natDigits n).head? ≠ some '0' := by
  induction n using Nat.strongRecOn with
  | ind n ih =>
      unfold natDigits at ih ⊢
      by_cases hlt : n < 10
      · rw [Nat.toDigits_of_lt_base hlt]
        intro h
        exact hn (Nat.digitChar_eq_zero.1 (Option.some.inj h))
      · have hpos : n / 10 ≠ 0 := by omega
        have hne : Nat.toDigits 10 (n / 10) ≠ [] := Nat.toDigits_ne_nil
        rw [Nat.toDigits_of_base_le (by decide) (by omega), List.head?_append_of_ne_nil _ hne]
        exact ih (n / 10) (by omega) hpos

theorem takeWhile_natDigits (n : Nat) {rest : List Char} (h : EndsNumber rest) :
    (natDigits n ++ rest).takeWhile Char.isDigit = natDigits n := by
  rw [List.takeWhile_append_of_pos fun c hc => isDigit_natDigits hc]
  cases rest with
  | nil => exact List.append_nil _
  | cons c rest =>
      have hc := (h c rfl).1
      rw [List.takeWhile_cons_of_neg (by simp [hc]), List.append_nil]

theorem dropWhile_natDigits (n : Nat) {rest : List Char} (h : EndsNumber rest) :
    (natDigits n ++ rest).dropWhile Char.isDigit = rest := by
  rw [List.dropWhile_append_of_pos fun c hc => isDigit_natDigits hc]
  cases rest with
  | nil => rfl
  | cons c rest =>
      have hc := (h c rfl).1
      rw [List.dropWhile_cons_of_neg (by simp [hc])]

/-- The value that gathering digits comes to. -/
theorem foldl_digitValue (s : List Char) (value : Nat) :
    (s.map digitValue).foldl (fun n d => n * 10 + d) value = Nat.ofDigitChars 10 s value := by
  induction s generalizing value with
  | nil => rfl
  | cons c s ih =>
      rw [List.map_cons, List.foldl_cons, ih, Nat.ofDigitChars_cons, Nat.mul_comm]
      rfl

theorem le_foldl_digits (ds : List Nat) (value : Nat) :
    value ≤ ds.foldl (fun n d => n * 10 + d) value := by
  induction ds generalizing value with
  | nil => exact Nat.le_refl _
  | cons d ds ih =>
      have h := ih (value * 10 + d)
      rw [List.foldl_cons]
      omega

/-- Digits whose value stays below the bound are all gathered. -/
theorem gather_eq {bound value : Nat} {ds : List Nat}
    (h : ds.foldl (fun n d => n * 10 + d) value < bound) :
    Numeral.gather bound value ds =
      (ds.foldl (fun n d => n * 10 + d) value, ds.length) := by
  induction ds generalizing value with
  | nil => rfl
  | cons d ds ih =>
      have hstep : value * 10 + d < bound :=
        Nat.lt_of_le_of_lt (le_foldl_digits ds (value * 10 + d)) h
      unfold Numeral.gather
      rw [if_pos hstep, ih h]
      rfl

/-! ## Integers -/

/-- The numeral that an integer is written as. -/
def numeralOf (n : Int) : Numeral :=
  ⟨decide (n < 0), (natDigits n.natAbs).map digitValue, [], none⟩

/-- The digits before the point. -/
theorem wholePart_natDigits (atEnd : TextFault) (n : Nat) {rest : List Char}
    (h : EndsNumber rest) (p : Position) :
    wholePart atEnd ⟨natDigits n ++ rest, p⟩ =
      .ok ((natDigits n).map digitValue, ⟨rest, p.afterAll (natDigits n)⟩) := by
  by_cases hn : n = 0
  · -- zero is written as one digit, which no other digit may follow
    subst hn
    have hhead : rest.head?.any Char.isDigit = false := by
      cases rest with
      | nil => rfl
      | cons c rest => exact (h c rfl).1
    show wholePart atEnd ⟨'0' :: rest, p⟩ = _
    simp only [wholePart, hhead]
    rfl
  · obtain ⟨c, s, hs⟩ := List.exists_cons_of_ne_nil (natDigits_ne_nil n)
    have hc : c.isDigit = true := isDigit_natDigits (hs ▸ List.mem_cons_self)
    -- no other number begins with a zero
    have hzero : c ≠ '0' := by
      intro hc0
      apply head_natDigits hn
      rw [hs, hc0]
      rfl
    have htake := takeWhile_natDigits n h
    have hdrop := dropWhile_natDigits n h
    rw [hs] at htake hdrop ⊢
    rw [List.cons_append] at htake hdrop ⊢
    unfold wholePart
    split
    · rename_i heq
      cases heq
    · rename_i heq
      obtain ⟨rfl, -⟩ := List.cons.inj heq
      exact absurd rfl hzero
    · rename_i heq
      obtain ⟨rfl, -⟩ := List.cons.inj heq
      rw [if_pos hc]
      unfold digits
      simp only [htake, hdrop]

theorem fractionPart_ends (atEnd : TextFault) {rest : List Char} (h : EndsNumber rest)
    (p : Position) : fractionPart atEnd ⟨rest, p⟩ = .ok ([], ⟨rest, p⟩) := by
  unfold fractionPart
  split
  · rename_i heq
    have hrest : rest = '.' :: _ := heq
    rw [hrest] at h
    exact absurd rfl (h '.' rfl).2.1
  · rfl

theorem powerPart_ends (atEnd : TextFault) {rest : List Char} (h : EndsNumber rest)
    (p : Position) : powerPart atEnd ⟨rest, p⟩ = .ok (none, ⟨rest, p⟩) := by
  cases rest with
  | nil => rfl
  | cons c rest =>
      have hc := h c rfl
      simp [powerPart, hc.2.2.1, hc.2.2.2]

/-- What is read behind the sign of an integer. -/
theorem numeral_behind_sign (atEnd : TextFault) (negative : Bool) (n : Nat) {rest : List Char}
    (h : EndsNumber rest) (p : Position) :
    (do
      let (whole, c) ← wholePart atEnd ⟨natDigits n ++ rest, p⟩
      let (fraction, c) ← fractionPart atEnd c
      let (power, c) ← powerPart atEnd c
      .ok (⟨negative, whole, fraction, power⟩, c) : Except ReadError (Numeral × Cursor)) =
      .ok (⟨negative, (natDigits n).map digitValue, [], none⟩,
        ⟨rest, p.afterAll (natDigits n)⟩) := by
  rw [wholePart_natDigits atEnd n h p]
  simp only [bind, Except.bind, fractionPart_ends atEnd h, powerPart_ends atEnd h]

/-- An integer is read as its numeral. -/
theorem numeral_intDigits (atEnd : TextFault) (n : Int) {rest : List Char} (h : EndsNumber rest)
    (p : Position) :
    numeral atEnd ⟨intDigits n ++ rest, p⟩ =
      .ok (numeralOf n, ⟨rest, p.afterAll (intDigits n)⟩) := by
  unfold intDigits numeralOf
  by_cases hn : n < 0
  · rw [if_pos hn, decide_eq_true hn]
    exact numeral_behind_sign atEnd true n.natAbs h (p.after '-')
  · rw [if_neg hn, decide_eq_false hn]
    have hsign := numeral_behind_sign atEnd false n.natAbs h p
    obtain ⟨c, s, hs⟩ := List.exists_cons_of_ne_nil (natDigits_ne_nil n.natAbs)
    have hc : c.isDigit = true := isDigit_natDigits (hs ▸ List.mem_cons_self)
    unfold numeral
    rw [hs, List.cons_append] at hsign ⊢
    split
    rename_i negative c' heq
    split at heq
    · -- a digit is no sign
      rename_i hrest
      obtain ⟨rfl, -⟩ := List.cons.inj hrest
      cases hc
    · cases heq
      exact hsign

/-- The value of the numeral that an integer is written as. -/
theorem value_numeralOf {n : Int} (hlow : leastInteger ≤ n) (hhigh : n ≤ greatestInteger) :
    (numeralOf n).value = some (.integer n) := by
  -- the digits stand for the magnitude, which is small enough to be gathered whole
  have hfold : ((natDigits n.natAbs).map digitValue).foldl (fun n d => n * 10 + d) 0 =
      n.natAbs := by
    rw [foldl_digitValue]
    exact Nat.ofDigitChars_ten_toDigits
  have hbound : n.natAbs < Numeral.significandBound := by
    unfold leastInteger at hlow
    unfold greatestInteger at hhigh
    unfold Numeral.significandBound
    omega
  have hdigits : (numeralOf n).digitsValue = (n.natAbs, 0) := by
    unfold Numeral.digitsValue numeralOf
    rw [gather_eq (hfold.symm ▸ hbound), hfold]
    simp [Numeral.gather]
  unfold Numeral.value
  simp only [show (numeralOf n).power = none from rfl, hdigits,
    show (numeralOf n).fraction = [] from rfl,
    show (numeralOf n).negative = decide (n < 0) from rfl]
  -- a negative integer keeps its sign down to the least one of 64 bits
  by_cases hn : n < 0
  · have hzero : n.natAbs ≠ 0 := by omega
    have hbig : ¬ Numeral.greatestNegation < n.natAbs := by
      unfold leastInteger at hlow
      unfold Numeral.greatestNegation
      omega
    have habs : -(n.natAbs : Int) = n := by omega
    simp only [ne_eq, not_true_eq_false, decide_false, List.isEmpty_nil, Bool.not_true,
      Bool.or_self, Bool.false_eq_true, ↓reduceIte, hn, decide_true, hzero, hbig, habs]
  · have habs : (n.natAbs : Int) = n := by omega
    simp only [ne_eq, not_true_eq_false, decide_false, List.isEmpty_nil, Bool.not_true,
      Bool.or_self, Bool.false_eq_true, ↓reduceIte, hn, Bool.not_false, habs]

/-- **An integer that 64 bits hold is read back.** -/
theorem number_intDigits {n : Int} (hlow : leastInteger ≤ n) (hhigh : n ≤ greatestInteger)
    {rest : List Char} (h : EndsNumber rest) (p : Position) :
    number ⟨intDigits n ++ rest, p⟩ = .ok (.integer n, ⟨rest, p.afterAll (intDigits n)⟩) := by
  unfold number
  rw [numeral_intDigits _ n h p]
  simp only [bind, Except.bind, value_numeralOf hlow hhigh]

/-! ## Strings -/

/-- Four digits of a code below 32 are read back. -/
theorem hexValues?_hex4 : ∀ n < 32,
    hexValues? (Nat.digitChar (n / 4096 % 16)) (Nat.digitChar (n / 256 % 16))
      (Nat.digitChar (n / 16 % 16)) (Nat.digitChar (n % 16)) = some n := by
  decide

/-- The code of a control character is read back. -/
theorem codeEscape_hex4 {c : Char} (h : c.toNat < 32) (rest : List Char) (p : Position) :
    codeEscape ⟨hex4 c.toNat ++ rest, p⟩ = .ok (c, ⟨rest, p.afterAll (hex4 c.toNat)⟩) := by
  have hfour : fourHex ⟨hex4 c.toNat ++ rest, p⟩ =
      .ok (c.toNat, ⟨rest, p.afterAll (hex4 c.toNat)⟩) := by
    unfold hex4 fourHex
    simp only [List.map_cons, List.map_nil, List.cons_append, List.nil_append,
      hexValues?_hex4 c.toNat h]
  -- a code below 32 is no half of a surrogate pair
  have htrailing : isTrailing c.toNat = false := by
    unfold isTrailing
    simp only [Bool.and_eq_false_iff, decide_eq_false_iff_not]
    omega
  have hleading : isLeading c.toNat = false := by
    unfold isLeading
    simp only [Bool.and_eq_false_iff, decide_eq_false_iff_not]
    omega
  unfold codeEscape
  simp only [hfour, bind, Except.bind, htrailing, hleading, Bool.false_eq_true, if_false,
    Char.ofNat_toNat]

/-- A character that stands for itself is read in one step. -/
theorem stringRest_plain {c : Char} (hquote : c ≠ '"') (hback : c ≠ '\\')
    (hcontrol : ¬ c.toNat < 0x20) (fuel : Nat) (read rest : List Char) (p : Position) :
    stringRest (fuel + 1) read ⟨c :: rest, p⟩ =
      stringRest fuel (c :: read) ⟨rest, p.after c⟩ := by
  rw [stringRest]
  split
  · rename_i heq
    cases heq
  · rename_i heq
    obtain ⟨rfl, -⟩ := List.cons.inj heq
    exact absurd rfl hquote
  · rename_i heq
    obtain ⟨rfl, -⟩ := List.cons.inj heq
    exact absurd rfl hback
  · rename_i heq
    obtain ⟨rfl, -⟩ := List.cons.inj heq
    rw [if_neg hcontrol]
    rfl

/-- One written character is read in one step. -/
theorem stringRest_escapeChar (c : Char) (fuel : Nat) (read rest : List Char) (p : Position) :
    stringRest (fuel + 1) read ⟨escapeChar c ++ rest, p⟩ =
      stringRest fuel (c :: read) ⟨rest, p.afterAll (escapeChar c)⟩ := by
  unfold escapeChar
  by_cases h1 : c = '"'
  · subst h1
    rfl
  by_cases h2 : c = '\\'
  · subst h2
    rfl
  by_cases h3 : c = '\x08'
  · subst h3
    rfl
  by_cases h4 : c = '\x0c'
  · subst h4
    rfl
  by_cases h5 : c = '\n'
  · subst h5
    rfl
  by_cases h6 : c = '\r'
  · subst h6
    rfl
  by_cases h7 : c = '\t'
  · subst h7
    rfl
  -- no letter stands for the character: it is given by its code or stands for itself
  rw [if_neg h1, if_neg h2, if_neg h3, if_neg h4, if_neg h5, if_neg h6, if_neg h7]
  by_cases hcontrol : c.toNat < 0x20
  · rw [if_pos hcontrol]
    have hcode := codeEscape_hex4 hcontrol rest ((p.after '\\').after 'u')
    have hescape : escape ⟨'u' :: (hex4 c.toNat ++ rest), p.after '\\'⟩ =
        .ok (c, ⟨rest, ((p.after '\\').after 'u').afterAll (hex4 c.toNat)⟩) := hcode
    show (escape ⟨'u' :: (hex4 c.toNat ++ rest), p.after '\\'⟩ >>= _) = _
    rw [hescape]
    rfl
  · rw [if_neg hcontrol]
    exact stringRest_plain h1 h2 hcontrol fuel read rest p

/-- The rest of a written string is read up to its closing quote. -/
theorem stringRest_flatMap (s : List Char) {fuel : Nat} (hfuel : s.length < fuel)
    (read rest : List Char) (p : Position) :
    stringRest fuel read ⟨s.flatMap escapeChar ++ '"' :: rest, p⟩ =
      .ok (String.ofList (read.reverse ++ s),
        ⟨rest, (p.afterAll (s.flatMap escapeChar)).after '"'⟩) := by
  induction s generalizing fuel read p with
  | nil =>
      obtain ⟨fuel, rfl⟩ := Nat.exists_eq_add_of_lt hfuel
      rw [List.append_nil]
      rfl
  | cons c s ih =>
      obtain ⟨fuel, rfl⟩ : ∃ k, fuel = k + 1 := ⟨fuel - 1, by omega⟩
      rw [List.flatMap_cons, List.append_assoc, stringRest_escapeChar,
        ih (by simpa using hfuel), List.reverse_cons, List.append_assoc, List.singleton_append,
        Position.afterAll_append]

theorem length_le_flatMap_escapeChar (s : List Char) :
    s.length ≤ (s.flatMap escapeChar).length := by
  induction s with
  | nil => exact Nat.le_refl _
  | cons c s ih =>
      have hpos : 0 < (escapeChar c).length := by
        unfold escapeChar
        repeat' split
        all_goals exact Nat.succ_pos _
      rw [List.flatMap_cons, List.length_append, List.length_cons]
      omega

/-- **A string is read back, whatever its characters are.** -/
theorem string_quoteString (s : String) (rest : List Char) (p : Position) :
    string ⟨quoteString s ++ rest, p⟩ = .ok (s, ⟨rest, p.afterAll (quoteString s)⟩) := by
  have hlen := length_le_flatMap_escapeChar s.toList
  have htext : quoteString s ++ rest = '"' :: (s.toList.flatMap escapeChar ++ '"' :: rest) := by
    simp [quoteString]
  rw [htext]
  -- each character takes at least one written character, so the fuel lasts
  have hfuel : s.toList.length <
      ('"' :: (s.toList.flatMap escapeChar ++ '"' :: rest)).length + 1 := by
    rw [List.length_cons, List.length_append]
    omega
  unfold string
  show stringRest _ [] ⟨s.toList.flatMap escapeChar ++ '"' :: rest, p.after '"'⟩ = _
  rw [stringRest_flatMap _ hfuel]
  have hplace : p.afterAll (quoteString s) =
      ((p.after '"').afterAll (s.toList.flatMap escapeChar)).after '"' := by
    show (p.after '"').afterAll (s.toList.flatMap escapeChar ++ ['"']) = _
    rw [Position.afterAll_append]
    rfl
  rw [hplace]
  simp

/-! ## Literals -/

theorem literal_append (v : Json) (s rest : List Char) (p : Position) :
    literal v s ⟨s ++ rest, p⟩ = .ok (v, ⟨rest, p.afterAll s⟩) := by
  induction s generalizing p with
  | nil => rfl
  | cons c s ih =>
      show (if c = c then literal v s ⟨s ++ rest, p.after c⟩ else _) = _
      rw [if_pos rfl]
      exact ih (p.after c)

end VideoSurvey.Json
