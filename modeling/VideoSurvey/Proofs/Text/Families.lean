import Mathlib.Data.List.DropRight
import VideoSurvey.Overlay.Card
import VideoSurvey.Overlay.Activation

/-!
# The first family of a font stack

The value for the stylesheet is made from a `font-family` value so that its first family is the
family to preload. Making it twice changes nothing, and both values have the same first family but
for one kind of value: a bare name that is broken over several lines (`IsBrokenName`). Such a name
is quoted for the stylesheet, and a quoted name is unquoted only when it stands on one line, so
the quotation marks stay. All is told by the value without its blank ends, `trim value`.
-/

set_option autoImplicit false

namespace VideoSurvey.Text

/-! ## Blank ends -/

/-- No blank character stands at either end. -/
structure IsTrimmed (s : List Char) : Prop where
  head : ∀ c, s.head? = some c → isBlankChar c = false
  last : ∀ c, s.getLast? = some c → isBlankChar c = false

theorem trim_eq_rdropWhile (s : List Char) :
    trim s = (s.dropWhile isBlankChar).rdropWhile isBlankChar := rfl

theorem isTrimmed_trim (s : List Char) : IsTrimmed (trim s) := by
  rw [trim_eq_rdropWhile]
  constructor
  · intro c hc
    obtain ⟨rest, hrest⟩ := List.rdropWhile_prefix isBlankChar (s.dropWhile isBlankChar)
    have hfirst := List.head?_dropWhile_not isBlankChar s
    rw [← hrest, List.head?_append, hc] at hfirst
    simpa using hfirst
  · intro c hc
    have hne : (s.dropWhile isBlankChar).rdropWhile isBlankChar ≠ [] := by
      intro hnil
      rw [hnil] at hc
      cases hc
    have hlast := List.rdropWhile_last_not isBlankChar _ hne
    rw [List.getLast?_eq_some_getLast hne] at hc
    rw [Option.some.inj hc] at hlast
    simpa using hlast

theorem IsTrimmed.trim_eq {s : List Char} (h : IsTrimmed s) : trim s = s := by
  have hdrop : s.dropWhile isBlankChar = s := by
    cases s with
    | nil => rfl
    | cons c r => exact List.dropWhile_cons_of_neg (by simp [h.head c rfl])
  rw [trim_eq_rdropWhile, hdrop, List.rdropWhile_eq_self_iff]
  intro hne
  simp [h.last _ (List.getLast?_eq_some_getLast hne)]

@[simp] theorem trim_trim (s : List Char) : trim (trim s) = trim s := (isTrimmed_trim s).trim_eq

/-- What trimming takes away is blank. -/
theorem exists_blank_ends (s : List Char) :
    ∃ front back, (∀ c ∈ front, isBlankChar c = true) ∧ (∀ c ∈ back, isBlankChar c = true) ∧
      s = front ++ (trim s ++ back) := by
  refine ⟨s.takeWhile isBlankChar, (s.dropWhile isBlankChar).rtakeWhile isBlankChar,
    fun c hc => List.mem_takeWhile_imp hc, fun c hc => List.mem_rtakeWhile_imp hc, ?_⟩
  rw [trim_eq_rdropWhile, List.rdropWhile_append_rtakeWhile, List.takeWhile_append_dropWhile]

theorem trim_append_front {front : List Char} (h : ∀ c ∈ front, isBlankChar c = true)
    (s : List Char) : trim (front ++ s) = trim s := by
  rw [trim_eq_rdropWhile, List.dropWhile_append_of_pos h, trim_eq_rdropWhile]

theorem trim_append_back {back : List Char} (h : ∀ c ∈ back, isBlankChar c = true)
    (s : List Char) : trim (s ++ back) = trim s := by
  rw [trim_eq_rdropWhile, trim_eq_rdropWhile, List.dropWhile_append]
  split
  · rename_i hs
    rw [List.isEmpty_iff.1 hs, List.dropWhile_eq_nil_iff.2 h]
  · have hback : ∀ c ∈ back.reverse, isBlankChar c = true := fun c hc => h c (List.mem_reverse.1 hc)
    rw [List.rdropWhile, List.reverse_append, List.dropWhile_append_of_pos hback, ← List.rdropWhile]

/-- Blank ends are of no account for a stretch up to a character that is not blank. -/
theorem trim_takeWhile_trim {p : Char → Bool} (hp : ∀ c, isBlankChar c = true → p c = true)
    (s : List Char) : trim ((trim s).takeWhile p) = trim (s.takeWhile p) := by
  obtain ⟨front, back, hfront, hback, hs⟩ := exists_blank_ends s
  have htake : s.takeWhile p = front ++ (trim s ++ back).takeWhile p := by
    rw [← List.takeWhile_append_of_pos fun c hc => hp c (hfront c hc), ← hs]
  rw [htake, trim_append_front hfront, List.takeWhile_append]
  split
  · -- the stretch goes on into the blank end
    rename_i hall
    rw [List.takeWhile_eq_self_iff.2 fun c hc => hp c (hback c hc), trim_append_back hback,
      (List.takeWhile_prefix p).eq_of_length hall]
  · rfl

/-! ## Words -/

/-- The words of a text, one space apart. -/
def spaced (s : List Char) : List Char := [' '].intercalate (words s)

variable {c : Char} {r s : List Char}

theorem words_of_blank (hc : isBlankChar c = true) (r : List Char) : words (c :: r) = words r := by
  rw [words, if_pos hc]

/-- A character in front of a blank one is a word. -/
theorem words_of_head_blank (hc : isBlankChar c = false) (hr : r.head?.all isBlankChar = true) :
    words (c :: r) = [c] :: words r := by
  rw [words, hc, if_neg Bool.false_ne_true, if_pos hr]

/-- Any other character belongs to the word behind it. -/
theorem words_of_head (hc : isBlankChar c = false) (hr : r.head?.all isBlankChar = false) :
    words (c :: r) = (words r).modifyHead (c :: ·) := by
  rw [words, hc, if_neg Bool.false_ne_true, hr, if_neg Bool.false_ne_true]

/-- A character that is not blank belongs to some word. -/
theorem words_ne_nil (hmem : c ∈ s) (hc : isBlankChar c = false) : words s ≠ [] := by
  induction s generalizing c with
  | nil => cases hmem
  | cons x r ih =>
      cases hx : isBlankChar x with
      | true =>
          rw [words_of_blank hx]
          rcases List.mem_cons.1 hmem with rfl | hmem
          · cases hc.symm.trans hx
          · exact ih hmem hc
      | false =>
          cases hr : r.head?.all isBlankChar with
          | true =>
              rw [words_of_head_blank hx hr]
              exact List.cons_ne_nil _ _
          | false =>
              rw [words_of_head hx hr]
              cases r with
              | nil => cases hr
              | cons d r =>
                  obtain ⟨w, ws, hw⟩ := List.exists_cons_of_ne_nil (ih List.mem_cons_self hr)
                  rw [hw]
                  exact List.cons_ne_nil _ _

theorem spaced_of_blank (hc : isBlankChar c = true) (r : List Char) :
    spaced (c :: r) = spaced r := by
  rw [spaced, words_of_blank hc, spaced]

/-- One space is left behind a word, if another word follows. -/
theorem spaced_of_head_blank (hc : isBlankChar c = false)
    (hr : r.head?.all isBlankChar = true) (hwords : words r ≠ []) :
    spaced (c :: r) = c :: ' ' :: spaced r := by
  obtain ⟨w, ws, hw⟩ := List.exists_cons_of_ne_nil hwords
  rw [spaced, words_of_head_blank hc hr, spaced, hw]
  simp [List.intercalate]

theorem spaced_of_head (hc : isBlankChar c = false) (hr : r.head?.all isBlankChar = false) :
    spaced (c :: r) = c :: spaced r := by
  cases r with
  | nil => cases hr
  | cons d r =>
      obtain ⟨w, ws, hw⟩ := List.exists_cons_of_ne_nil (words_ne_nil List.mem_cons_self hr)
      rw [spaced, words_of_head hc hr, spaced, hw]
      cases ws <;> simp [List.intercalate]

/-- A character right behind the last word belongs to it. -/
theorem spaced_concat (hne : s ≠ []) (hlast : ∀ x, s.getLast? = some x → isBlankChar x = false)
    (hc : isBlankChar c = false) : spaced (s ++ [c]) = spaced s ++ [c] := by
  induction s with
  | nil => exact absurd rfl hne
  | cons x r ih =>
      cases r with
      | nil =>
          have hx := hlast x rfl
          rw [List.singleton_append, spaced_of_head hx (by simpa using hc)]
          simp [spaced, words, hx, hc]
      | cons d r =>
          have ih := ih (List.cons_ne_nil d r) hlast
          have hmem := List.getLast_mem (List.cons_ne_nil d r)
          have hnotBlank := hlast _ (List.getLast?_eq_some_getLast (List.cons_ne_nil d r))
          have hwords := words_ne_nil hmem hnotBlank
          have hwords' := words_ne_nil (List.mem_append_left [c] hmem) hnotBlank
          cases hx : isBlankChar x with
          | true => rw [List.cons_append, spaced_of_blank hx, spaced_of_blank hx, ih]
          | false =>
              -- the character at the end does not change which one comes next
              have hhead : (d :: r).head?.all isBlankChar = isBlankChar d := rfl
              have hhead' : (d :: r ++ [c]).head?.all isBlankChar = isBlankChar d := rfl
              cases hd : isBlankChar d with
              | true =>
                  rw [List.cons_append, spaced_of_head_blank hx (hhead'.trans hd) hwords',
                    spaced_of_head_blank hx (hhead.trans hd) hwords, ih]
                  rfl
              | false =>
                  rw [List.cons_append, spaced_of_head hx (hhead'.trans hd),
                    spaced_of_head hx (hhead.trans hd), ih]
                  rfl

/-- Quotation marks around a text stay with its first and its last word. -/
theorem spaced_between (h : IsTrimmed s) (hne : s ≠ []) (hc : isBlankChar c = false) :
    spaced (c :: (s ++ [c])) = c :: (spaced s ++ [c]) := by
  rw [← spaced_concat hne h.last hc]
  cases s with
  | nil => exact absurd rfl hne
  | cons d r => exact spaced_of_head hc (h.head d rfl)

/-! ## Families -/

namespace Font

theorem notBlank_comma : isBlankChar ',' = false := by decide

theorem primaryFamily_eq (value : List Char) :
    primaryFamily value = spaced (unquote (trim (value.takeWhile (· != ',')))) := rfl

/-- Blank ends are of no account for the first family. -/
theorem primaryFamily_trim (value : List Char) :
    primaryFamily (trim value) = primaryFamily value := by
  have hcomma (c : Char) (hc : isBlankChar c = true) : (c != ',') = true := by
    rw [bne_iff_ne]
    rintro rfl
    cases hc.symm.trans notBlank_comma
  rw [primaryFamily_eq, trim_takeWhile_trim hcomma, ← primaryFamily_eq]

theorem ne_comma_of_mem (hs : ',' ∉ s) : ∀ c ∈ s, (c != ',') = true := by
  intro c hc
  rw [bne_iff_ne]
  rintro rfl
  exact hs hc

theorem primaryFamily_of_no_comma (hs : ',' ∉ s) :
    primaryFamily s = spaced (unquote (trim s)) := by
  rw [primaryFamily_eq, List.takeWhile_eq_self_iff.2 (ne_comma_of_mem hs)]

/-- The first family of a list is that of its first entry. -/
theorem primaryFamily_entry (hs : ',' ∉ s) (r : List Char) :
    primaryFamily (s ++ ',' :: r) = primaryFamily s := by
  rw [primaryFamily_of_no_comma hs, primaryFamily_eq,
    List.takeWhile_append_of_pos (ne_comma_of_mem hs), List.takeWhile_cons_of_neg (by decide),
    List.append_nil]

theorem unquote_of_no_quote (hs : ∀ c ∈ s, isQuote c = false) : unquote s = s := by
  unfold unquote
  split
  · rfl
  · rename_i first r
    split
    · rfl
    · rw [hs first List.mem_cons_self]
      rfl

/-- A name is taken out of its quotation marks when it stands on one line. -/
theorem unquote_between (s : List Char) :
    unquote ('\'' :: (s ++ ['\''])) =
      if '\n' ∈ s then '\'' :: (s ++ ['\'']) else s := by
  have hquote : isQuote '\'' = true := by decide
  unfold unquote
  simp only [List.getLast?_concat, List.dropLast_concat, hquote, List.contains_eq_mem,
    Bool.true_and]
  by_cases hs : '\n' ∈ s
  · simp [hs]
  · simp [hs]

/-! ## Stacks -/

theorem genericFallback_cons : genericFallback = ',' :: " sans-serif".toList := by decide

variable {value : List Char}

theorem stack_of_comma (hcomma : ',' ∈ trim value) : stack value = trim value := by
  unfold stack
  rw [if_pos (by simpa using hcomma)]

theorem stack_of_quote (hcomma : ',' ∉ trim value) (hquote : (trim value).any isQuote = true) :
    stack value = trim value ++ genericFallback := by
  unfold stack
  rw [if_neg (by simpa using hcomma), if_pos hquote]

theorem stack_of_bare (hcomma : ',' ∉ trim value) (hquote : (trim value).any isQuote = false) :
    stack value = ('\'' :: (trim value ++ ['\''])) ++ genericFallback := by
  unfold stack
  rw [if_neg (by simpa using hcomma), hquote, if_neg Bool.false_ne_true]
  simp

/-- A stack is a list without blank ends. -/
theorem stack_shape (value : List Char) : ',' ∈ stack value ∧ IsTrimmed (stack value) := by
  have hfallback (c : Char) (hc : isBlankChar c = false) (r : List Char) :
      ',' ∈ c :: r ++ genericFallback ∧ IsTrimmed (c :: r ++ genericFallback) := by
    refine ⟨by simp [genericFallback_cons], ?_, ?_⟩
    · rintro d ⟨⟩
      exact hc
    · intro d hd
      have hlast : genericFallback.getLast? = some 'f' := by decide
      rw [List.getLast?_append, hlast] at hd
      cases hd
      decide
  by_cases hcomma : ',' ∈ trim value
  · rw [stack_of_comma hcomma]
    exact ⟨hcomma, isTrimmed_trim value⟩
  · cases hquote : (trim value).any isQuote with
    | true =>
        rw [stack_of_quote hcomma hquote]
        have htrimmed := isTrimmed_trim value
        cases ht : trim value with
        | nil =>
            rw [ht] at hquote
            cases hquote
        | cons c r =>
            rw [ht] at htrimmed
            exact hfallback c (htrimmed.head c rfl) r
    | false =>
        rw [stack_of_bare hcomma hquote]
        exact hfallback '\'' (by decide) _

/-- **Making a stack twice changes nothing.** -/
theorem stack_stack (value : List Char) : stack (stack value) = stack value := by
  obtain ⟨hcomma, htrimmed⟩ := stack_shape value
  rw [stack_of_comma (by rwa [htrimmed.trim_eq]), htrimmed.trim_eq]

/-- A bare name that is broken over several lines: neither a list nor quoted, with a line break
between its blank ends. -/
def IsBrokenName (value : List Char) : Prop :=
  ',' ∉ trim value ∧ (trim value).any isQuote = false ∧ '\n' ∈ trim value

instance (value : List Char) : Decidable (IsBrokenName value) :=
  inferInstanceAs (Decidable (_ ∧ _ ∧ _))

/-- The first family of a bare name is the name, its words one space apart. -/
theorem primaryFamily_of_bare (hcomma : ',' ∉ trim value)
    (hquote : (trim value).any isQuote = false) : primaryFamily value = spaced (trim value) := by
  have hplain : ∀ c ∈ trim value, isQuote c = false := by simpa using hquote
  rw [← primaryFamily_trim, primaryFamily_of_no_comma hcomma, trim_trim,
    unquote_of_no_quote hplain]

/-- The first family in the stack of a bare name is the name out of its quotation marks. -/
theorem primaryFamily_stack_of_bare (hcomma : ',' ∉ trim value)
    (hquote : (trim value).any isQuote = false) :
    primaryFamily (stack value) = spaced (unquote ('\'' :: (trim value ++ ['\'']))) := by
  have hcomma' : ',' ∉ '\'' :: (trim value ++ ['\'']) := by simp [hcomma]
  have htrimmed : IsTrimmed ('\'' :: (trim value ++ ['\''])) := by
    constructor
    · rintro c ⟨⟩
      decide
    · intro c hc
      rw [← List.cons_append, List.getLast?_concat] at hc
      cases hc
      decide
  rw [stack_of_bare hcomma hquote, genericFallback_cons, primaryFamily_entry hcomma',
    primaryFamily_of_no_comma hcomma', htrimmed.trim_eq]

/-- **A value and its stack have the same first family**, but for a broken name. -/
theorem primaryFamily_stack (h : ¬ IsBrokenName value) :
    primaryFamily (stack value) = primaryFamily value := by
  by_cases hcomma : ',' ∈ trim value
  · rw [stack_of_comma hcomma, primaryFamily_trim]
  · cases hquote : (trim value).any isQuote with
    | true =>
        rw [stack_of_quote hcomma hquote, genericFallback_cons, primaryFamily_entry hcomma,
          primaryFamily_trim]
    | false =>
        have hline : '\n' ∉ trim value := fun hline => h ⟨hcomma, hquote, hline⟩
        rw [primaryFamily_stack_of_bare hcomma hquote, primaryFamily_of_bare hcomma hquote,
          unquote_between, if_neg hline]

/-- **The stack of a broken name keeps the quotation marks** in its first family. -/
theorem primaryFamily_stack_of_isBrokenName (h : IsBrokenName value) :
    primaryFamily (stack value) = '\'' :: (primaryFamily value ++ ['\'']) := by
  obtain ⟨hcomma, hquote, hline⟩ := h
  rw [primaryFamily_stack_of_bare hcomma hquote, primaryFamily_of_bare hcomma hquote,
    unquote_between, if_pos hline,
    spaced_between (isTrimmed_trim value) (List.ne_nil_of_mem hline) (by decide)]

theorem primary_stacked {value : String} (h : ¬ IsBrokenName value.toList) :
    primary (stacked value) = primary value := by
  unfold primary stacked
  rw [String.toList_ofList, primaryFamily_stack h]

theorem primary_stacked_of_isBrokenName {value : String} (h : IsBrokenName value.toList) :
    primary (stacked value) = "'" ++ primary value ++ "'" := by
  unfold primary stacked
  rw [String.toList_ofList, primaryFamily_stack_of_isBrokenName h]
  refine String.toList_inj.1 ?_
  simp

/-- The first families agree exactly when the name is not broken. -/
theorem primary_stacked_iff {value : String} :
    primary (stacked value) = primary value ↔ ¬ IsBrokenName value.toList := by
  refine ⟨fun heq h => ?_, primary_stacked⟩
  have hlength := congrArg String.length (heq.symm.trans (primary_stacked_of_isBrokenName h))
  rw [String.length_append, String.length_append, show "'".length = 1 from rfl] at hlength
  omega

/-- In quotation marks of its own a name on two lines is no bare name, and stays as it is. -/
example : IsBrokenName "Open\nSans".toList ∧ ¬ IsBrokenName "'Open\nSans'".toList := by decide

end Font

end VideoSurvey.Text

namespace VideoSurvey.Overlay

open Text.Font (IsBrokenName primary stacked)

/-- **The font that is loaded beforehand is the first of the stack in the stylesheet, but for a
broken name.** Making a stack twice changes nothing. A value and its stack have the same first
family exactly when the value is no broken name, and for such a name the stack's has quotation marks
around it; and so it is with the font and the stack of every survey whose font is the value. -/
theorem preloaded_font_heads_stack (value : String) :
    stacked (stacked value) = stacked value ∧
      (primary (stacked value) = primary value ↔ ¬ IsBrokenName value.toList) ∧
      (IsBrokenName value.toList → primary (stacked value) = "'" ++ primary value ++ "'") ∧
      ∀ (survey : Survey.Resolved) (settings : Settings) (stack : String),
        survey.theme.fontFamily = value →
          Template.lookup? (stylesheetScope survey.theme settings.zIndex) ["font_stack"] =
              some (.str stack) →
            ((Activation.of survey settings).fonts.map FontEntry.name = [primary stack] ↔
              ¬ IsBrokenName value.toList) := by
  refine ⟨?_, Text.Font.primary_stacked_iff, Text.Font.primary_stacked_of_isBrokenName, ?_⟩
  · unfold stacked
    rw [String.toList_ofList, Text.Font.stack_stack]
  · rintro survey settings stack rfl hstack
    obtain rfl : stacked survey.theme.fontFamily = stack := by
      cases hstack
      rfl
    show [primary survey.theme.fontFamily] = [primary (stacked survey.theme.fontFamily)] ↔ _
    rw [List.singleton_inj, eq_comm, Text.Font.primary_stacked_iff]

/-- A bare name on two lines: the font that is loaded is not the first of the stack. -/
theorem broken_name_keeps_quotes :
    ¬ ∀ value : String, primary (stacked value) = primary value ∧
      stacked (stacked value) = stacked value := by
  intro h
  have hbroken := (h "Open\nSans").1
  revert hbroken
  decide

end VideoSurvey.Overlay
