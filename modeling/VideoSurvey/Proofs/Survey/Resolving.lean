import VideoSurvey.Proofs.Overlay.Chain

/-!
# What a resolved survey holds

Every text of a resolved survey has something to read. It is the text of the definition as that
stands, blank ends included, where the definition gives one that is not blank (`Taken`), and a
default otherwise. A text that was taken would be taken again, so a survey whose values are all
written out resolves to itself. This is told for one text, for one question and for the questions
in order, and put together in `resolve_settles`.
-/

set_option autoImplicit false

namespace VideoSurvey

/-! ## Texts -/

/-- A text with something to read: one of its characters is not blank. -/
def Text.NotBlank (s : String) : Prop := ∃ c ∈ s.toList, Text.isBlankChar c = false

theorem Text.isBlank_eq_false_iff {s : String} : Text.isBlank s = false ↔ Text.NotBlank s := by
  simp [Text.isBlank, Text.NotBlank, List.all_eq_false]

theorem Text.NotBlank.append {s : String} (h : Text.NotBlank s) (t : String) :
    Text.NotBlank (s ++ t) := by
  obtain ⟨c, hc, hblank⟩ := h
  refine ⟨c, ?_, hblank⟩
  rw [String.toList_append]
  exact List.mem_append_left _ hc

namespace Survey

/-- A text that was taken for an option: it has something to read, and it is the text that was
given, as it stands, where that has something to read. -/
structure Taken (value : Option String) (s : String) : Prop where
  notBlank : Text.NotBlank s
  verbatim : ∀ t, value = some t → Text.NotBlank t → s = t

/-- A text with something to read stays. -/
theorem given_of_notBlank {s : String} (h : Text.NotBlank s) (fallback : String) :
    given (some s) fallback = s := by
  unfold given
  simp only [Text.isBlank_eq_false_iff.2 h]
  rfl

/-- **What is taken for an option**, when the fallback has something to read. -/
theorem taken_given (value : Option String) {fallback : String} (h : Text.NotBlank fallback) :
    Taken value (given value fallback) := by
  cases value with
  | none => exact ⟨h, nofun⟩
  | some s =>
      cases hs : Text.isBlank s with
      | false =>
          have hnotBlank := Text.isBlank_eq_false_iff.1 hs
          rw [given_of_notBlank hnotBlank]
          refine ⟨hnotBlank, ?_⟩
          rintro t ⟨⟩ -
          rfl
      | true =>
          have hfallback : given (some s) fallback = fallback := by
            unfold given
            simp only [hs]
            rfl
          rw [hfallback]
          refine ⟨h, ?_⟩
          rintro t ⟨⟩ ht
          cases hs.symm.trans (Text.isBlank_eq_false_iff.2 ht)

/-! ## Defaults -/

theorem notBlank_defaultTrackId (position : Nat) : Text.NotBlank (defaultTrackId position) := by
  have hfront : Text.NotBlank "question_" := Text.isBlank_eq_false_iff.1 (by decide)
  exact (hfront.append _).append _

theorem notBlank_defaultTrackName (kind : Kind) (position : Nat) :
    Text.NotBlank (defaultTrackName kind position) := by
  have hfront : Text.NotBlank "Question " := Text.isBlank_eq_false_iff.1 (by decide)
  cases kind with
  | starRating => exact (hfront.append _).append _
  | text => exact hfront.append _
  | unrecognized name => exact hfront.append _

/-- The texts that are taken when none is given. -/
def defaultTexts : List String :=
  [defaults.title, defaults.placeholder, defaults.theme.primaryColor, defaults.theme.textColor,
    defaults.theme.borderColor, defaults.theme.cardBackground, defaults.theme.fontFamily,
    defaults.thankYou.message, defaults.thankYou.subtext]

/-- Every default text has something to read. -/
theorem notBlank_defaultTexts : ∀ s ∈ defaultTexts, Text.NotBlank s := by
  have hall : ∀ s ∈ defaultTexts, Text.isBlank s = false := by decide
  exact fun s hs => Text.isBlank_eq_false_iff.1 (hall s hs)

theorem taken_given_default (value : Option String) {fallback : String}
    (h : fallback ∈ defaultTexts) : Taken value (given value fallback) :=
  taken_given value (notBlank_defaultTexts _ h)

/-! ## Values written out -/

/-- The kind of the questions that ask for an answer. -/
def Answer.kind : Answer → Kind
  | .starRating => .starRating
  | .text _ => .text

/-- The placeholder of an answer that has one. -/
def Answer.placeholder? : Answer → Option String
  | .starRating => none
  | .text placeholder => some placeholder

/-- A question that gives every value of a resolved one. -/
def ResolvedQuestion.explicit (q : ResolvedQuestion) : Question where
  kind := q.answer.kind
  text := q.text
  trackId := some q.trackId
  trackName := some q.trackName
  placeholder := q.answer.placeholder?

/-- A video that gives every value of a resolved one. -/
def ResolvedVideo.explicit (v : ResolvedVideo) : Video where
  host := v.host
  videoId := v.videoId
  startTime := some v.startTime
  endTime := some v.endTime
  continueTime := some v.continueTime
  params := v.params

/-- A styling that gives every token of a theme. -/
def Theme.explicit (t : Theme) : Styling where
  primaryColor := some t.primaryColor
  textColor := some t.textColor
  borderColor := some t.borderColor
  cardBackground := some t.cardBackground
  fontFamily := some t.fontFamily

/-- A definition that gives every value of a resolved survey. Its id, its times and its unknown
members, of which a resolved survey has none, are those of another definition. -/
def Resolved.explicit (r : Resolved) (base : Definition) : Definition :=
  { base with
    title := some r.title
    questions := r.questions.map ResolvedQuestion.explicit
    starScale := ⟨some r.maxStars⟩
    video := r.video.explicit
    styling := r.theme.explicit
    thankYouMessage := some r.thankYou.message
    thankYouSubtext := some r.thankYou.subtext
    thankYouDuration := some r.thankYou.durationMs }

/-! ## Questions -/

/-- What a question resolves to at a place. -/
structure Question.ResolvesTo (q : Question) (position : Nat) (rq : ResolvedQuestion) : Prop where
  position : rq.position = position
  text : rq.text = q.text
  kind : rq.answer.kind = q.kind
  trackId : Taken q.trackId rq.trackId
  trackName : Taken q.trackName rq.trackName
  placeholder : ∀ s, rq.answer.placeholder? = some s → Taken q.placeholder s

theorem Question.resolvesTo {q : Question} {position : Nat} {rq : ResolvedQuestion}
    (h : q.resolve position = .ok rq) : q.ResolvesTo position rq := by
  obtain ⟨answer, hanswer, rfl⟩ := Question.resolve_eq_ok.1 h
  have htrackId := taken_given q.trackId (notBlank_defaultTrackId position)
  have htrackName := taken_given q.trackName (notBlank_defaultTrackName q.kind position)
  rcases Answer.ofKind_eq_ok.1 hanswer with ⟨hkind, rfl⟩ | ⟨hkind, rfl⟩
  · exact ⟨rfl, rfl, hkind.symm, htrackId, htrackName, nofun⟩
  · refine ⟨rfl, rfl, hkind.symm, htrackId, htrackName, ?_⟩
    rintro s ⟨⟩
    exact taken_given_default q.placeholder (by decide)

/-- A resolved question with its values written out resolves to itself. -/
theorem Question.ResolvesTo.resolve_explicit {q : Question} {position : Nat}
    {rq : ResolvedQuestion} (h : q.ResolvesTo position rq) :
    rq.explicit.resolve position = .ok rq := by
  have htrackId := given_of_notBlank h.trackId.notBlank (defaultTrackId position)
  have htrackName := given_of_notBlank h.trackName.notBlank
    (defaultTrackName rq.answer.kind position)
  have hanswer : Answer.ofKind rq.answer.placeholder? rq.answer.kind = .ok rq.answer := by
    cases hrq : rq.answer with
    | starRating => rfl
    | text s =>
        have hs := (h.placeholder s (by rw [hrq]; rfl)).notBlank
        exact Answer.ofKind_eq_ok.2 (.inr ⟨rfl, by rw [Answer.placeholder?, given_of_notBlank hs]⟩)
  refine Question.resolve_eq_ok.2 ⟨rq.answer, hanswer, ?_⟩
  unfold ResolvedQuestion.explicit
  simp only [htrackId, htrackName]
  rw [← h.position]

/-- **Resolved questions with their values written out resolve to themselves.** -/
theorem resolveQuestions_explicit {position : Nat} {questions : List Question}
    {resolved : List ResolvedQuestion} (h : resolveQuestions position questions = .ok resolved) :
    resolveQuestions position (resolved.map ResolvedQuestion.explicit) = .ok resolved := by
  induction questions generalizing position resolved with
  | nil =>
      cases h
      rfl
  | cons q questions ih =>
      obtain ⟨rq, hq, h⟩ := Results.bind_eq_ok.1 h
      obtain ⟨rest, hrest, h⟩ := Results.bind_eq_ok.1 h
      cases h
      exact Results.bind_eq_ok.2 ⟨rq, (Question.resolvesTo hq).resolve_explicit,
        Results.bind_eq_ok.2 ⟨rest, ih hrest, rfl⟩⟩

/-! ## Surveys -/

/-- What a definition resolves to. -/
structure Definition.ResolvesTo (d : Definition) (r : Resolved) : Prop where
  count : r.questions.length = d.questions.length
  questions : ∀ (i : Nat) (q : Question), d.questions[i]? = some q →
    ∃ rq, r.questions[i]? = some rq ∧ q.ResolvesTo (i + 1) rq
  title : Taken d.title r.title
  primaryColor : Taken d.styling.primaryColor r.theme.primaryColor
  textColor : Taken d.styling.textColor r.theme.textColor
  borderColor : Taken d.styling.borderColor r.theme.borderColor
  cardBackground : Taken d.styling.cardBackground r.theme.cardBackground
  fontFamily : Taken d.styling.fontFamily r.theme.fontFamily
  message : Taken d.thankYouMessage r.thankYou.message
  subtext : Taken d.thankYouSubtext r.thankYou.subtext
  maxStars : r.maxStars ≤ 10

theorem Definition.resolvesTo {d : Definition} {r : Resolved} (h : d.resolve = .ok r) :
    d.ResolvesTo r := by
  obtain ⟨questions, maxStars, hquestions, hstars, rfl⟩ := Definition.resolve_eq_ok.1 h
  refine ⟨resolveQuestions_length hquestions, ?_, taken_given_default _ (by decide),
    taken_given_default _ (by decide), taken_given_default _ (by decide),
    taken_given_default _ (by decide), taken_given_default _ (by decide),
    taken_given_default _ (by decide), taken_given_default _ (by decide),
    taken_given_default _ (by decide), StarScale.resolve_le hstars⟩
  intro i q hq
  obtain ⟨rq, hrq, hresolve⟩ := resolveQuestions_getElem? hquestions hq
  rw [Nat.add_comm] at hresolve
  exact ⟨rq, hrq, Question.resolvesTo hresolve⟩

/-- A star scale within the limit resolves to itself. -/
theorem StarScale.resolve_explicit {maxStars : Nat} (h : maxStars ≤ 10) :
    StarScale.resolve ⟨some maxStars⟩ = .ok maxStars := by
  unfold StarScale.resolve maxStarsLimit
  rw [Option.getD_some, if_neg (by omega), Int.toNat_natCast]

/-- A theme with its tokens written out resolves to itself. -/
theorem Theme.resolve_explicit {theme : Theme} (h : ∀ s ∈ [theme.primaryColor, theme.textColor,
    theme.borderColor, theme.cardBackground, theme.fontFamily], Text.NotBlank s) :
    theme.explicit.resolve = theme := by
  simp only [List.forall_mem_cons] at h
  obtain ⟨hprimary, htext, hborder, hcard, hfont, -⟩ := h
  unfold Styling.resolve Theme.explicit
  simp only [given_of_notBlank, hprimary, htext, hborder, hcard, hfont]

/-- **A resolved survey has the questions of its definition in order and texts with something to
read, those of the definition as they stand where it gives such; its star scale goes up to ten at
most; and with every value written out it resolves to itself.** -/
theorem Definition.resolve_settles {d : Definition} {r : Resolved} (h : d.resolve = .ok r) :
    d.ResolvesTo r ∧ ∀ base : Definition, (r.explicit base).resolve = .ok r := by
  have hto := Definition.resolvesTo h
  refine ⟨hto, fun base => Definition.resolve_eq_ok.2 ⟨r.questions, r.maxStars, ?_,
    StarScale.resolve_explicit hto.maxStars, ?_⟩⟩
  · exact resolveQuestions_explicit (Overlay.resolve_questions h)
  · have htheme : r.theme.explicit.resolve = r.theme := Theme.resolve_explicit (by
      simp only [List.forall_mem_cons]
      exact ⟨hto.primaryColor.notBlank, hto.textColor.notBlank, hto.borderColor.notBlank,
        hto.cardBackground.notBlank, hto.fontFamily.notBlank, List.forall_mem_nil _⟩)
    have hthankYou : (r.explicit base).thankYou = r.thankYou := by
      unfold Definition.thankYou Resolved.explicit
      simp only [given_of_notBlank, hto.message.notBlank, hto.subtext.notBlank, Option.getD_some]
    have htitle := given_of_notBlank hto.title.notBlank defaults.title
    rw [hthankYou]
    unfold Resolved.explicit
    simp only [htheme, htitle]
    rfl

/-- Blank texts are replaced, a text with blank ends is kept with them, and the star scale of a
negative number is empty. -/
theorem Definition.resolve_settles_mixed :
    let d : Definition :=
      { Definition.blank with
        title := some " \u00a0"
        questions := [⟨.text, "Why?", some " why ", some "", some "\n"⟩, .starRating "Quality?"]
        starScale := ⟨some (-3)⟩ }
    ∃ r, d.resolve = .ok r ∧ r.title = defaults.title ∧
      r.questions.map ResolvedQuestion.trackId = [" why ", "question_2_feedback"] ∧
      r.maxStars = 0 ∧ d.ResolvesTo r ∧ ∀ base : Definition, (r.explicit base).resolve = .ok r := by
  intro d
  have h : d.resolve = .ok _ := rfl
  exact ⟨_, h, by decide, by decide, rfl, Definition.resolve_settles h⟩

end Survey

end VideoSurvey
