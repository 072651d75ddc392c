import VideoSurvey.Files.Templates
import VideoSurvey.Proofs.Overlay.BuiltIn
import VideoSurvey.Proofs.Survey.Types
import VideoSurvey.Proofs.Survey.Written

/-!
# What comes of a document

A document is looked at in three passes: the shape of its questions, the types of its members, and
what the questions and the star scale ask for. `judge` names the first thing that is wrong, from the
document alone, and a question at fault by its place. With the built-in templates compiling a value
comes to this verdict and to no other (`verdict_compileValue`): no template ever fails.
-/

set_option autoImplicit false

namespace VideoSurvey.Overlay

open Json (Members Ordered membersFit)
open Results
open Survey (Definition Question Kind StarScale typeOf? starsOf? firstFault? shapeFault? questionFault?
  resolveQuestions)

/-! ## Verdicts -/

/-- What comes of compiling a document. -/
inductive Verdict where
  | malformed
  | invalid (position : Nat)
  | template
  | compiled
deriving DecidableEq, Repr

/-- The verdict of a result. -/
def verdict : Except CompileFault Bundle → Verdict
  | .ok _ => .compiled
  | .error (.survey (.question position _)) => .invalid position
  | .error (.survey (.document _)) => .malformed
  | .error (.template _) => .template

/-- Compiles a definition with the templates that the settings ask for. -/
def compileBy (files : Files.Tree) (settings : Settings) (d : Definition) :
    Except CompileFault Bundle := do
  let templates ← (TemplateSet.ofSettings files settings).mapError .template
  compile templates d settings

/-- Compiles a value. -/
def compileValue (files : Files.Tree) (settings : Settings) (v : Json) :
    Except CompileFault Bundle := do
  let d ← (Definition.ofJson v).mapError .survey
  compileBy files settings d

/-! ## Judging a document -/

/-- The members of a document and its questions, if it is an object and the questions, if there are
any, are an array. -/
def document? : Json → Option (Members × List Json)
  | .obj members =>
      match Members.lookup "questions" members with
      | none => some (members, [])
      | some (.arr questions) => some (members, questions)
      | some _ => none
  | _ => none

/-- A question that is not an object with a string for its type. -/
def isMisshapen (question : Json) : Bool := (typeOf? question).isNone

/-- A question whose type is none of the known ones. -/
def isUnrecognized (question : Json) : Bool :=
  typeOf? question != some "star-rating" && typeOf? question != some "text"

/-- The place of the first entry that passes a test, counted from one. -/
def firstAt? {α : Type} (test : α → Bool) (l : List α) : Option Nat :=
  (l.findIdx? test).map (· + 1)

/-- The number of stars that a document gives. -/
def starsGiven? (members : Members) : Option Int := (members.lookup "starRating").bind starsOf?

/-- What is wrong with a document, the first thing first. -/
def judge (v : Json) : Verdict :=
  match document? v with
  | none => .malformed
  | some (members, questions) =>
      match firstAt? isMisshapen questions with
      | some position => .invalid position
      | none =>
          if membersFit Definition.types members then
            match firstAt? isUnrecognized questions with
            | some position => .invalid position
            | none => if (starsGiven? members).any (10 < ·) then .malformed else .compiled
          else .malformed

/-! ## The shape of the questions -/

theorem isMisshapen_eq (question : Json) :
    isMisshapen question = (questionFault? question).isSome := by
  have h := @Survey.questionFault?_eq_none_iff question
  unfold isMisshapen
  cases hfault : questionFault? question with
  | none => rw [Option.isNone_eq_false_iff.2 (h.1 hfault), Option.isSome_none]
  | some fault =>
      rw [hfault] at h
      cases htype : typeOf? question with
      | none => rfl
      | some name =>
          rw [htype] at h
          cases h.2 rfl

section Shape

variable {questions : List Json}

theorem firstFault?_of_none (h : questions.findIdx? isMisshapen = none) (position : Nat) :
    firstFault? position questions = none := by
  refine Survey.firstFault?_eq_none ?_ position
  intro question hq
  have hshape := List.findIdx?_eq_none_iff.1 h question hq
  rw [isMisshapen_eq] at hshape
  exact Option.isSome_eq_false_iff.1 hshape |> Option.isNone_iff_eq_none.1

/-- The first question whose shape is wrong is named. -/
theorem firstFault?_of_some {i : Nat} (h : questions.findIdx? isMisshapen = some i)
    (position : Nat) :
    ∃ fault, firstFault? position questions = some (.question (position + i) fault) := by
  induction questions generalizing i position with
  | nil => cases h
  | cons question questions ih =>
      rw [List.findIdx?_cons, isMisshapen_eq] at h
      unfold firstFault?
      cases hfault : questionFault? question with
      | some fault =>
          rw [hfault, Option.isSome_some, if_pos rfl] at h
          cases h
          exact ⟨fault, rfl⟩
      | none =>
          rw [hfault, Option.isSome_none, if_neg Bool.false_ne_true] at h
          obtain ⟨j, hj, rfl⟩ := Option.map_eq_some_iff.1 h
          obtain ⟨fault, hrest⟩ := ih hj (position + 1)
          refine ⟨fault, hrest.trans ?_⟩
          rw [Nat.add_assoc, Nat.add_comm 1 j]

end Shape

/-! ## The kinds of the questions -/

section Kinds

/-- A question whose kind is none of the known ones. -/
def isUnknown (q : Question) : Bool := !q.kind.isRecognized

variable {questions : List Question}

theorem resolve_of_recognized {q : Question} (h : isUnknown q = false) (position : Nat) :
    ∃ resolved, q.resolve position = .ok resolved := by
  unfold isUnknown at h
  unfold Question.resolve
  cases hk : q.kind with
  | starRating => exact ⟨_, rfl⟩
  | text => exact ⟨_, rfl⟩
  | unrecognized name =>
      rw [hk] at h
      cases h

theorem resolve_of_unrecognized {q : Question} (h : isUnknown q = true) (position : Nat) :
    ∃ fault, q.resolve position = .error (.question position fault) := by
  unfold isUnknown at h
  unfold Question.resolve
  cases hk : q.kind with
  | starRating =>
      rw [hk] at h
      cases h
  | text =>
      rw [hk] at h
      cases h
  | unrecognized name => exact ⟨_, rfl⟩

theorem resolveQuestions_of_none (h : questions.findIdx? isUnknown = none) (position : Nat) :
    ∃ resolved, resolveQuestions position questions = .ok resolved := by
  induction questions generalizing position with
  | nil => exact ⟨[], rfl⟩
  | cons q questions ih =>
      have hall := List.findIdx?_eq_none_iff.1 h
      obtain ⟨first, hq⟩ := resolve_of_recognized (hall q List.mem_cons_self) position
      have hrest : questions.findIdx? isUnknown = none :=
        List.findIdx?_eq_none_iff.2 fun q' hq' => hall q' (List.mem_cons_of_mem q hq')
      obtain ⟨rest, hr⟩ := ih hrest (position + 1)
      exact ⟨first :: rest, bind_eq_ok.2 ⟨first, hq, bind_eq_ok.2 ⟨rest, hr, rfl⟩⟩⟩

/-- The first question of an unknown kind is named. -/
theorem resolveQuestions_of_some {i : Nat} (h : questions.findIdx? isUnknown = some i)
    (position : Nat) :
    ∃ fault, resolveQuestions position questions = .error (.question (position + i) fault) := by
  induction questions generalizing i position with
  | nil => cases h
  | cons q questions ih =>
      rw [List.findIdx?_cons] at h
      unfold resolveQuestions
      cases hq : isUnknown q with
      | true =>
          rw [hq, if_pos rfl] at h
          cases h
          obtain ⟨fault, hfault⟩ := resolve_of_unrecognized hq position
          refine ⟨fault, ?_⟩
          rw [hfault]
          rfl
      | false =>
          rw [hq, if_neg Bool.false_ne_true] at h
          obtain ⟨j, hj, rfl⟩ := Option.map_eq_some_iff.1 h
          obtain ⟨first, hfirst⟩ := resolve_of_recognized hq position
          obtain ⟨fault, hrest⟩ := ih hj (position + 1)
          refine ⟨fault, ?_⟩
          rw [hfirst, Nat.add_comm j 1, ← Nat.add_assoc]
          simp only [bind, Except.bind, hrest]

/-- Tests that agree entry by entry find the same place. -/
theorem findIdx?_eq_of_forall₂ {α β : Type} {R : α → β → Prop} {p : α → Bool} {q : β → Bool}
    {l : List α} {r : List β} (h : List.Forall₂ R l r) (hR : ∀ a ∈ l, ∀ b, R a b → p a = q b) :
    l.findIdx? p = r.findIdx? q := by
  induction h with
  | nil => rfl
  | cons hab _ ih =>
      obtain ⟨hhead, htail⟩ := List.forall_mem_cons.1 hR
      rw [List.findIdx?_cons, List.findIdx?_cons, hhead _ hab, ih htail]

theorem isRecognized_ofName (name : String) :
    (Kind.ofName name).isRecognized = (name == "star-rating" || name == "text") := by
  unfold Kind.ofName
  by_cases hstar : name = "star-rating"
  · simp [hstar, Kind.isRecognized]
  · by_cases htext : name = "text"
    · simp [htext, Kind.isRecognized]
    · simp [hstar, htext, Kind.isRecognized]

/-- A question is of an unknown kind when its type is none of the known ones. -/
theorem isUnrecognized_eq {question : Json} (hv : Ordered question)
    (htype : isMisshapen question = false) {q : Question}
    (h : Question.decoder.ofJson question = .ok q) : isUnrecognized question = isUnknown q := by
  obtain ⟨name, hname⟩ := Option.isSome_iff_exists.1 (Option.isNone_eq_false_iff.1 htype)
  have hkind : q.kind = .ofName name := Question.kind_of_read hv hname h
  unfold isUnknown isUnrecognized
  rw [hkind, isRecognized_ofName, hname, Bool.not_or]
  rfl

end Kinds

/-! ## Definitions -/

/-- What is wrong with a definition, the first thing first. -/
def judgeDefinition (d : Definition) : Verdict :=
  match firstAt? isUnknown d.questions with
  | some position => .invalid position
  | none => if d.starScale.maxStars.any (10 < ·) then .malformed else .compiled

theorem judgeDefinition_ne_template (d : Definition) : judgeDefinition d ≠ .template := by
  unfold judgeDefinition
  cases firstAt? isUnknown d.questions with
  | some position => exact nofun
  | none =>
      simp only
      split
      · exact nofun
      · exact nofun

section Scale

variable {s : StarScale}

theorem starScale_resolve_of_above (h : s.maxStars.any (10 < ·) = true) :
    ∃ fault, s.resolve = .error (.document fault) := by
  unfold StarScale.resolve
  cases hn : s.maxStars with
  | none =>
      rw [hn] at h
      cases h
  | some n =>
      rw [hn] at h
      have habove : (10 : Int) < n := of_decide_eq_true h
      exact ⟨_, if_pos habove⟩

theorem starScale_resolve_of_within (h : s.maxStars.any (10 < ·) = false) :
    ∃ n, s.resolve = .ok n := by
  unfold StarScale.resolve
  cases hn : s.maxStars with
  | none => exact ⟨5, rfl⟩
  | some n =>
      rw [hn] at h
      have hwithin : ¬ (10 : Int) < n := of_decide_eq_false h
      exact ⟨_, if_neg hwithin⟩

end Scale

section Resolution

variable {d : Definition}

/-- The questions come before the star scale. -/
theorem resolve_of_unknown {i : Nat} (h : d.questions.findIdx? isUnknown = some i) :
    ∃ fault, d.resolve = .error (.question (1 + i) fault) := by
  obtain ⟨fault, hquestions⟩ := resolveQuestions_of_some h 1
  refine ⟨fault, ?_⟩
  unfold Definition.resolve
  rw [hquestions]
  rfl

theorem resolve_of_above (h : d.questions.findIdx? isUnknown = none)
    (hstars : d.starScale.maxStars.any (10 < ·) = true) :
    ∃ fault, d.resolve = .error (.document fault) := by
  obtain ⟨questions, hquestions⟩ := resolveQuestions_of_none h 1
  obtain ⟨fault, hscale⟩ := starScale_resolve_of_above hstars
  refine ⟨fault, ?_⟩
  unfold Definition.resolve
  rw [hquestions, hscale]
  rfl

theorem resolve_of_within (h : d.questions.findIdx? isUnknown = none)
    (hstars : d.starScale.maxStars.any (10 < ·) = false) : ∃ survey, d.resolve = .ok survey := by
  obtain ⟨questions, hquestions⟩ := resolveQuestions_of_none h 1
  obtain ⟨maxStars, hscale⟩ := starScale_resolve_of_within hstars
  exact ⟨_, Definition.resolve_eq_ok.2 ⟨questions, maxStars, hquestions, hscale, rfl⟩⟩

end Resolution

section BuiltIn

variable {files : Files.Tree} {settings : Settings} {d : Definition}

/-- Settings without a template directory ask for the built-in templates. -/
theorem ofSettings_eq
    (h : ∀ path, settings.templateDir = some path → Text.isBlank path = true) :
    TemplateSet.ofSettings files settings = .ok Pages.templates := by
  unfold TemplateSet.ofSettings
  cases hpath : settings.templateDir with
  | none => rfl
  | some path =>
      simp only [if_pos (h path hpath)]
      rfl

theorem compileBy_eq (h : ∀ path, settings.templateDir = some path → Text.isBlank path = true)
    (d : Definition) : compileBy files settings d = compile Pages.templates d settings := by
  unfold compileBy
  rw [ofSettings_eq h]
  rfl

theorem compile_of_resolve_eq_error {render : Renderer} {fault : Survey.Fault}
    (h : d.resolve = .error fault) :
    compile render d settings = .error (.survey fault) := by
  unfold compile
  rw [h]
  rfl

/-- **Definitions are compiled with the built-in templates** unless a question is of an unknown kind
or the star scale is too long. -/
theorem verdict_compileBy
    (h : ∀ path, settings.templateDir = some path → Text.isBlank path = true) (d : Definition) :
    verdict (compileBy files settings d) = judgeDefinition d := by
  rw [compileBy_eq h]
  unfold judgeDefinition firstAt?
  cases hquestions : d.questions.findIdx? isUnknown with
  | some i =>
      obtain ⟨fault, hresolve⟩ := resolve_of_unknown hquestions
      rw [compile_of_resolve_eq_error hresolve, Nat.add_comm 1 i]
      rfl
  | none =>
      cases hstars : d.starScale.maxStars.any (10 < ·) with
      | true =>
          obtain ⟨fault, hresolve⟩ := resolve_of_above hquestions hstars
          rw [compile_of_resolve_eq_error hresolve]
          rfl
      | false =>
          -- nothing else is asked of a definition, since the built-in pages fit every survey
          obtain ⟨bundle, hbundle⟩ :=
            (Pages.compile_templates d settings).2 (resolve_of_within hquestions hstars)
          rw [hbundle]
          rfl

end BuiltIn

/-! ## Documents -/

section Documents

variable {v : Json} {members : Members} {questions : List Json}

/-- A value that is no document is refused. -/
theorem ofJson_of_document?_eq_none (h : document? v = none) :
    ∃ fault, Definition.ofJson v = .error (.document fault) := by
  cases v with
  | obj members =>
      have hfault : shapeFault? members = some (.document .questionsNotAList) := by
        unfold document? at h
        unfold shapeFault?
        cases hlookup : Members.lookup "questions" members with
        | none => simp [hlookup] at h
        | some w =>
            cases w with
            | arr questions => simp [hlookup] at h
            | _ => rfl
      exact ⟨.questionsNotAList, by simp only [Definition.ofJson, hfault]⟩
  | _ => exact ⟨_, rfl⟩

/-- The questions of a document stand in its members, if there are any. -/
theorem document?_eq_some (h : document? v = some (members, questions)) :
    v = .obj members ∧ (members.lookup "questions" = none ∧ questions = [] ∨
      members.lookup "questions" = some (.arr questions)) := by
  unfold document? at h
  split at h
  · split at h
    · rename_i hlookup
      cases h
      exact ⟨rfl, .inl ⟨hlookup, rfl⟩⟩
    · rename_i hlookup
      cases h
      exact ⟨rfl, .inr hlookup⟩
    · cases h
  · cases h

theorem shapeFault?_eq (h : document? v = some (members, questions)) :
    shapeFault? members = firstFault? 1 questions := by
  unfold shapeFault?
  rcases (document?_eq_some h).2 with ⟨hlookup, rfl⟩ | hlookup
  · rw [hlookup]
    rfl
  · rw [hlookup]

/-- A document that is read has its questions, each from its place. -/
theorem questions_of_read (h : document? v = some (members, questions)) {d : Definition}
    (hd : d.FoundIn members) :
    List.Forall₂ (fun v q => Question.decoder.ofJson v = .ok q) questions d.questions := by
  have hfound := hd.questions
  rcases (document?_eq_some h).2 with ⟨hlookup, rfl⟩ | hlookup
  · -- a document without questions is read as one with none
    rw [Json.found_none hlookup] at hfound
    rw [← Except.ok.inj hfound]
    exact .nil
  · rw [Json.found_some hlookup] at hfound
    obtain ⟨items, hitems, hread⟩ := Json.list_eq_ok.1 hfound
    cases hitems
    exact hread

/-- A document that is read has the star scale that it gives. -/
theorem stars_of_read (hmembers : Ordered (.obj members)) {d : Definition}
    (hd : d.FoundIn members) : d.starScale.maxStars = starsGiven? members := by
  have hfound := hd.starScale
  unfold starsGiven?
  cases hlookup : members.lookup "starRating" with
  | none =>
      rw [Json.found_none hlookup] at hfound
      rw [← Except.ok.inj hfound]
      rfl
  | some w =>
      rw [Json.found_some hlookup] at hfound
      exact StarScale.maxStars_of_read (hmembers.lookup hlookup) hfound

/-- A document that is read is judged as the definition is. -/
theorem judgeDefinition_eq (h : document? v = some (members, questions)) (hv : Ordered v)
    (hshape : questions.findIdx? isMisshapen = none) {d : Definition} (hd : d.FoundIn members) :
    judgeDefinition d =
      match firstAt? isUnrecognized questions with
      | some position => .invalid position
      | none => if (starsGiven? members).any (10 < ·) then .malformed else .compiled := by
  obtain ⟨rfl, hquestions⟩ := document?_eq_some h
  have hordered : ∀ question ∈ questions, Ordered question := by
    rcases hquestions with ⟨-, rfl⟩ | hlookup
    · exact List.forall_mem_nil _
    · exact Json.ordered_arr.1 (hv.lookup hlookup)
  have hplace : questions.findIdx? isUnrecognized = d.questions.findIdx? isUnknown :=
    findIdx?_eq_of_forall₂ (questions_of_read h hd) fun question hq q hread =>
      isUnrecognized_eq (hordered question hq) (List.findIdx?_eq_none_iff.1 hshape question hq) hread
  unfold judgeDefinition firstAt?
  rw [hplace, stars_of_read hv hd]

/-- A document whose questions have types is read when its members fit. -/
theorem exists_ofMembers_iff (h : document? v = some (members, questions)) (hv : Ordered v)
    (hshape : questions.findIdx? isMisshapen = none) :
    (∃ d, Definition.ofMembers members = .ok d) ↔ membersFit Definition.types members = true := by
  obtain ⟨rfl, hquestions⟩ := document?_eq_some h
  refine Definition.exists_ofMembers_iff_membersFit hv ?_
  intro items hitems question hq
  have hmem : question ∈ questions := by
    rcases hquestions with ⟨hlookup, -⟩ | hlookup
    · cases hlookup.symm.trans hitems
    · cases hlookup.symm.trans hitems
      exact hq
  have htype := List.findIdx?_eq_none_iff.1 hshape question hmem
  exact Option.isNone_eq_false_iff.1 htype

end Documents

/-! ## Every value -/

section Values

variable {files : Files.Tree} {settings : Settings} {v : Json}

theorem compileValue_of_error {fault : Survey.Fault} (h : Definition.ofJson v = .error fault) :
    compileValue files settings v = .error (.survey fault) := by
  unfold compileValue
  rw [h]
  rfl

theorem compileValue_of_ok {d : Definition} (h : Definition.ofJson v = .ok d) :
    compileValue files settings v = compileBy files settings d := by
  unfold compileValue
  rw [h]
  rfl

variable {members : Members} {questions : List Json}

/-- A question whose shape is wrong is named before any types are looked at. -/
theorem verdict_of_misshapen (h : document? v = some (members, questions)) {i : Nat}
    (hshape : questions.findIdx? isMisshapen = some i) :
    verdict (compileValue files settings v) = .invalid (i + 1) := by
  obtain ⟨fault, hfirst⟩ := firstFault?_of_some hshape 1
  obtain ⟨rfl, -⟩ := document?_eq_some h
  have hread : Definition.ofJson (.obj members) = .error (.question (1 + i) fault) := by
    simp only [Definition.ofJson, shapeFault?_eq h, hfirst]
  rw [compileValue_of_error hread, Nat.add_comm 1 i]
  rfl

/-- A member of the wrong type is noticed before the kinds of the questions. -/
theorem verdict_of_misfit (h : document? v = some (members, questions)) (hv : Ordered v)
    (hshape : questions.findIdx? isMisshapen = none)
    (hfit : ¬ membersFit Definition.types members = true) :
    verdict (compileValue files settings v) = .malformed := by
  have hexists := exists_ofMembers_iff h hv hshape
  obtain ⟨rfl, -⟩ := document?_eq_some h
  cases hd : Definition.ofMembers members with
  | ok d => exact absurd (hexists.1 ⟨d, hd⟩) hfit
  | error mismatch =>
      have hread : Definition.ofJson (.obj members) = .error (.document (.mismatch mismatch)) := by
        simp only [Definition.ofJson, shapeFault?_eq h, firstFault?_of_none hshape 1, hd]
      rw [compileValue_of_error hread]
      rfl

/-- A document whose members fit is compiled as the definition that is read from it. -/
theorem compileValue_of_fit (h : document? v = some (members, questions)) (hv : Ordered v)
    (hshape : questions.findIdx? isMisshapen = none)
    (hfit : membersFit Definition.types members = true) :
    ∃ d : Definition, d.FoundIn members ∧
      compileValue files settings v = compileBy files settings d := by
  obtain ⟨d, hd⟩ := (exists_ofMembers_iff h hv hshape).2 hfit
  have hnone : shapeFault? members = none :=
    (shapeFault?_eq h).trans (firstFault?_of_none hshape 1)
  obtain ⟨rfl, -⟩ := document?_eq_some h
  exact ⟨d, (Definition.ofMembers_eq_ok (Json.ordered_obj.1 hv).1.distinct).1 hd,
    compileValue_of_ok (Definition.ofJson_eq_ok.2 ⟨hnone, hd⟩)⟩

/-- **Compiling a value comes to the verdict on it.** Whatever the value, with the members of its
objects in order, and whatever the settings that ask for the built-in templates: the first thing
that is wrong with it is named, and if nothing is, there is a bundle. No definition makes a built-in
template fail, and writing JSON cannot fail at all, so that a bundle is whole or not there. -/
theorem verdict_compileValue (files : Files.Tree) (settings : Settings) (v : Json) (hv : Ordered v)
    (builtIn : ∀ path, settings.templateDir = some path → Text.isBlank path = true) :
    verdict (compileValue files settings v) = judge v ∧
      ∀ (d : Definition) (fault : TemplateFault),
        compileBy files settings d ≠ .error (.template fault) := by
  constructor
  · unfold judge
    cases hdocument : document? v with
    | none =>
        obtain ⟨fault, hread⟩ := ofJson_of_document?_eq_none hdocument
        rw [compileValue_of_error hread]
        rfl
    | some found =>
        obtain ⟨members, questions⟩ := found
        -- a pass is reached only when the passes before it found nothing
        cases hshape : questions.findIdx? isMisshapen with
        | some i =>
            rw [verdict_of_misshapen hdocument hshape]
            simp only [firstAt?, hshape, Option.map_some]
        | none =>
            simp only [firstAt?, hshape, Option.map_none]
            by_cases hfit : membersFit Definition.types members = true
            · obtain ⟨d, hd, hcompile⟩ := compileValue_of_fit hdocument hv hshape hfit
              rw [hcompile, verdict_compileBy builtIn, judgeDefinition_eq hdocument hv hshape hd,
                if_pos hfit]
              rfl
            · rw [verdict_of_misfit hdocument hv hshape hfit, if_neg hfit]
  · intro d fault hcompile
    have hverdict : verdict (compileBy files settings d) = judgeDefinition d :=
      verdict_compileBy builtIn d
    rw [hcompile] at hverdict
    exact judgeDefinition_ne_template d hverdict.symm

/-- A question of an unknown kind is named, though the star scale is too long as well. -/
theorem verdict_compileValue_slider :
    let v : Json :=
      .obj [("questions", .arr [.obj [("type", .str "text")], .obj [("type", .str "slider")]]),
        ("starRating", .obj [("maxStars", Json.ofInt 11)])]
    Ordered v ∧ verdict (compileValue [] .standard v) = .invalid 2 := by
  intro v
  have hordered : Ordered v := Json.sortKeys_ordered v
  refine ⟨hordered, (verdict_compileValue [] .standard v hordered ?_).1.trans (by decide)⟩
  rintro path ⟨⟩

end Values

end VideoSurvey.Overlay
