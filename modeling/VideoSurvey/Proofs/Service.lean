import VideoSurvey.Proofs.Store.Frame
import VideoSurvey.Proofs.Store.Identity
import VideoSurvey.Service

/-!
# Both ways to an overlay

A survey is compiled straight from its document, or it is created with the service and compiled
when its overlay is generated. Whatever is done to other surveys in between, both ways give the
same bundle or the same fault.
-/

set_option autoImplicit false

namespace VideoSurvey.Service

open Json (Keepable Members Ordered)
open Overlay (compile)
open Store (Call Repository Stamp)
open Survey (Definition withoutIdentity)

/-! ## Operations -/

/-- An operation of the service. -/
inductive Operation where
  | store (c : Call)
  | generate (id : String)

/-- Carries out an operation. -/
def Operation.run (s : Service) : Operation → Replied × Service
  | .store (.create stamp body) => s.create stamp body
  | .store (.get id) => s.get id
  | .store .list => s.list
  | .store (.update id time patch) => s.update id time patch
  | .store (.delete id) => s.delete id
  | .generate id => s.generate id

/-- An operation on other ids: it changes nothing under an id, and its body is a value. -/
def Operation.IsElsewhere (id : String) : Operation → Prop
  | .store c => c.Leaves id ∧ ∀ v ∈ c.body?, Ordered v
  | .generate _ => True

/-- The service after some operations. -/
def after (s : Service) (operations : List Operation) : Service :=
  operations.foldl (fun s o => (o.run s).2) s

/-! ## Other ids -/

/-- Two services hold the same under an id, and compile alike. -/
structure SameAt (id : String) (s s' : Service) : Prop where
  repository : Repository.SameAt id s.repository s'.repository
  orderly : s'.repository.Orderly
  settings : s'.settings = s.settings
  render : s'.render = s.render

variable {s s' : Service} {id : String}

theorem sameAt_run (h : s.repository.Orderly) {o : Operation} (ho : o.IsElsewhere id) :
    SameAt id s (o.run s).2 := by
  cases o with
  | store c =>
      obtain ⟨hleaves, hbody⟩ := ho
      obtain ⟨hsame, horderly⟩ := Repository.sameAt_run h hleaves hbody
      cases c with
      | create stamp body => exact ⟨hsame, horderly, rfl, rfl⟩
      | get other => exact ⟨hsame, horderly, rfl, rfl⟩
      | list => exact ⟨hsame, horderly, rfl, rfl⟩
      | update other time patch => exact ⟨hsame, horderly, rfl, rfl⟩
      | delete other => exact ⟨hsame, horderly, rfl, rfl⟩
  | generate other =>
      -- generating reads the repository as a call that gets a record does
      have hbody : ∀ v ∈ (Call.get other).body?, Ordered v := by
        rintro v ⟨⟩
      obtain ⟨hsame, horderly⟩ := Repository.sameAt_run (c := .get other) h trivial hbody
      exact ⟨hsame, horderly, rfl, rfl⟩

/-- **Operations on other ids change nothing under an id.** -/
theorem sameAt_after (h : s.repository.Orderly) {operations : List Operation}
    (hall : ∀ o ∈ operations, o.IsElsewhere id) : SameAt id s (s.after operations) := by
  induction operations generalizing s with
  | nil => exact ⟨Repository.SameAt.refl id _, h, rfl, rfl⟩
  | cons o operations ih =>
      have hfirst := sameAt_run h (hall o List.mem_cons_self)
      have hrest := ih hfirst.orderly fun o' ho' => hall o' (List.mem_cons_of_mem o ho')
      exact ⟨hfirst.repository.trans hrest.repository, hrest.orderly,
        hrest.settings.trans hfirst.settings, hrest.render.trans hfirst.render⟩

/-- What is generated for a record that is there is what is compiled from it. -/
theorem generate_of_get {d : Definition} (h : (s.repository.get id).1 = .ok d) :
    (s.generate id).1 =
      match compile s.render d s.settings with
      | .ok bundle => .ok (.generated bundle)
      | .error fault => .error (.compile fault) := by
  unfold generate
  cases hcompile : compile s.render d s.settings with
  | error fault => simp only [h, hcompile]
  | ok bundle => simp only [h, hcompile]

/-! ## The two ways -/

theorem create_result {stamp : Stamp} {body : Json} :
    (∃ reply, (s.create stamp body).1 = .ok reply) ↔
      ∃ d, (s.repository.create stamp body).1 = .ok d := by
  unfold create keeping
  cases (s.repository.create stamp body).1 with
  | error fault =>
      constructor
      · rintro ⟨_, ⟨⟩⟩
      · rintro ⟨_, ⟨⟩⟩
  | ok d => exact ⟨fun _ => ⟨d, rfl⟩, fun _ => ⟨.created d, rfl⟩⟩

/-- The overlay of a record that was created, whatever is done to other records later. -/
theorem generate_after_create {stamp : Stamp} {body : Json} {d : Definition}
    (h : s.repository.Orderly) (hnew : s.repository.Lacks stamp.id)
    (hbody : Keepable Json.greatestDepth body) (hd : Store.newRecord stamp body = .ok d)
    {later : List Operation} (hlater : ∀ o ∈ later, o.IsElsewhere stamp.id) :
    (((s.create stamp body).2.after later).generate stamp.id).1 =
      match compile s.render d s.settings with
      | .ok bundle => .ok (.generated bundle)
      | .error fault => .error (.compile fault) := by
  have hthere : ((s.create stamp body).2.repository.get stamp.id).1 = .ok d :=
    (Repository.create_get hnew hbody).2 d hd
  have horderly : (s.create stamp body).2.repository.Orderly :=
    Repository.Orderly.run (c := .create stamp body) h (by rintro v ⟨⟩; exact hbody.ordered)
  -- the later operations leave the record where it was put
  have hlast := sameAt_after horderly hlater
  rw [hlast.repository.get_eq] at hthere
  rw [generate_of_get hthere, hlast.settings, hlast.render]
  rfl

/-- **A survey that is created and generated comes out as it does when it is compiled directly**,
for either repository and whatever is done to other surveys before and after; and what is compiled
depends neither on the id and the times nor on unknown members. -/
theorem ways_agree (stamp : Stamp) {start : Repository}
    (hstart : start = .memory [] ∨
      ∃ table, start = .database table ∧ ∀ row ∈ table, row.id ≠ stamp.id)
    {raw : String} {members : Members} (hraw : Json.read raw = .ok (.obj members))
    (hwhole : (Json.obj members).hasWholeNumbers = true)
    {plain : String} (hplain : Json.read plain = .ok (.obj (withoutIdentity members)))
    {before later : List Operation} (hbefore : ∀ o ∈ before, o.IsElsewhere stamp.id)
    (hlater : ∀ o ∈ later, o.IsElsewhere stamp.id) (settings : Settings) (render : Renderer) :
    let created := (after ⟨start, settings, render⟩ before).create stamp (.obj members)
    ((∃ reply, created.1 = .ok reply) ↔ ∃ d, Definition.ofText plain = .ok d) ∧
      (∀ d, Definition.ofText plain = .ok d →
        envelope ((created.2.after later).generate stamp.id).1 =
          match compile render d settings with
          | .ok bundle => .obj [("code", .str bundle.html), ("success", .bool true)]
          | .error fault => .obj [("error", .str fault.message), ("success", .bool false)]) ∧
      ∀ (d : Definition) (id : String) (createdAt updatedAt : Option String) (extra : Members),
        compile render { d with id, createdAt, updatedAt, extra } settings =
          compile render d settings := by
  intro created
  have hkeepable := Json.keepable_of_read hraw hwhole
  have hdraft := (Json.keepable_obj.1 hkeepable).1
  have hdirect : Definition.ofText plain = Definition.ofJson (.obj (withoutIdentity members)) := by
    unfold Definition.ofText
    rw [hplain]
  -- before the survey is created, its id is free
  have hfree : start.Orderly ∧ start.Lacks stamp.id := by
    rcases hstart with rfl | ⟨table, rfl, hrows⟩
    · exact ⟨fun d hd => absurd hd List.not_mem_nil, rfl⟩
    · refine ⟨trivial, List.filter_eq_nil_iff.2 ?_⟩
      intro row hrow
      simpa using hrows row hrow
  have hcut : SameAt stamp.id ⟨start, settings, render⟩ _ := sameAt_after hfree.1 hbefore
  have hnew := hcut.repository.lacks hfree.2
  refine ⟨?_, ?_, fun d id createdAt updatedAt extra => ?_⟩
  · rw [create_result, (Repository.create_get hnew hkeepable).1, hdirect]
    constructor
    · rintro ⟨d, hd⟩
      exact ⟨_, Store.direct_of_newRecord hdraft hd⟩
    · rintro ⟨d, hd⟩
      exact ⟨_, Store.newRecord_of_direct stamp hdraft hd⟩
  · intro d hd
    have hrecord := Store.newRecord_of_direct stamp hdraft (hdirect ▸ hd)
    rw [generate_after_create hcut.orderly hnew hkeepable hrecord hlater, hcut.settings,
      hcut.render]
    have hsame : compile render (d.withIdentity stamp.id (some stamp.time) none) settings =
        compile render d settings := Overlay.compile_plain render d settings _ _ _ d.extra
    simp only [hsame]
    cases compile render d settings with
    | error fault => rfl
    | ok bundle => rfl
  · exact Overlay.compile_plain render d settings id createdAt updatedAt extra

/-- A survey that brings an id is created between two operations on another one. -/
theorem ways_agree_own_id :
    let members : Members :=
      [("id", .str "mine"), ("questions", .arr [.obj [("type", .str "text")]])]
    let created := (after ⟨.database [], Settings.standard, Overlay.Pages.templates⟩
      [.store (.create ⟨"b", "2024-01-01T00:00:00.000Z"⟩ (.obj []))]).create
        ⟨"a", "2024-01-02T00:00:00.000Z"⟩ (.obj members)
    let plain := "\x7b\"questions\":[\x7b\"type\":\"text\"\x7d]\x7d"
    ((∃ reply, created.1 = .ok reply) ↔ ∃ d, Definition.ofText plain = .ok d) ∧
      (∀ d, Definition.ofText plain = .ok d →
        envelope ((created.2.after [.store (.delete "b")]).generate "a").1 =
          match compile Overlay.Pages.templates d Settings.standard with
          | .ok bundle => .obj [("code", .str bundle.html), ("success", .bool true)]
          | .error fault => .obj [("error", .str fault.message), ("success", .bool false)]) ∧
      ∀ (d : Definition) (id : String) (createdAt updatedAt : Option String) (extra : Members),
        compile Overlay.Pages.templates { d with id, createdAt, updatedAt, extra }
            Settings.standard =
          compile Overlay.Pages.templates d Settings.standard := by
  intro members created plain
  have hraw : Json.read (Json.obj members).compactText = .ok (.obj members) :=
    Json.read_compactText rfl (by decide)
  have hplain : Json.read plain = .ok (.obj (withoutIdentity members)) := by
    rw [show plain = (Json.obj (withoutIdentity members)).compactText by decide +kernel]
    exact Json.read_compactText rfl (by decide)
  have hne : "b" ≠ "a" := by decide
  have hbefore : ∀ o ∈ [Operation.store (.create ⟨"b", "2024-01-01T00:00:00.000Z"⟩ (.obj []))],
      o.IsElsewhere "a" := by
    intro o ho
    obtain rfl := List.mem_singleton.1 ho
    refine ⟨hne, ?_⟩
    rintro v ⟨⟩
    exact Json.ordered_obj.2 ⟨List.Pairwise.nil, fun m hm => absurd hm List.not_mem_nil⟩
  have hlater : ∀ o ∈ [Operation.store (.delete "b")], o.IsElsewhere "a" := by
    intro o ho
    obtain rfl := List.mem_singleton.1 ho
    refine ⟨hne, ?_⟩
    rintro v ⟨⟩
  have hstart : Repository.database [] = .memory [] ∨ ∃ table, Repository.database [] =
      .database table ∧ ∀ row ∈ table, row.id ≠ "a" :=
    .inr ⟨[], rfl, fun row hrow => absurd hrow List.not_mem_nil⟩
  exact ways_agree ⟨"a", "2024-01-02T00:00:00.000Z"⟩ hstart hraw rfl hplain hbefore hlater
    Settings.standard Overlay.Pages.templates

end VideoSurvey.Service
