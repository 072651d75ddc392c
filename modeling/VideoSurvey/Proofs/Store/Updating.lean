import VideoSurvey.Proofs.Store.Concurrency
import VideoSurvey.Proofs.Store.OrderedMap
import VideoSurvey.Proofs.Survey.KeyByKey

/-!
# What an update does to a survey

An update lays a patch over a survey: a key of the patch counts as it does by itself, and every
other key keeps what the survey has under it (`LaidOver`, `merged_laidOver`). It fails only when the
patch by itself describes no survey (`exists_merged_iff`), since the survey it is laid over
describes one whatever the patch leaves of it. All of this needs nothing but that the survey is
regular, and the surveys of a repository are (`Repository.regular_of_get`): calls make new records
out of drafts and patches, and every other record was there before (`Memory.Origin`).

Two updates come to one with both patches as long as the second one finds the survey that the first
one has answered. In memory it always does. In a database it finds what the text of that survey
says, and a number that is not whole may be another one there (`two_updates_are_not_one`).
-/

set_option autoImplicit false

namespace VideoSurvey.Store

open Json (Members Ordered)
open Survey (Accepts Definition isIdentity withoutIdentity)

/-! ## One patch -/

/-- What a patch makes of a survey, key by key. -/
structure LaidOver (e : Definition) (time : String) (patch : Members) (d : Definition) : Prop where
  /-- A key of the patch counts as it does by itself. -/
  given : ∀ key v, isIdentity key = false → patch.lookup key = some v →
    ∃ q, Definition.ofJson (.obj [(key, v)]) = .ok q ∧ d.member? key = q.member? key
  /-- Any other key is left as it was, there or not. -/
  left : ∀ key, isIdentity key = false → patch.lookup key = none → d.member? key = e.member? key
  id : d.id = e.id
  createdAt : d.createdAt = e.createdAt
  updatedAt : d.updatedAt = some time

section Patch

variable {e d : Definition} {time : String} {patch : Members}

theorem isFixed_of_isIdentity {key : String} (h : isIdentity key = false) :
    isFixed key = false ∧ key ≠ "updatedAt" := by
  simp only [isIdentity, Bool.or_eq_false_iff, decide_eq_false_iff_not] at h
  obtain ⟨⟨hid, hcreated⟩, hupdated⟩ := h
  exact ⟨by simp [isFixed, hid, hcreated], hupdated⟩

/-- What the changed members have under a key that does not tell which record it is. -/
theorem lookup_changed_of_plain (e : Definition) (time : String) (hpatch : patch.Distinct)
    {key : String} (hkey : isIdentity key = false) :
    (changed e time patch).lookup key =
      (patch.lookup key).or (e.sortedMembers.lookup key) := by
  obtain ⟨hfree, hne⟩ := isFixed_of_isIdentity hkey
  rw [lookup_changed e time hpatch hne, if_neg (by simp [hfree])]

/-- Every member of a regular survey describes a survey by itself. -/
theorem accepts_of_regular (he : e.Regular) {key : String} {v : Json}
    (h : e.sortedMembers.lookup key = some v) : Accepts key v := by
  have hread : ∃ d, Definition.ofJson (.obj e.sortedMembers) = .ok d := by
    rw [← e.toSortedJson_eq]
    exact ⟨e, he.ofJson_toSortedJson⟩
  have hdistinct := (Json.ordered_obj.1 e.sortedMembers_ordered).1.distinct
  exact (Definition.exists_ofJson_iff hdistinct).1 hread key v h

/-- **A patch is refused only for what it brings itself.** -/
theorem exists_merged_iff (he : e.Regular) (hpatch : patch.Sorted) :
    (∃ d, merged e time (.obj patch) = .ok d) ↔
      ∃ q, Definition.ofJson (.obj (withoutIdentity patch)) = .ok q := by
  have hplain : (withoutIdentity patch).Sorted := hpatch.filter _
  rw [merged_obj]
  simp only [definitionOf_eq_ok]
  rw [Definition.exists_ofJson_iff (changed_sorted e time patch).distinct,
    Definition.exists_ofJson_iff hplain.distinct]
  constructor
  · intro h key v hlookup
    cases hkey : isIdentity key with
    | true =>
        rw [Survey.lookup_withoutIdentity_self hkey] at hlookup
        cases hlookup
    | false =>
        rw [Survey.lookup_withoutIdentity hkey] at hlookup
        apply h key v
        rw [lookup_changed_of_plain e time hpatch.distinct hkey, hlookup]
        rfl
  · intro h key v hlookup
    by_cases hupdated : key = "updatedAt"
    · subst hupdated
      rw [lookup_changed_updatedAt] at hlookup
      cases hlookup
      exact ⟨_, rfl⟩
    · cases hkey : isIdentity key with
      | true =>
          -- who the record is, the survey itself says
          have hfixed : isFixed key = true := by
            simp only [isIdentity, Bool.or_eq_true, decide_eq_true_eq, hupdated, or_false] at hkey
            rcases hkey with rfl | rfl <;> rfl
          rw [lookup_changed e time hpatch.distinct hupdated, if_pos hfixed] at hlookup
          exact accepts_of_regular he hlookup
      | false =>
          rw [lookup_changed_of_plain e time hpatch.distinct hkey] at hlookup
          cases hgiven : patch.lookup key with
          | none =>
              rw [hgiven] at hlookup
              exact accepts_of_regular he hlookup
          | some w =>
              rw [hgiven] at hlookup
              cases hlookup
              exact h key v ((Survey.lookup_withoutIdentity hkey patch).trans hgiven)

/-- **A patch is laid over a survey key by key.** -/
theorem merged_laidOver (he : e.Regular) (hpatch : Ordered (.obj patch))
    (h : merged e time (.obj patch) = .ok d) : LaidOver e time patch d := by
  have hsorted := (Json.ordered_obj.1 hpatch).1
  obtain ⟨-, hfound⟩ := merged_eq_ok_iff.1 h
  have hchanged := changed_ordered e time hpatch
  -- the fixed members are read in the changed members as in those of the survey
  have hfixed : ∀ key, isFixed key = true → key ≠ "updatedAt" →
      (changed e time patch).lookup key = e.sortedMembers.lookup key := by
    intro key hkey hne
    rw [lookup_changed e time hsorted.distinct hne, if_pos hkey]
  refine ⟨?_, ?_, ?_, ?_, ?_⟩
  · intro key v hkey hgiven
    have hlookup : (changed e time patch).lookup key = some v := by
      rw [lookup_changed_of_plain e time hsorted.distinct hkey, hgiven]
      rfl
    obtain ⟨q, hq⟩ := (Definition.exists_ofJson_iff (changed_sorted e time patch).distinct).1
      ⟨d, definitionOf_eq_ok.1 (merged_obj e time patch ▸ h)⟩ key v hlookup
    have hq' := (Definition.ofMembers_eq_ok (Survey.distinct_single key v)).1
      (Definition.ofJson_eq_ok.1 hq).2
    refine ⟨q, hq, hfound.member?_congr hq' hchanged ?_ ?_⟩
    · exact Survey.ordered_single key (hpatch.lookup hgiven)
    · rw [hlookup, Members.lookup_cons, if_pos rfl]
  · intro key hkey habsent
    apply hfound.member?_congr he.foundIn_sortedMembers hchanged e.sortedMembers_ordered
    rw [lookup_changed_of_plain e time hsorted.distinct hkey, habsent, Option.none_or]
  · exact Survey.eq_of_found hfound.id he.foundIn_sortedMembers.id
      (hfixed "id" rfl (by decide))
  · exact Survey.eq_of_found hfound.createdAt he.foundIn_sortedMembers.createdAt
      (hfixed "createdAt" rfl (by decide))
  · have hupdated := hfound.updatedAt
    rw [Json.found_some (lookup_changed_updatedAt e time patch)] at hupdated
    exact (Except.ok.inj hupdated).symm

/-- At another time a patch makes the same survey, changed at that time. -/
theorem merged_at (hpatch : patch.Sorted) (h : merged e time (.obj patch) = .ok d)
    (time' : String) :
    merged e time' (.obj patch) = .ok { d with updatedAt := some time' } := by
  obtain ⟨hshape, hfound⟩ := merged_eq_ok_iff.1 h
  have hsame : ∀ key, key ≠ "updatedAt" →
      (changed e time' patch).lookup key = (changed e time patch).lookup key := by
    intro key hne
    rw [lookup_changed e time' hpatch.distinct hne, lookup_changed e time hpatch.distinct hne]
  apply merged_eq_ok_iff.2
  refine ⟨(Survey.shapeFault?_congr (hsame _ (by decide))).trans hshape, ?_⟩
  refine hfound.withIdentity (changed_sorted e time patch) (changed_sorted e time' patch)
    (fun key hkey => hsame key (isFixed_of_isIdentity hkey).2) ?_ ?_ ?_
  · exact (Json.found_eq_of_lookup (hsame _ (by decide)) _ _).trans hfound.id
  · exact (Json.found_eq_of_lookup (hsame _ (by decide)) _ _).trans hfound.createdAt
  · exact Json.found_some (lookup_changed_updatedAt e time' patch) _ _

end Patch

/-! ## Surveys of a repository -/

namespace Repository

variable {r : Repository}

/-- Records in memory are regular; of rows nothing is asked. -/
def Regular : Repository → Prop
  | .memory m => ∀ d ∈ m, d.Regular
  | .database _ => True

/-- A call keeps the records regular. -/
theorem Regular.run (h : r.Regular) {c : Call} (hbody : ∀ v ∈ c.body?, Ordered v) :
    (c.run r).2.Regular := by
  cases hr : (c.run r).2 with
  | database table => trivial
  | memory m' =>
      cases r with
      | database table => cases c <;> cases hr
      | memory m =>
          intro d hd
          cases Memory.origin_of_mem hr hd with
          | kept there => exact h d there
          | made stamp body call made => exact newRecord_regular made (hbody body (call ▸ rfl))
          | changed id time patch existing call there made =>
              exact merged_regular made (hbody patch (call ▸ rfl))

/-- So do several calls. -/
theorem Regular.trace (h : r.Regular) {calls : List Call}
    (hbodies : ∀ c ∈ calls, ∀ v ∈ c.body?, Ordered v) :
    (Trace.of r calls).repository.Regular := by
  induction calls using List.reverseRecOn with
  | nil => exact h
  | append_singleton calls c ih =>
      rw [Trace.of_append]
      refine Regular.run (ih fun c hc => hbodies c (List.mem_append_left _ hc)) ?_
      exact hbodies c (List.mem_append_right _ List.mem_cons_self)

/-- **A survey that a repository gives is regular.** -/
theorem regular_of_get (h : r.Regular) {id : String} {d : Definition}
    (hget : (r.get id).1 = .ok d) : d.Regular := by
  cases r with
  | memory m => exact h d (Memory.mem_of_get hget).1
  | database table =>
      obtain ⟨row, -, -, hstored⟩ := exists_row_of_loaded hget
      exact (decoded_of_stored hstored).regular

/-! ## One update and two -/

variable {id time : String} {patch : Members} {e d : Definition}

/-- An update answers what the patch makes of the survey that is there. -/
theorem update_eq (hget : (r.get id).1 = .ok e) (time : String) (patch : Json) :
    (r.update id time patch).1 = merged e time patch := by
  cases r with
  | memory m =>
      replace hget : m.get id = .ok e := hget
      show (m.update id time patch).1 = _
      unfold Memory.update
      rw [hget]
      simp only
      cases merged e time patch with
      | error fault => rfl
      | ok record => rfl
  | database table =>
      have hanswer := congrArg Prod.fst (Call.run_update id time patch table)
      rw [rewritten_of_loaded hget] at hanswer
      have hrun : ((Call.update id time patch).script.run table).1 =
          .survey ((Repository.database table).update id time patch).1 := by
        rw [Call.script, Script.run_map]
        rfl
      rw [hrun] at hanswer
      cases hmerged : merged e time patch with
      | error fault =>
          rw [hmerged] at hanswer
          exact Answer.survey.inj hanswer
      | ok record =>
          rw [hmerged] at hanswer
          exact Answer.survey.inj hanswer

/-- In memory an updated survey is there as it was answered. -/
theorem get_update_memory {m : Memory} (h : Repository.Regular (.memory m))
    (hget : m.get id = .ok e) (hpatch : Ordered (.obj patch))
    (hd : ((Repository.memory m).update id time (.obj patch)).1 = .ok d) :
    (((Repository.memory m).update id time (.obj patch)).2.get id).1 = .ok d := by
  rw [update_eq (r := .memory m) hget] at hd
  rcases m.get_cases id with ⟨front, old, back, rfl, hfront, hold, hget'⟩ | ⟨-, habsent⟩
  · obtain rfl := Except.ok.inj (hget'.symm.trans hget)
    have hid : d.id = id := by
      rw [(merged_laidOver (h old (Memory.mem_of_get hget).1) hpatch hd).id, hold]
    have hupdate : Memory.update (front ++ old :: back) id time (.obj patch) =
        (.ok d, front ++ d :: back) := by
      unfold Memory.update
      rw [hget]
      simp only [hd, Memory.replace_append hfront hold]
    show ((Memory.update (front ++ old :: back) id time (.obj patch)).2).get id = _
    rw [hupdate]
    apply Memory.get_eq_ok.2
    exact List.find?_eq_some_iff_append.2
      ⟨decide_eq_true hid, front, back, rfl, fun d' hd' => by simpa using hfront d' hd'⟩
  · cases habsent.symm.trans hget

/-- In a database an updated survey is there as its text tells it. -/
theorem get_update_database {table : Table}
    (hget : ((Repository.database table).get id).1 = .ok e) {patch : Json}
    (hd : ((Repository.database table).update id time patch).1 = .ok d) :
    (((Repository.database table).update id time patch).2.get id).1 = storedDefinition d.text := by
  rw [update_eq hget] at hd
  have hrewritten : table.rewritten id time patch = .ok d :=
    (rewritten_of_loaded hget time patch).trans hd
  have hrun := congrArg Prod.snd (Call.run_update id time patch table)
  rw [hrewritten] at hrun
  have hlast : ((Repository.database table).update id time patch).2 =
      .database (table.stored id d) := by
    refine Eq.trans ?_ (congrArg Repository.database hrun)
    rw [Call.script, Script.run_map]
    rfl
  rw [hlast]
  exact loaded_stored (Table.under_ne_nil_of_rewritten hrewritten)

end Repository

/-- What is sure of an update that has answered a survey. -/
structure Updated (r : Repository) (id time : String) (e : Definition) (patch : Members)
    (d : Definition) : Prop where
  laidOver : LaidOver e time patch d
  /-- The survey is there as it was answered, in memory always, and in a database when the numbers
  of the survey before and of the patch are integers that are kept exactly. -/
  there : (∃ m, r = .memory m) ∨ e.toJson.hasWholeNumbers = true ∧
      (Json.obj patch).hasWholeNumbers = true ∧ (Json.obj patch).depth ≤ Json.greatestDepth →
    ((r.update id time (.obj patch)).2.get id).1 = .ok d
  /-- When it is there so, a second update answers what one update with both patches does. -/
  joined : ((r.update id time (.obj patch)).2.get id).1 = .ok d →
    ∀ (later : Members) (time' : String) (d' : Definition), Ordered (.obj later) →
      ((r.update id time (.obj patch)).2.update id time' (.obj later)).1 = .ok d' →
        ∀ t, (r.update id t (.obj (Store.joined patch later))).1 =
          .ok { d' with updatedAt := some t }

/-- **An update lays its patch over the survey that is there.** Take any survey that a repository
gives behind any calls. An update succeeds exactly when its patch, without the keys that tell which
record it is, describes a survey. Then each key of the patch counts as it does by itself, every
other key is left as it was, and the record keeps its id and the time of its creation. -/
theorem update_lays_patch_over {start : Repository}
    (hstart : start = .memory [] ∨ ∃ table, start = .database table) {calls : List Call}
    (hbodies : ∀ c ∈ calls, ∀ v ∈ c.body?, Ordered v) {id : String} {e : Definition}
    (hget : ((Trace.of start calls).repository.get id).1 = .ok e) {patch : Members}
    (hpatch : Ordered (.obj patch)) (time : String) :
    ((∃ d, ((Trace.of start calls).repository.update id time (.obj patch)).1 = .ok d) ↔
        ∃ q, Definition.ofJson (.obj (withoutIdentity patch)) = .ok q) ∧
      ∀ d, ((Trace.of start calls).repository.update id time (.obj patch)).1 = .ok d →
        Updated (Trace.of start calls).repository id time e patch d := by
  have hregular : (Trace.of start calls).repository.Regular := by
    refine Repository.Regular.trace ?_ hbodies
    rcases hstart with rfl | ⟨table, rfl⟩
    · exact fun d hd => absurd hd List.not_mem_nil
    · trivial
  generalize (Trace.of start calls).repository = r at hget hregular ⊢
  have he := Repository.regular_of_get hregular hget
  have hsorted := (Json.ordered_obj.1 hpatch).1
  refine ⟨?_, ?_⟩
  · rw [Repository.update_eq hget]
    exact exists_merged_iff he hsorted
  · intro d hd
    have hmerged := (Repository.update_eq hget time _).symm.trans hd
    refine ⟨merged_laidOver he hpatch hmerged, ?_, ?_⟩
    · intro hkept
      cases r with
      | memory m => exact Repository.get_update_memory hregular hget hpatch hd
      | database table =>
          rcases hkept with ⟨m, hm⟩ | ⟨hwhole, hpatchWhole, hdepth⟩
          · cases hm
          · obtain ⟨row, -, -, hstored⟩ := exists_row_of_loaded hget
            have hstorable := (decoded_of_stored hstored).storable hwhole
            rw [Repository.get_update_database hget hd]
            exact storedDefinition_text
              (merged_storable hmerged hstorable ⟨hpatch, hdepth, hpatchWhole⟩)
    · intro hthere later time' d' hlater hd' t
      have hmerged' := (Repository.update_eq hthere time' _).symm.trans hd'
      have hlater' := (Json.ordered_obj.1 hlater).1
      have hfound := (merged_regular hmerged hpatch).foundIn_sortedMembers
      rw [Repository.update_eq hget]
      exact merged_at (joined_sorted hsorted)
        (merged_joined hsorted hlater' hmerged hfound hmerged') t

/-- A survey is created in memory and updated twice; the first patch brings an id of its own, and
the second one has the last word on a member that is not known. -/
theorem update_lays_patch_over_twice :
    let calls : List Call := [.create ⟨"a", "2024-01-01"⟩ (.obj [])]
    let r := (Trace.of (.memory []) calls).repository
    let earlier : Members := [("id", .str "b"), ("title", .str "T"), ("zone", .null)]
    let later : Members := [("zone", .bool true)]
    ∃ d d', (r.get "a").1 = .ok bareRecord ∧
      (r.update "a" "2024-01-02" (.obj earlier)).1 = .ok d ∧
      d.title = some "T" ∧ d.id = "a" ∧
      Updated r "a" "2024-01-02" bareRecord earlier d ∧
      ((r.update "a" "2024-01-02" (.obj earlier)).2.update "a" "2024-01-03" (.obj later)).1 =
        .ok d' ∧
      (r.update "a" "2024-01-03" (.obj (joined earlier later))).1 =
        .ok { d' with updatedAt := some "2024-01-03" } := by
  intro calls r earlier later
  have hbodies : ∀ c ∈ calls, ∀ v ∈ c.body?, Ordered v := by
    intro c hc v hv
    obtain rfl := List.mem_singleton.1 hc
    cases hv
    exact Json.sortKeys_ordered (.obj [])
  have hearlier : Ordered (.obj earlier) := Json.sortKeys_ordered (.obj earlier)
  have hlater : Ordered (.obj later) := Json.sortKeys_ordered (.obj later)
  have hget : (r.get "a").1 = .ok bareRecord := rfl
  let d : Definition :=
    { bareRecord with
      title := some "T", updatedAt := some "2024-01-02", extra := [("zone", .null)] }
  have hd : (r.update "a" "2024-01-02" (.obj earlier)).1 = .ok d :=
    (Repository.update_eq hget _ _).trans rfl
  have h : Updated r "a" "2024-01-02" bareRecord earlier d :=
    (update_lays_patch_over (.inl rfl) hbodies hget hearlier "2024-01-02").2 d hd
  have hthere := h.there (.inl ⟨_, rfl⟩)
  -- the second patch describes a survey, so it is not refused
  have hregular : d.Regular :=
    merged_regular ((Repository.update_eq hget _ _).symm.trans hd) hearlier
  obtain ⟨d', hmerged⟩ : ∃ d', merged d "2024-01-03" (.obj later) = .ok d' :=
    (exists_merged_iff hregular (Json.ordered_obj.1 hlater).1).2 ⟨_, rfl⟩
  have hd' := (Repository.update_eq hthere "2024-01-03" (.obj later)).trans hmerged
  exact ⟨d, d', hget, hd, rfl, rfl, h, hd',
    h.joined hthere later "2024-01-03" d' hlater hd' "2024-01-03"⟩

/-- **Two updates of a database are not one** when the first brings a number that is another one
once it was printed and read. -/
theorem two_updates_are_not_one :
    ¬ ∀ (table : Table) (id t₁ t₂ t : String) (earlier later : Members)
        (d₁ d₂ d : Definition), Ordered (.obj earlier) → Ordered (.obj later) →
      ((Repository.database table).update id t₁ (.obj earlier)).1 = .ok d₁ →
      (((Repository.database table).update id t₁ (.obj earlier)).2.update id t₂ (.obj later)).1 =
        .ok d₂ →
      ((Repository.database table).update id t (.obj (joined earlier later))).1 = .ok d →
        d₂ = { d with updatedAt := d₂.updatedAt } := by
  intro h
  let r : Repository := .database bareTable
  have hget : (r.get "a").1 = .ok bareRecord :=
    (Repository.get_database bareTable "a").trans loaded_bareTable
  have hscore : Ordered (.obj scorePatch) := Json.sortKeys_ordered (.obj scorePatch)
  have htitle : Ordered (.obj titlePatch) := Json.sortKeys_ordered (.obj titlePatch)
  let both : Definition :=
    { bareRecord with
      title := some "T", updatedAt := some "2024-01-03", extra := scorePatch }
  have hfirst : (r.update "a" "2024-01-02" (.obj scorePatch)).1 = .ok scored :=
    Repository.update_eq hget _ _
  have hboth : (r.update "a" "2024-01-03" (.obj (joined scorePatch titlePatch))).1 = .ok both :=
    Repository.update_eq hget _ _
  obtain ⟨second, hsecond, hscored⟩ := score_reread titlePatch (by simp)
  cases hstored : storedDefinition scored.text with
  | error fault =>
      rw [hstored] at hsecond
      cases hsecond
  | ok found =>
      rw [hstored] at hsecond
      have hthere := (Repository.get_update_database hget hfirst).trans hstored
      have hlast := (Repository.update_eq hthere "2024-01-03" (.obj titlePatch)).trans hsecond
      have hsame := h bareTable "a" "2024-01-02" "2024-01-03" "2024-01-03" scorePatch titlePatch
        scored second both hscore htitle hfirst hlast hboth
      have hextra : score second.extra = score both.extra := by
        rw [hsame]
      rw [hscored] at hextra
      revert hextra
      decide +kernel

end VideoSurvey.Store
