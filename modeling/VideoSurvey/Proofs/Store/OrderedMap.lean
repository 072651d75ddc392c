import Mathlib.Data.List.Induction
import VideoSurvey.Proofs.Store.Frame

/-!
# Records in memory as an ordered map

The calls of a repository and what they answered make up a history, and the history alone tells
what the repository holds: under each id the record that was put there last, in the order of the
creations (`Memory.Told`). Every call is a step of an ordered map from ids to records
(`Memory.Step`): a record is added at the end, replaced where it stands, or taken out of its place,
and a call that fails changes nothing. Steps are taken one by one in `Memory.Told.step`, and a whole
run is told by its history in `Trace.told`.
-/

set_option autoImplicit false

namespace VideoSurvey.Store

open Json (Ordered)
open Survey (Definition)

/-! ## What a history says -/

/-- A call and what it answered. -/
abbrev Exchange := Call × Answer

/-- The stamp of the record that an exchange created. -/
def made? : Exchange → Option Stamp
  | (.create stamp _, .survey (.ok _)) => some stamp
  | _ => none

/-- What an exchange left under an id, if it touched it: a record, or none. -/
def put? (id : String) : Exchange → Option (Option Definition)
  | (.create stamp _, .survey (.ok d)) => if stamp.id = id then some (some d) else none
  | (.update other _ _, .survey (.ok d)) => if other = id then some (some d) else none
  | (.delete other, .deleted (.ok _)) => if other = id then some none else none
  | _ => none

/-- The stamps of the records that were created, in their order. -/
def stamps (history : List Exchange) : List Stamp := history.filterMap made?

/-- The record that was put under an id last, unless it was dropped since. -/
def live? (history : List Exchange) (id : String) : Option Definition :=
  (history.reverse.findSome? (put? id)).join

/-- The answer to a question for an id. -/
def found (history : List Exchange) (id : String) : Except StoreFault Definition :=
  match live? history id with
  | some d => .ok d
  | none => .error (.notFound id)

section History

variable {history : List Exchange} {e : Exchange} {id : String}

theorem stamps_append (history : List Exchange) (e : Exchange) :
    stamps (history ++ [e]) = stamps history ++ (made? e).toList := by
  unfold stamps
  rw [List.filterMap_append]
  cases h : made? e with
  | none => simp [h]
  | some stamp => simp [h]

theorem live?_append (history : List Exchange) (e : Exchange) (id : String) :
    live? (history ++ [e]) id = (put? id e).getD (live? history id) := by
  unfold live?
  rw [List.reverse_append]
  show (List.findSome? _ (e :: history.reverse)).join = _
  rw [List.findSome?_cons]
  cases put? id e with
  | none => rfl
  | some left => rfl

theorem newId?_of_made {c : Call} {a : Answer} {stamp : Stamp} (h : made? (c, a) = some stamp) :
    c.newId? = some stamp.id := by
  unfold made? at h
  split at h
  · next heq =>
      obtain ⟨rfl, -⟩ := Prod.mk.inj heq
      cases h
      rfl
  · cases h

/-- What is live was put there at some time. -/
theorem exists_put_of_live {d : Definition} (h : live? history id = some d) :
    ∃ e ∈ history, put? id e = some (some d) := by
  obtain ⟨e, he, hput⟩ := List.exists_of_findSome?_eq_some (Option.join_eq_some_iff.1 h)
  exact ⟨e, List.mem_reverse.1 he, hput⟩

/-- An exchange that touches none of some ids leaves their records. -/
theorem filterMap_live_append {l : List Stamp} (h : ∀ stamp ∈ l, put? stamp.id e = none) :
    (l.filterMap fun stamp => live? (history ++ [e]) stamp.id) =
      l.filterMap fun stamp => live? history stamp.id := by
  apply List.filterMap_congr
  intro stamp hstamp
  rw [live?_append, h stamp hstamp]
  rfl

theorem filterMap_live_cons {stamp : Stamp} {left : Option Definition}
    (h : live? history stamp.id = left) (l : List Stamp) :
    ((stamp :: l).filterMap fun stamp => live? history stamp.id) =
      left.toList ++ l.filterMap fun stamp => live? history stamp.id := by
  rw [List.filterMap_cons, h]
  cases left with
  | none => rfl
  | some d => rfl

end History

namespace Memory

variable {m m' : Memory} {c : Call} {a : Answer}

/-! ## Steps of an ordered map -/

/-- What a call does to records as an ordered map. -/
inductive Step (m : Memory) : Call → Answer → Memory → Prop where
  | created {stamp : Stamp} {body : Json} {d : Definition} (made : newRecord stamp body = .ok d) :
      Step m (.create stamp body) (.survey (.ok d)) (m ++ [d])
  | notCreated {stamp : Stamp} {body : Json} {fault : StoreFault}
      (refused : newRecord stamp body = .error fault) :
      Step m (.create stamp body) (.survey (.error fault)) m
  | found {id : String} {d : Definition} (there : d ∈ m) (bears : d.id = id) :
      Step m (.get id) (.survey (.ok d)) m
  | notFound {id : String} (absent : ∀ d ∈ m, d.id ≠ id) :
      Step m (.get id) (.survey (.error (.notFound id))) m
  | listed : Step m .list (.surveys (.ok m)) m
  | changed {id time : String} {patch : Json} {old d : Definition} {front back : Memory}
      (there : m = front ++ old :: back) (bears : old.id = id)
      (made : merged old time patch = .ok d) :
      Step m (.update id time patch) (.survey (.ok d)) (front ++ d :: back)
  | notChanged {id time : String} {patch : Json} {old : Definition} {fault : StoreFault}
      (there : old ∈ m) (bears : old.id = id) (refused : merged old time patch = .error fault) :
      Step m (.update id time patch) (.survey (.error fault)) m
  | nothingToChange {id time : String} {patch : Json} (absent : ∀ d ∈ m, d.id ≠ id) :
      Step m (.update id time patch) (.survey (.error (.notFound id))) m
  | dropped {id : String} {old : Definition} {front back : Memory}
      (there : m = front ++ old :: back) (bears : old.id = id) :
      Step m (.delete id) (.deleted (.ok ())) (front ++ back)
  | nothingToDrop {id : String} (absent : ∀ d ∈ m, d.id ≠ id) :
      Step m (.delete id) (.deleted (.error (.notFound id))) m

/-- A call that fails changes nothing. -/
theorem Step.eq_of_fault (h : m.Step c a m') {fault : StoreFault} (hf : fault ∈ a.fault?) :
    m' = m := by
  cases h with
  | created made => cases hf
  | changed there bears made => cases hf
  | dropped there bears => cases hf
  | _ => rfl

/-- An id is looked up where its record stands first, or in vain. -/
theorem get_cases (m : Memory) (id : String) :
    (∃ front d back, m = front ++ d :: back ∧ (∀ d' ∈ front, d'.id ≠ id) ∧ d.id = id ∧
        m.get id = .ok d) ∨
      ((∀ d ∈ m, d.id ≠ id) ∧ m.get id = .error (.notFound id)) := by
  cases hfind : List.find? (fun d : Definition => decide (d.id = id)) m with
  | some d =>
      obtain ⟨hd, front, back, rfl, hfront⟩ := List.find?_eq_some_iff_append.1 hfind
      exact .inl ⟨front, d, back, rfl, fun d' hd' => by simpa using hfront d' hd',
        by simpa using hd, get_eq_ok.2 hfind⟩
  | none =>
      refine .inr ⟨fun d hd => by simpa using List.find?_eq_none.1 hfind d hd, ?_⟩
      unfold get find?
      rw [hfind]

/-- The first record of an id is replaced where it stands. -/
theorem replace_append {front back : Memory} {old : Definition} {id : String}
    (hfront : ∀ d ∈ front, d.id ≠ id) (hold : old.id = id) (record : Definition) :
    replace id record (front ++ old :: back) = front ++ record :: back := by
  induction front with
  | nil => exact if_pos hold
  | cons d front ih =>
      have hrest := ih fun d' hd' => hfront d' (List.mem_cons_of_mem d hd')
      show (if d.id = id then _ else _) = _
      rw [if_neg (hfront d List.mem_cons_self)]
      exact congrArg (d :: ·) hrest

/-- With different ids, the record of an id is dropped and no other. -/
theorem delete_append {front back : Memory} {old : Definition} {id : String}
    (hids : ((front ++ old :: back).map Definition.id).Nodup) (hfront : ∀ d ∈ front, d.id ≠ id)
    (hold : old.id = id) : delete (front ++ old :: back) id = (.ok (), front ++ back) := by
  -- the ids are different, so none behind the record bears its id
  have hback : ∀ d ∈ back, d.id ≠ id := by
    intro d hd heq
    rw [List.map_append, List.map_cons] at hids
    have htail := (List.nodup_cons.1 (List.nodup_append.1 hids).2.1).1
    exact htail (hold.trans heq.symm ▸ List.mem_map_of_mem hd)
  have hkept : List.filter (fun d : Definition => decide (d.id ≠ id)) (front ++ old :: back) =
      front ++ back := by
    rw [List.filter_append, List.filter_cons_of_neg (by simp [hold]),
      List.filter_eq_self.2 fun d hd => decide_eq_true (hfront d hd),
      List.filter_eq_self.2 fun d hd => decide_eq_true (hback d hd)]
  have hlength : (front ++ back).length ≠ (front ++ old :: back).length := by simp
  unfold delete
  simp only [hkept, if_neg hlength]

/-- Nothing is dropped under an id that no record bears. -/
theorem delete_of_absent {id : String} (habsent : ∀ d ∈ m, d.id ≠ id) :
    m.delete id = (.error (.notFound id), m) := by
  have hkept : List.filter (fun d : Definition => decide (d.id ≠ id)) m = m :=
    List.filter_eq_self.2 fun d hd => decide_eq_true (habsent d hd)
  unfold delete
  simp only [hkept, if_true]

/-- **Every call is a step of an ordered map,** as long as the ids are different. -/
theorem step_run (hids : (m.map Definition.id).Nodup) (c : Call) :
    ∃ a m', c.run (.memory m) = (a, .memory m') ∧ m.Step c a m' := by
  cases c with
  | create stamp body =>
      refine ⟨.survey (m.create stamp body).1, (m.create stamp body).2, rfl, ?_⟩
      unfold create
      cases hd : newRecord stamp body with
      | error fault => exact .notCreated hd
      | ok d => exact .created hd
  | get id =>
      refine ⟨.survey (m.get id), m, rfl, ?_⟩
      rcases m.get_cases id with ⟨front, d, back, rfl, -, hd, hget⟩ | ⟨habsent, hget⟩
      · rw [hget]
        exact .found (List.mem_append_right front List.mem_cons_self) hd
      · rw [hget]
        exact .notFound habsent
  | list => exact ⟨.surveys (.ok m), m, rfl, .listed⟩
  | update id time patch =>
      refine ⟨.survey (m.update id time patch).1, (m.update id time patch).2, rfl, ?_⟩
      unfold update
      rcases m.get_cases id with ⟨front, d, back, rfl, hfront, hd, hget⟩ | ⟨habsent, hget⟩
      · rw [hget]
        simp only
        cases hrecord : merged d time patch with
        | error fault =>
            exact .notChanged (List.mem_append_right front List.mem_cons_self) hd hrecord
        | ok record =>
            simp only [replace_append hfront hd]
            exact .changed rfl hd hrecord
      · rw [hget]
        exact .nothingToChange habsent
  | delete id =>
      refine ⟨.deleted (m.delete id).1, (m.delete id).2, rfl, ?_⟩
      rcases m.get_cases id with ⟨front, d, back, rfl, hfront, hd, -⟩ | ⟨habsent, -⟩
      · rw [delete_append hids hfront hd]
        exact .dropped rfl hd
      · rw [delete_of_absent habsent]
        exact .nothingToDrop habsent

/-! ## Records as their history tells them -/

/-- The records are what a history says of them. -/
structure Told (history : List Exchange) (m : Memory) : Prop where
  /-- Each record was created under an id of its own. -/
  stamps : ((stamps history).map Stamp.id).Nodup
  /-- The records are those that are live, in the order of their creation. -/
  records : m = (Store.stamps history).filterMap fun stamp => live? history stamp.id
  /-- Whatever was put under an id bears the id and the time of the creation there. -/
  bears : ∀ e ∈ history, ∀ id d, put? id e = some (some d) →
    ∃ stamp ∈ Store.stamps history, stamp.id = id ∧ d.id = id ∧ d.createdAt = some stamp.time
  orderly : m.Orderly

theorem told_nil : Told [] [] where
  stamps := List.nodup_nil
  records := rfl
  bears := fun _ h => absurd h List.not_mem_nil
  orderly := fun _ h => absurd h List.not_mem_nil

namespace Told

variable {history : List Exchange} (h : m.Told history)
include h

/-- What is live bears the id and the time of its creation. -/
theorem live {id : String} {d : Definition} (hlive : live? history id = some d) :
    ∃ stamp ∈ Store.stamps history, stamp.id = id ∧ d.id = id ∧ d.createdAt = some stamp.time := by
  obtain ⟨e, he, hput⟩ := exists_put_of_live hlive
  exact h.bears e he id d hput

/-- A record is there exactly when it is live under its id. -/
theorem mem_iff {d : Definition} : d ∈ m ↔ live? history d.id = some d := by
  constructor
  · intro hd
    rw [h.records] at hd
    obtain ⟨stamp, -, hlive⟩ := List.mem_filterMap.1 hd
    obtain ⟨-, -, -, hid, -⟩ := h.live hlive
    rw [hid]
    exact hlive
  · intro hlive
    obtain ⟨stamp, hstamp, hid, -⟩ := h.live hlive
    rw [h.records]
    exact List.mem_filterMap.2 ⟨stamp, hstamp, hid ▸ hlive⟩

/-- **No two records bear one id.** -/
theorem ids : (m.map Definition.id).Nodup := by
  refine h.stamps.sublist ?_
  rw [h.records, List.map_filterMap, ← List.filterMap_eq_map]
  -- each live record bears the id of its stamp, so its id stands where the stamp's does
  have hids : ∀ stamp ∈ Store.stamps history, ∀ id,
      ((live? history stamp.id).map Definition.id) = some id → id = stamp.id := by
    intro stamp _ id hid
    obtain ⟨d, hlive, rfl⟩ := Option.map_eq_some_iff.1 hid
    obtain ⟨-, -, -, hd, -⟩ := h.live hlive
    exact hd
  generalize Store.stamps history = l at hids
  induction l with
  | nil => exact List.Sublist.slnil
  | cons stamp l ih =>
      have hrest := ih fun s hs => hids s (List.mem_cons_of_mem stamp hs)
      rw [List.filterMap_cons, List.filterMap_cons]
      cases hid : (live? history stamp.id).map Definition.id with
      | none => exact hrest.cons _
      | some id =>
          rw [hids stamp List.mem_cons_self id hid]
          exact hrest.cons_cons _

/-- **An id is looked up as the history says.** -/
theorem get (id : String) : m.get id = Store.found history id := by
  unfold Store.found
  rcases m.get_cases id with ⟨front, d, back, e, -, rfl, hget⟩ | ⟨habsent, hget⟩
  · have hd : d ∈ m := by
      rw [e]
      exact List.mem_append_right front List.mem_cons_self
    rw [hget, h.mem_iff.1 hd]
  · cases hlive : live? history id with
    | none => exact hget
    | some d =>
        obtain ⟨-, -, -, rfl, -⟩ := h.live hlive
        exact absurd rfl (habsent d (h.mem_iff.2 hlive))

/-- A record stands where its stamp does. -/
theorem split {front back : Memory} {old : Definition} (hm : m = front ++ old :: back) :
    ∃ before stamp behind, Store.stamps history = before ++ stamp :: behind ∧
      stamp.id = old.id ∧ old.createdAt = some stamp.time ∧
      (before.filterMap fun stamp => live? history stamp.id) = front ∧
      (behind.filterMap fun stamp => live? history stamp.id) = back := by
  obtain ⟨first, rest, hsplit, hfront, hrest⟩ :=
    List.filterMap_eq_append_iff.1 (h.records.symm.trans hm)
  obtain ⟨gone, stamp, behind, rfl, hgone, hlive, hback⟩ := List.filterMap_eq_cons_iff.1 hrest
  obtain ⟨stamp', hstamp', hid', hid, hcreated⟩ := h.live hlive
  have hstamp : stamp ∈ Store.stamps history := by
    rw [hsplit]
    exact List.mem_append_right first (List.mem_append_right gone List.mem_cons_self)
  obtain rfl : stamp' = stamp := List.inj_on_of_nodup_map h.stamps hstamp' hstamp hid'
  refine ⟨first ++ gone, stamp', behind, ?_, hid.symm, hcreated, ?_, hback⟩
  · rw [hsplit, List.append_assoc]
  · rw [List.filterMap_append, hfront, List.filterMap_eq_nil_iff.2 hgone, List.append_nil]

/-! ### One more exchange -/

/-- An exchange that touches nothing changes nothing. -/
theorem untouched {e : Exchange} (hmade : made? e = none) (hput : ∀ id, put? id e = none) :
    m.Told (history ++ [e]) := by
  have hstamps : Store.stamps (history ++ [e]) = Store.stamps history := by
    rw [stamps_append, hmade]
    exact List.append_nil _
  refine ⟨hstamps ▸ h.stamps, ?_, ?_, h.orderly⟩
  · rw [hstamps, filterMap_live_append fun stamp _ => hput stamp.id]
    exact h.records
  · intro e' he' id d hd
    rcases List.mem_append.1 he' with hold | hlast
    · rw [hstamps]
      exact h.bears e' hold id d hd
    · rw [List.mem_singleton.1 hlast, hput id] at hd
      cases hd

/-- A record that is created under a fresh id comes behind the others. -/
theorem created {stamp : Stamp} {body : Json} {d : Definition}
    (hmade : newRecord stamp body = .ok d) (hbody : Ordered body)
    (hfresh : stamp.id ∉ (Store.stamps history).map Stamp.id) :
    Told (history ++ [(.create stamp body, .survey (.ok d))]) (m ++ [d]) := by
  obtain ⟨hid, hcreated, -⟩ := newRecord_identity hmade hbody
  have hother : ∀ s ∈ Store.stamps history,
      put? s.id (.create stamp body, .survey (.ok d)) = none := by
    intro s hs
    refine if_neg ?_
    intro heq
    exact hfresh (heq ▸ List.mem_map_of_mem hs)
  refine ⟨?_, ?_, ?_, ?_⟩
  · rw [stamps_append]
    show ((Store.stamps history ++ [stamp]).map Stamp.id).Nodup
    rw [List.map_append, List.map_singleton]
    refine List.nodup_append.2 ⟨h.stamps, List.pairwise_singleton _ _, ?_⟩
    intro id hmem id' hid' heq
    rw [List.mem_singleton.1 hid'] at heq
    exact hfresh (heq ▸ hmem)
  · rw [stamps_append, List.filterMap_append, filterMap_live_append hother, ← h.records]
    have hlive : live? (history ++ [(.create stamp body, .survey (.ok d))]) stamp.id = some d := by
      rw [live?_append]
      show (if stamp.id = stamp.id then _ else _ : Option (Option Definition)).getD _ = _
      rw [if_pos rfl]
      rfl
    exact congrArg (m ++ ·) (filterMap_live_cons hlive []).symm
  · intro e he id d' hd'
    rw [stamps_append]
    rcases List.mem_append.1 he with hold | hlast
    · obtain ⟨s, hs, hrest⟩ := h.bears e hold id d' hd'
      exact ⟨s, List.mem_append_left _ hs, hrest⟩
    · rw [List.mem_singleton.1 hlast] at hd'
      obtain ⟨rfl, e'⟩ := Option.ite_none_right_eq_some.1 hd'
      obtain rfl := Option.some.inj (Option.some.inj e')
      exact ⟨stamp, List.mem_append_right _ List.mem_cons_self, rfl, hid, hcreated⟩
  · intro d' hd'
    rcases List.mem_append.1 hd' with hold | hlast
    · exact h.orderly d' hold
    · rw [List.mem_singleton.1 hlast]
      exact newRecord_orderly hmade hbody

/-- What is put under the id of a record, or nothing, takes the place of the record. -/
theorem put {e : Exchange} {front back : Memory} {old : Definition} {left : Option Definition}
    (hm : m = front ++ old :: back) (hmade : made? e = none) (hput : put? old.id e = some left)
    (hother : ∀ id, id ≠ old.id → put? id e = none)
    (hleft : ∀ d ∈ left, d.id = old.id ∧ d.createdAt = old.createdAt ∧ d.Orderly) :
    Told (history ++ [e]) (front ++ left.toList ++ back) := by
  have hstamps : Store.stamps (history ++ [e]) = Store.stamps history := by
    rw [stamps_append, hmade]
    exact List.append_nil _
  obtain ⟨before, stamp, behind, hsplit, hid, hcreated, hfront, hback⟩ := h.split hm
  -- the ids are different, so the records around it are not touched
  have hids := h.stamps
  rw [hsplit, List.map_append, List.map_cons] at hids
  obtain ⟨-, htail, hapart⟩ := List.nodup_append.1 hids
  have hbefore : ∀ s ∈ before, put? s.id e = none := by
    intro s hs
    refine hother s.id ?_
    rw [← hid]
    exact hapart s.id (List.mem_map_of_mem hs) stamp.id List.mem_cons_self
  have hbehind : ∀ s ∈ behind, put? s.id e = none := by
    intro s hs
    refine hother s.id ?_
    rw [← hid]
    intro heq
    exact (List.nodup_cons.1 htail).1 (heq ▸ List.mem_map_of_mem hs)
  refine ⟨hstamps ▸ h.stamps, ?_, ?_, ?_⟩
  · have hlive : live? (history ++ [e]) stamp.id = left := by
      rw [live?_append, hid, hput]
      rfl
    rw [hstamps, hsplit, List.filterMap_append, filterMap_live_cons hlive,
      filterMap_live_append hbefore, filterMap_live_append hbehind, hfront, hback,
      List.append_assoc]
  · intro e' he' id d hd
    rw [hstamps]
    rcases List.mem_append.1 he' with hold | hlast
    · exact h.bears e' hold id d hd
    · rw [List.mem_singleton.1 hlast] at hd
      by_cases heq : id = old.id
      · subst heq
        obtain rfl := Option.some.inj (hput.symm.trans hd)
        obtain ⟨hbears, htime, -⟩ := hleft d rfl
        refine ⟨stamp, ?_, hid, hbears, htime.trans hcreated⟩
        rw [hsplit]
        exact List.mem_append_right before List.mem_cons_self
      · rw [hother id heq] at hd
        cases hd
  · intro d hd
    rcases List.mem_append.1 hd with hd | hd
    · rcases List.mem_append.1 hd with hd | hd
      · exact h.orderly d (hm ▸ List.mem_append_left _ hd)
      · exact (hleft d (Option.mem_toList.1 hd)).2.2
    · exact h.orderly d (hm ▸ List.mem_append_right front (List.mem_cons_of_mem old hd))

/-- **One step keeps the records told.** -/
theorem step (hs : m.Step c a m') (hbody : ∀ v ∈ c.body?, Ordered v)
    (hfresh : ∀ id ∈ c.newId?, id ∉ (Store.stamps history).map Stamp.id) :
    m'.Told (history ++ [(c, a)]) := by
  cases hs with
  | created made => exact h.created made (hbody _ rfl) (hfresh _ rfl)
  | @changed id time patch old d front back there bears made =>
      subst bears
      have hold : old ∈ m := by
        rw [there]
        exact List.mem_append_right front List.mem_cons_self
      obtain ⟨hid, htime⟩ := merged_identity made (h.orderly old hold)
      obtain ⟨stamp, -, -, -, hcreated⟩ := h.live (h.mem_iff.1 hold)
      have hput : put? old.id (.update old.id time patch, .survey (.ok d)) = some (some d) :=
        if_pos rfl
      have htold := h.put there rfl hput fun id hne => if_neg (Ne.symm hne)
      rw [List.append_assoc] at htold
      refine htold ?_
      rintro d' ⟨⟩
      exact ⟨hid, (htime _ hcreated).trans hcreated.symm, merged_orderly made⟩
  | @dropped id old front back there bears =>
      subst bears
      have hput : put? old.id (.delete old.id, .deleted (.ok ())) = some none := if_pos rfl
      have htold := h.put there rfl hput fun id hne => if_neg (Ne.symm hne)
      rw [Option.toList_none, List.append_nil] at htold
      refine htold ?_
      rintro d ⟨⟩
  | notCreated refused => exact h.untouched rfl fun _ => rfl
  | found there bears => exact h.untouched rfl fun _ => rfl
  | notFound absent => exact h.untouched rfl fun _ => rfl
  | listed => exact h.untouched rfl fun _ => rfl
  | notChanged there bears refused => exact h.untouched rfl fun _ => rfl
  | nothingToChange absent => exact h.untouched rfl fun _ => rfl
  | nothingToDrop absent => exact h.untouched rfl fun _ => rfl

end Told

end Memory

/-! ## Every run -/

/-- A repository after some calls, and the history of what they answered. -/
structure Trace where
  repository : Repository
  history : List Exchange

/-- One more call. -/
def Trace.call (t : Trace) (c : Call) : Trace :=
  ⟨(c.run t.repository).2, t.history ++ [(c, (c.run t.repository).1)]⟩

/-- The calls one after the other. -/
def Trace.of (r : Repository) (calls : List Call) : Trace := calls.foldl Trace.call ⟨r, []⟩

namespace Trace

theorem of_append (r : Repository) (calls : List Call) (c : Call) :
    of r (calls ++ [c]) = (of r calls).call c := by
  unfold of
  rw [List.foldl_append]
  rfl

/-- What was created bears an id that a call brought. -/
theorem mem_newIds {r : Repository} {calls : List Call} {id : String}
    (h : id ∈ (stamps (of r calls).history).map Stamp.id) : id ∈ calls.filterMap Call.newId? := by
  induction calls using List.reverseRecOn with
  | nil => cases h
  | append_singleton calls c ih =>
      rw [of_append] at h
      simp only [call, stamps_append, List.map_append, List.mem_append] at h
      rw [List.filterMap_append]
      rcases h with hold | hlast
      · exact List.mem_append_left _ (ih hold)
      · obtain ⟨stamp, hstamp, rfl⟩ := List.mem_map.1 hlast
        have hid := newId?_of_made (Option.mem_toList.1 hstamp)
        exact List.mem_append_right _ (List.mem_filterMap.2 ⟨c, List.mem_cons_self, hid⟩)

/-- **In memory the history of a run tells the records,** when the ids of what is created are
fresh. -/
theorem told {calls : List Call} (hbodies : ∀ c ∈ calls, ∀ v ∈ c.body?, Ordered v)
    (hfresh : (calls.filterMap Call.newId?).Nodup) :
    ∃ m, (of (.memory []) calls).repository = .memory m ∧
      m.Told (of (.memory []) calls).history := by
  -- the last call is a step from where the calls before it led
  induction calls using List.reverseRecOn with
  | nil => exact ⟨[], rfl, Memory.told_nil⟩
  | append_singleton calls c ih =>
      rw [List.filterMap_append] at hfresh
      obtain ⟨hcalls, -, hapart⟩ := List.nodup_append.1 hfresh
      obtain ⟨m, hm, htold⟩ := ih (fun c hc => hbodies c (List.mem_append_left _ hc)) hcalls
      obtain ⟨a, m', hrun, hstep⟩ := Memory.step_run htold.ids c
      rw [of_append, call, hm, hrun]
      refine ⟨m', rfl, htold.step hstep ?_ ?_⟩
      · exact hbodies c (List.mem_append_right _ List.mem_cons_self)
      · intro id hid hmem
        refine hapart id (mem_newIds hmem) id ?_ rfl
        exact List.mem_filterMap.2 ⟨c, List.mem_cons_self, hid⟩

end Trace

/-- Behind a history a call finds and leaves an ordered map from ids to records. -/
structure Memory.Carried (history : List Exchange) (m : Memory) (c : Call) (a : Answer)
    (m' : Memory) : Prop where
  run : c.run (.memory m) = (a, .memory m')
  step : m.Step c a m'
  /-- A call that fails leaves everything as it was. -/
  kept : ∀ fault ∈ a.fault?, m' = m
  told : m.Told history
  told' : m'.Told (history ++ [(c, a)])
  ids : (m.map Definition.id).Nodup
  ids' : (m'.map Definition.id).Nodup
  /-- An id is answered with what was put there last, -/
  get : ∀ id, (Call.get id).run (.memory m) = (.survey (found history id), .memory m)
  /-- and all records are answered in the order of their creation. -/
  list : Call.list.run (.memory m) =
    (.surveys (.ok ((stamps history).filterMap fun stamp => live? history stamp.id)), .memory m)

/-- **The repository in memory is an ordered map.** Behind any calls the next call is a step of an
ordered map from ids to records, whatever the bodies and patches say of ids and times. -/
theorem memory_ordered_map {calls : List Call} {c : Call}
    (hbodies : ∀ c' ∈ calls ++ [c], ∀ v ∈ c'.body?, Ordered v)
    (hfresh : ((calls ++ [c]).filterMap Call.newId?).Nodup) :
    ∃ m a m', (Trace.of (.memory []) calls).repository = .memory m ∧
      Memory.Carried (Trace.of (.memory []) calls).history m c a m' := by
  obtain ⟨m', hm', htold'⟩ := Trace.told hbodies hfresh
  rw [List.filterMap_append] at hfresh
  obtain ⟨m, hm, htold⟩ := Trace.told (fun c' hc' => hbodies c' (List.mem_append_left _ hc'))
    (List.nodup_append.1 hfresh).1
  obtain ⟨a, m'', hrun, hstep⟩ := Memory.step_run htold.ids c
  rw [Trace.of_append, Trace.call, hm, hrun] at hm' htold'
  obtain rfl : m'' = m' := Repository.memory.inj hm'
  refine ⟨m, a, m'', hm, ?_⟩
  refine ⟨hrun, hstep, fun _ hf => hstep.eq_of_fault hf, htold, htold', htold.ids, htold'.ids,
    ?_, ?_⟩
  · intro id
    exact congrArg (fun result => (Answer.survey result, Repository.memory m)) (htold.get id)
  · rw [← htold.records]
    rfl

/-- Two records are created; the first is changed by a patch that brings an id and a time of its
own, and the second is dropped. -/
theorem memory_ordered_map_two_records :
    let foreign : Json := .obj [("createdAt", .str "1970-01-01"), ("id", .str "b")]
    let calls : List Call := [.create ⟨"a", "2024-01-01"⟩ foreign,
      .create ⟨"b", "2024-01-02"⟩ (.obj []), .update "a" "2024-01-03" foreign]
    let c : Call := .delete "b"
    let history := (Trace.of (.memory []) calls).history
    (∀ c' ∈ calls ++ [c], ∀ v ∈ c'.body?, Ordered v) ∧
      ((calls ++ [c]).filterMap Call.newId?).Nodup ∧
      (live? history "a").map (fun d => (d.id, d.createdAt)) = some ("a", some "2024-01-01") ∧
      ∃ m a m', (Trace.of (.memory []) calls).repository = .memory m ∧
        Memory.Carried history m c a m' := by
  intro foreign calls c history
  have hforeign : Ordered foreign := Json.sortKeys_ordered foreign
  have hempty : Ordered (.obj []) := Json.sortKeys_ordered (.obj [])
  have hbodies : ∀ c' ∈ calls ++ [c], ∀ v ∈ c'.body?, Ordered v := by
    intro c' hc' v hv
    simp only [calls, c, List.cons_append, List.nil_append, List.mem_cons, List.not_mem_nil,
      or_false] at hc'
    rcases hc' with rfl | rfl | rfl | rfl
    · cases hv
      exact hforeign
    · cases hv
      exact hempty
    · cases hv
      exact hforeign
    · cases hv
  have hfresh : ((calls ++ [c]).filterMap Call.newId?).Nodup := by decide
  exact ⟨hbodies, hfresh, by decide +kernel, memory_ordered_map hbodies hfresh⟩

end VideoSurvey.Store
