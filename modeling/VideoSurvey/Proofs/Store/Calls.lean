import VideoSurvey.Store.Repository

/-!
# Calls of a repository

The operations of a repository as data, so that a run is a list of calls: `Call.run` carries one
out. A call leaves an id when it neither creates, changes nor drops a record under it.
-/

set_option autoImplicit false

namespace VideoSurvey.Store

open Survey (Definition)

/-- A call of a repository. -/
inductive Call where
  | create (stamp : Stamp) (body : Json)
  | get (id : String)
  | list
  | update (id time : String) (patch : Json)
  | delete (id : String)

/-- What a call answers. -/
inductive Answer where
  | survey (result : Except StoreFault Definition)
  | surveys (result : Except StoreFault (List Definition))
  | deleted (result : Except StoreFault Unit)

/-- Carries out a call. -/
def Call.run (r : Repository) : Call → Answer × Repository
  | .create stamp body => (.survey (r.create stamp body).1, (r.create stamp body).2)
  | .get id => (.survey (r.get id).1, (r.get id).2)
  | .list => (.surveys r.list.1, r.list.2)
  | .update id time patch => (.survey (r.update id time patch).1, (r.update id time patch).2)
  | .delete id => (.deleted (r.delete id).1, (r.delete id).2)

/-- The body or patch that a call brings. -/
def Call.body? : Call → Option Json
  | .create _ body => some body
  | .update _ _ patch => some patch
  | _ => none

/-- The id that a call brings for a new record. -/
def Call.newId? : Call → Option String
  | .create stamp _ => some stamp.id
  | _ => none

/-- The fault of an answer. -/
def Answer.fault? : Answer → Option StoreFault
  | .survey (.error fault) => some fault
  | .surveys (.error fault) => some fault
  | .deleted (.error fault) => some fault
  | _ => none

/-- A call changes nothing under an id. -/
def Call.Leaves (id : String) : Call → Prop
  | .create stamp _ => stamp.id ≠ id
  | .update other _ _ => other ≠ id
  | .delete other => other ≠ id
  | _ => True

end VideoSurvey.Store
