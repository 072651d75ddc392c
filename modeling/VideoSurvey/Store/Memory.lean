import VideoSurvey.Store.Record

/-!
# Records in memory

The records of a store that lives as long as the program, in the order of their creation.
-/

set_option autoImplicit false

namespace VideoSurvey.Store

open Survey (Definition)

/-- The records in the order of their creation. -/
abbrev Memory := List Definition

namespace Memory

/-- The record with an id. -/
def find? (m : Memory) (id : String) : Option Definition := List.find? (fun d => d.id = id) m

/-- The records with the first record of an id replaced. -/
def replace (id : String) (record : Definition) : Memory → Memory
  | [] => []
  | d :: r => if d.id = id then record :: r else d :: replace id record r

/-- Adds the record of a draft at the end. -/
def create (m : Memory) (stamp : Stamp) (draft : Json) : Except StoreFault Definition × Memory :=
  match newRecord stamp draft with
  | .ok record => (.ok record, m ++ [record])
  | .error fault => (.error fault, m)

/-- The record with an id. -/
def get (m : Memory) (id : String) : Except StoreFault Definition :=
  match m.find? id with
  | some record => .ok record
  | none => .error (.notFound id)

/-- Changes the record with an id by a patch. -/
def update (m : Memory) (id time : String) (patch : Json) :
    Except StoreFault Definition × Memory :=
  match m.get id with
  | .error fault => (.error fault, m)
  | .ok existing =>
      match merged existing time patch with
      | .ok record => (.ok record, m.replace id record)
      | .error fault => (.error fault, m)

/-- Drops the record with an id. -/
def delete (m : Memory) (id : String) : Except StoreFault Unit × Memory :=
  let kept := List.filter (fun d => d.id ≠ id) m
  if kept.length = m.length then (.error (.notFound id), m) else (.ok (), kept)

end Memory

end VideoSurvey.Store
