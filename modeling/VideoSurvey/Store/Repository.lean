import VideoSurvey.Store.Database
import VideoSurvey.Store.Memory

/-!
# Repositories

A repository keeps records in memory or in a database. Ids and times come from outside, so an
operation is a function of the repository and its arguments.
-/

set_option autoImplicit false

namespace VideoSurvey.Store

open Survey (Definition)

/-- Where records are kept. -/
inductive Repository where
  | memory (records : Memory)
  | database (table : Table)
deriving Repr

/-- Carries out a script, and keeps the table. -/
def Script.onTable {α : Type} (script : Script α) (table : Table) : α × Repository :=
  let (result, table) := script.run table
  (result, .database table)

namespace Repository

/-- Adds the record of a draft. -/
def create (r : Repository) (stamp : Stamp) (draft : Json) :
    Except StoreFault Definition × Repository :=
  match r with
  | .memory m =>
      let (result, m) := m.create stamp draft
      (result, .memory m)
  | .database table => (Table.create stamp draft).onTable table

/-- The record with an id. -/
def get (r : Repository) (id : String) : Except StoreFault Definition × Repository :=
  match r with
  | .memory m => (m.get id, r)
  | .database table => (Table.get id).onTable table

/-- All records in the order of their creation. -/
def list (r : Repository) : Except StoreFault (List Definition) × Repository :=
  match r with
  | .memory m => (.ok m, r)
  | .database table => Table.list.onTable table

/-- Changes the record with an id by a patch. -/
def update (r : Repository) (id time : String) (patch : Json) :
    Except StoreFault Definition × Repository :=
  match r with
  | .memory m =>
      let (result, m) := m.update id time patch
      (result, .memory m)
  | .database table => (Table.update id time patch).onTable table

/-- Drops the record with an id. -/
def delete (r : Repository) (id : String) : Except StoreFault Unit × Repository :=
  match r with
  | .memory m =>
      let (result, m) := m.delete id
      (result, .memory m)
  | .database table => (Table.delete id).onTable table

end Repository

end VideoSurvey.Store
