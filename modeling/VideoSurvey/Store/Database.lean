import VideoSurvey.Store.Record

/-!
# Records in a database

A table keeps one row for each record: its id, its document as text, and its times. Rows stand in
the order of their insertion. A `Statement` is one atomic step on the table, and a `Script` is an
operation as a sequence of statements, each chosen by the outcomes of those before it; so what two
programs do to one table can be told statement by statement. `Script.run` carries a script out
without interruption.
-/

set_option autoImplicit false

namespace VideoSurvey.Store

open Survey (Definition)

/-- One row of the table. -/
structure Row where
  id : String
  document : String
  createdAt : String
  updatedAt : Option String
deriving DecidableEq, Repr

/-- The rows in the order of their insertion. -/
abbrev Table := List Row

/-- One atomic step on the table. -/
inductive Statement where
  | insert (id document : String) (createdAt : Option String)
  | documentOf (id : String)
  | allDocuments
  | replace (id document : String) (updatedAt : Option String)
  | delete (id : String)
deriving DecidableEq, Repr

/-- What a statement answers. -/
inductive Outcome where
  | documents (found : List String)
  | changed (rows : Nat)
  | refused (constraint : Constraint)
deriving DecidableEq, Repr

/-- Carries out a statement. -/
def Statement.run (table : Table) : Statement → Outcome × Table
  | .insert id document createdAt =>
      match createdAt with
      | none => (.refused .creationTime, table)
      | some time =>
          if table.any fun row => row.id = id then (.refused .uniqueId, table)
          else (.changed 1, table ++ [⟨id, document, time, none⟩])
  | .documentOf id => (.documents ((table.filter fun row => row.id = id).map Row.document), table)
  | .allDocuments => (.documents (table.map Row.document), table)
  | .replace id document updatedAt =>
      (.changed (table.countP fun row => row.id = id),
        table.map fun row => if row.id = id then { row with document, updatedAt } else row)
  | .delete id =>
      (.changed (table.countP fun row => row.id = id), table.filter fun row => row.id ≠ id)

/-- An operation as a sequence of statements. -/
inductive Script (α : Type) where
  | done (result : α)
  | step (statement : Statement) (next : Outcome → Script α)

/-- Carries out a script. -/
def Script.run {α : Type} (table : Table) : Script α → α × Table
  | .done result => (result, table)
  | .step statement next =>
      let (outcome, table) := statement.run table
      (next outcome).run table

/-- The definition in a stored document. -/
def storedDefinition (document : String) : Except StoreFault Definition :=
  match Definition.decoder.ofText document with
  | .ok d => .ok d
  | .error error => .error (.unreadable error)

/-- The record among the documents found for an id. -/
def loaded (id : String) : Outcome → Except StoreFault Definition
  | .documents (document :: _) => storedDefinition document
  | _ => .error (.notFound id)

/-- The documents found. -/
def Outcome.texts : Outcome → List String
  | .documents found => found
  | _ => []

/-- The number of rows changed. -/
def Outcome.count : Outcome → Nat
  | .changed rows => rows
  | _ => 0

namespace Table

/-- Inserts the record of a draft. -/
def create (stamp : Stamp) (draft : Json) : Script (Except StoreFault Definition) :=
  match newRecord stamp draft with
  | .error fault => .done (.error fault)
  | .ok record =>
      .step (.insert record.id record.text record.createdAt) fun
        | .refused constraint => .done (.error (.refused constraint))
        | _ => .done (.ok record)

/-- The record with an id. -/
def get (id : String) : Script (Except StoreFault Definition) :=
  .step (.documentOf id) fun outcome => .done (loaded id outcome)

/-- All records. -/
def list : Script (Except StoreFault (List Definition)) :=
  .step .allDocuments fun outcome => .done (outcome.texts.mapM storedDefinition)

/-- Changes the record with an id by a patch. -/
def update (id time : String) (patch : Json) : Script (Except StoreFault Definition) :=
  .step (.documentOf id) fun outcome =>
    match loaded id outcome with
    | .error fault => .done (.error fault)
    | .ok existing =>
        match merged existing time patch with
        | .error fault => .done (.error fault)
        | .ok record =>
            .step (.replace id record.text record.updatedAt) fun _ => .done (.ok record)

/-- Drops the record with an id. -/
def delete (id : String) : Script (Except StoreFault Unit) :=
  .step (.delete id) fun outcome =>
    .done (if outcome.count = 0 then .error (.notFound id) else .ok ())

end Table

end VideoSurvey.Store
