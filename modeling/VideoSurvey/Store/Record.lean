import VideoSurvey.Store.Location
import VideoSurvey.Survey.Codec

/-!
# Stored records

A record is a definition that the store has given an id and a time of creation. `newRecord` makes
one out of a draft, whatever id and times the draft brings. `merged` lays the members of a patch
over those of a record; the id and the time of creation stay, and the time of the change is set.
-/

set_option autoImplicit false

namespace VideoSurvey.Store

open Survey (Definition)

/-- A fresh id and a reading of the clock. -/
structure Stamp where
  id : String
  time : String
deriving DecidableEq, Repr

/-- Why the table of a database refuses a row. -/
inductive Constraint where
  | uniqueId
  | creationTime
deriving DecidableEq, Repr

/-- Why an operation of a store fails. -/
inductive StoreFault where
  | notFound (id : String)
  | bodyNotAnObject
  | invalid (fault : Survey.Fault)
  | location (fault : LocationFault)
  | cannotOpen (path : String)
  | cannotOpenBeside
  | unreadableFile
  | notADatabase
  | readOnly
  | locked
  | lockingProtocol
  | refused (constraint : Constraint)
  | unreadable (error : Json.ReadError)
deriving Repr

/-- Wording of a constraint that is not met. -/
def Constraint.message : Constraint → String
  | .uniqueId => "UNIQUE constraint failed: surveys.id"
  | .creationTime => "NOT NULL constraint failed: surveys.created_at"

/-- Wording of a fault. -/
def StoreFault.message : StoreFault → String
  | .notFound _ => "Survey not found"
  | .bodyNotAnObject => "invalid survey document: survey body must be a JSON object"
  | .invalid fault => "invalid survey document: " ++ fault.message
  | .location fault => "database error: " ++ fault.message
  | .cannotOpen path => "database error: unable to open database file: " ++ path
  | .cannotOpenBeside => "database error: unable to open database file"
  | .unreadableFile => "database error: disk I/O error"
  | .notADatabase => "database error: file is not a database"
  | .readOnly => "database error: attempt to write a readonly database"
  | .locked => "database error: database is locked"
  | .lockingProtocol => "database error: locking protocol"
  | .refused constraint => "database error: " ++ constraint.message
  | .unreadable error => "serialization failed: " ++ error.message

/-- The definition that the members of an object describe. -/
def definitionOf (members : Json.Members) : Except StoreFault Definition :=
  match Definition.ofJson (.obj members) with
  | .ok d => .ok d
  | .error fault => .error (.invalid fault)

/-- The members of a draft with the id and time of a stamp. -/
def stamped (stamp : Stamp) (draft : Json.Members) : Json.Members :=
  ((draft.insert "id" (.str stamp.id)).insert "createdAt" (.str stamp.time)).erase "updatedAt"

/-- The record of a draft. -/
def newRecord (stamp : Stamp) : Json → Except StoreFault Definition
  | .obj draft => definitionOf (stamped stamp draft)
  | _ => .error .bodyNotAnObject

/-- Members that a patch does not change. -/
def isFixed (key : String) : Bool := key = "id" || key = "createdAt"

/-- Lays the members of a patch over others. -/
def overlaid (patch existing : Json.Members) : Json.Members :=
  patch.foldl (fun found m => if isFixed m.1 then found else found.insert m.1 m.2) existing

/-- The record with the members of a patch, changed at a time. -/
def merged (existing : Definition) (time : String) : Json → Except StoreFault Definition
  | .obj patch =>
      let members := (existing.toSortedJson.members?).getD []
      definitionOf ((overlaid patch members).insert "updatedAt" (.str time))
  | _ => .error .bodyNotAnObject

end VideoSurvey.Store
