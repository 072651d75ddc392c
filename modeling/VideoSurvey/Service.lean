import VideoSurvey.Overlay.Bundle
import VideoSurvey.Store.Repository

/-!
# The survey service

Operations on a repository, and the compilation of stored surveys. Each operation answers with an
envelope: an object that tells whether it succeeded, with the result or with the text of the fault.
The bundle of a stored survey is compiled with the renderer and settings of the service.
-/

set_option autoImplicit false

namespace VideoSurvey

open Survey (Definition)
open Store (Repository Stamp StoreFault)
open Overlay (Bundle CompileFault)

/-- Why an operation of the service fails. -/
inductive ServiceFault where
  | store (fault : StoreFault)
  | compile (fault : CompileFault)
deriving Repr

/-- Wording of a fault. -/
def ServiceFault.message : ServiceFault → String
  | .store fault => fault.message
  | .compile fault => fault.message

/-- What an operation answers. -/
inductive Reply where
  | created (survey : Definition)
  | found (survey : Definition)
  | listed (surveys : List Definition)
  | deleted
  | generated (bundle : Bundle)
deriving Repr

/-- The result of an operation. -/
abbrev Replied := Except ServiceFault Reply

/-- A result as an envelope. -/
def envelope : Replied → Json
  | .ok (.created survey) =>
      .obj [("success", .bool true), ("survey", survey.toSortedJson), ("surveyId", .str survey.id)]
  | .ok (.found survey) => .obj [("success", .bool true), ("survey", survey.toSortedJson)]
  | .ok (.listed surveys) =>
      .obj [("success", .bool true), ("surveys", .arr (surveys.map Definition.toSortedJson))]
  | .ok .deleted => .obj [("success", .bool true)]
  | .ok (.generated bundle) => .obj [("code", .str bundle.html), ("success", .bool true)]
  | .error fault => .obj [("error", .str fault.message), ("success", .bool false)]

/-- The result of a store as a result of the service. -/
def replied {α : Type} (make : α → Reply) : Except StoreFault α → Replied
  | .ok a => .ok (make a)
  | .error fault => .error (.store fault)

/-- A repository with the settings and the renderer that its surveys are compiled with. -/
structure Service where
  repository : Repository
  settings : Settings
  render : Renderer

namespace Service

/-- The service with the repository that an operation has left. -/
def keeping {α : Type} (s : Service) (make : α → Reply)
    (result : Except StoreFault α × Repository) : Replied × Service :=
  (replied make result.1, { s with repository := result.2 })

/-- Adds a survey. -/
def create (s : Service) (stamp : Stamp) (body : Json) : Replied × Service :=
  s.keeping .created (s.repository.create stamp body)

/-- The survey with an id. -/
def get (s : Service) (id : String) : Replied × Service :=
  s.keeping .found (s.repository.get id)

/-- All surveys. -/
def list (s : Service) : Replied × Service := s.keeping .listed s.repository.list

/-- Changes the survey with an id. -/
def update (s : Service) (id time : String) (patch : Json) : Replied × Service :=
  s.keeping .found (s.repository.update id time patch)

/-- Drops the survey with an id. -/
def delete (s : Service) (id : String) : Replied × Service :=
  s.keeping (fun _ => .deleted) (s.repository.delete id)

/-- Compiles the survey with an id. -/
def generate (s : Service) (id : String) : Replied × Service :=
  let (found, repository) := s.repository.get id
  let result : Replied :=
    match found with
    | .error fault => .error (.store fault)
    | .ok d =>
        match Overlay.compile s.render d s.settings with
        | .ok bundle => .ok (.generated bundle)
        | .error fault => .error (.compile fault)
  (result, { s with repository })

end Service

end VideoSurvey
