import VideoSurvey.Json.Fault

/-!
# What can be wrong with a survey

A document may not describe a survey at all, and a question may be one that cannot be asked. A
question at fault is named by its place, counted from one.
-/

set_option autoImplicit false

namespace VideoSurvey.Survey

/-- What is wrong with one question. -/
inductive QuestionFault where
  | notAnObject
  | untyped
  | unrecognized (name : String)
deriving DecidableEq, Repr

/-- What is wrong with a document. -/
inductive DocumentFault where
  | notJson (error : Json.ReadError)
  | notAnObject
  | questionsNotAList
  | mismatch (found : Json.Mismatch)
  | tooManyStars (limit found : Int)
deriving Repr

/-- Why a document gives no survey to show. -/
inductive Fault where
  | question (position : Nat) (fault : QuestionFault)
  | document (fault : DocumentFault)
deriving Repr

/-- Wording of a question's fault. -/
def QuestionFault.message : QuestionFault → String
  | .notAnObject => "question must be an object"
  | .untyped => "question has no 'type'"
  | .unrecognized name => "unrecognized question type '" ++ name ++ "'"

/-- Wording of a document's fault. -/
def DocumentFault.message : DocumentFault → String
  | .notJson error => "invalid JSON: " ++ error.message
  | .notAnObject => "survey definition must be a JSON object"
  | .questionsNotAList => "'questions' must be an array"
  | .mismatch m => m.message
  | .tooManyStars limit found =>
      "starRating.maxStars must be at most " ++ String.ofList (Json.intDigits limit) ++ ", got " ++
        String.ofList (Json.intDigits found)

/-- Wording of a fault. -/
def Fault.message : Fault → String
  | .question position fault =>
      "invalid survey definition: question " ++ String.ofList (Json.natDigits position) ++ ": " ++
        fault.message
  | .document fault => "malformed survey document: " ++ fault.message

end VideoSurvey.Survey
