import VideoSurvey.Store.Database

/-!
# Tables in files

A table is kept in a file as a JSON array with an object for each row.
-/

set_option autoImplicit false

namespace VideoSurvey.Store

open Json (Decoder RecordField)

/-- A row as JSON. -/
def Row.toJson (row : Row) : Json :=
  .obj ([("id", .str row.id), ("document", .str row.document), ("createdAt", .str row.createdAt)] ++
    Survey.optionalMember "updatedAt" row.updatedAt .str)

/-- Fields of a row. -/
def Row.fields : List (RecordField Row) :=
  [.needed "id" Json.text fun a row => { row with id := a },
   .needed "document" Json.text fun a row => { row with document := a },
   .needed "createdAt" Json.text fun a row => { row with createdAt := a },
   .defaulted "updatedAt" (Json.optional Json.text) fun a row => { row with updatedAt := a }]

/-- A row out of JSON. -/
def Row.decoder : Decoder Row := Json.record "Row" Row.fields ⟨"", "", "", none⟩

/-- A table as text. -/
def Table.text (table : Table) : String := (Json.arr (table.map Row.toJson)).prettyText ++ "\n"

/-- A table out of a text. -/
def Table.ofText? (text : String) : Option Table := ((Json.list Row.decoder).ofText text).toOption

end VideoSurvey.Store
