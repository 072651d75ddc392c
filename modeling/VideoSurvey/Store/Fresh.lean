import VideoSurvey.Store.Record

/-!
# Fresh stamps

A fresh id is made of sixteen random bytes. It is written as thirty-two hexadecimal digits in five
groups; one digit is the number of this kind of id, and the two highest bits of another are fixed.
A reading of the clock is a number of milliseconds since the beginning of 1970, written as a date
and a time of day.
-/

set_option autoImplicit false

namespace VideoSurvey.Store

/-! ## Ids -/

/-- The two hexadecimal digits of a byte. -/
def hexByte (b : UInt8) : List Char :=
  [Nat.digitChar (b.toNat / 16), Nat.digitChar (b.toNat % 16)]

/-- Bytes with the fixed bits of a random id. -/
def markRandom (bytes : List UInt8) : List UInt8 :=
  (bytes.modify 6 fun b => (b &&& 0x0f) ||| 0x40).modify 8 fun b => (b &&& 0x3f) ||| 0x80

/-- The groups of an id, in bytes. -/
def idGroups : List Nat := [4, 2, 2, 2, 6]

/-- Cuts bytes into groups. -/
def grouped : List Nat → List UInt8 → List (List UInt8)
  | [], _ => []
  | n :: r, bytes => bytes.take n :: grouped r (bytes.drop n)

/-- The id of sixteen random bytes. -/
def idOfBytes (bytes : List UInt8) : String :=
  String.ofList
    (['-'].intercalate ((grouped idGroups (markRandom bytes)).map fun g => g.flatMap hexByte))

/-! ## Times -/

/-- A day of the calendar. -/
structure Date where
  year : Nat
  month : Nat
  day : Nat
deriving DecidableEq, Repr

/-- Days from the first of March of the year zero to the beginning of 1970. -/
def daysBefore1970 : Nat := 719468

/-- Days of four hundred years. -/
def daysOf400Years : Nat := 146097

/-- The day a number of days after the beginning of 1970. Years are counted from March on, so that
the day of a leap year comes last. -/
def Date.ofDays (days : Nat) : Date :=
  let days := days + daysBefore1970
  let day := days % daysOf400Years
  let year := (day - day / 1460 + day / 36524 - day / 146096) / 365
  let dayOfYear := day - (365 * year + year / 4 - year / 100)
  let month := (5 * dayOfYear + 2) / 153
  let years := year + days / daysOf400Years * 400
  { year := if month < 10 then years else years + 1
    month := if month < 10 then month + 3 else month - 9
    day := dayOfYear - (153 * month + 2) / 5 + 1 }

/-- A number with at least so many digits. -/
def padded (width n : Nat) : List Char :=
  let digits := Json.natDigits n
  List.replicate (width - digits.length) '0' ++ digits

/-- A number of milliseconds since the beginning of 1970 as date and time of day. -/
def timeText (milliseconds : Nat) : String :=
  let date := Date.ofDays (milliseconds / 86400000)
  let hour := milliseconds / 3600000 % 24
  let minute := milliseconds / 60000 % 60
  let second := milliseconds / 1000 % 60
  String.ofList (padded 4 date.year ++ '-' :: padded 2 date.month ++ '-' :: padded 2 date.day ++
    'T' :: padded 2 hour ++ ':' :: padded 2 minute ++ ':' :: padded 2 second ++
    '.' :: padded 3 (milliseconds % 1000) ++ ['Z'])

/-- The stamp of sixteen random bytes and a reading of the clock. -/
def Stamp.fresh (bytes : List UInt8) (milliseconds : Nat) : Stamp :=
  ⟨idOfBytes bytes, timeText milliseconds⟩

end VideoSurvey.Store
