import VideoSurvey.Json.Token
import VideoSurvey.Text.Stretches

/-!
# Locations of databases

A location is a path, or a text that begins with `file:` and has a path behind it. In the second
form two slashes may stand before the path with nothing or `localhost` between them and it, a
question mark may stand behind it with parameters, and a number sign with a remark; bytes of the
path and of the parameters may be written by a percent sign and two hexadecimal digits.

A location without a path, the path `:memory:`, and the mode and the storage that stand for
memory name a database that is not kept. The other storages differ in how the users of a database
keep out of each other's way.
-/

set_option autoImplicit false

namespace VideoSurvey.Store

/-- How a database is opened. -/
inductive OpenMode where
  | reading
  | writing
  | creating
  | memory
deriving DecidableEq, Repr

/-- Why a text is no location. -/
inductive LocationFault where
  | authority (name : String)
  | unknownMode (kind value : String)
  | modeNotAllowed (value : String)
  | unknownStorage (name : String)
deriving DecidableEq, Repr

/-- Wording of a fault. -/
def LocationFault.message : LocationFault → String
  | .authority name => "invalid uri authority: " ++ name
  | .unknownMode kind value => "no such " ++ kind ++ " mode: " ++ value
  | .modeNotAllowed value => "access mode not allowed: " ++ value
  | .unknownStorage name => "no such vfs: " ++ name

/-- How the users of a database keep out of each other's way. -/
inductive Locking where
  | shared
  | exclusive
  | byDirectory
  | absent
deriving DecidableEq, Repr

/-- Where a database is, and how it is opened. A lone one is taken for one without other users, and
a frozen one for one that nobody changes. -/
structure Location where
  path : String
  mode : OpenMode
  inMemory : Bool
  locking : Locking
  isLone : Bool
  isFrozen : Bool
deriving DecidableEq, Repr

namespace Location

/-- The path that stands for memory. -/
def memoryPath : String := ":memory:"

/-- A location that is its own path. -/
def ofPath (path : String) : Location := ⟨path, .creating, false, .shared, false, false⟩

/-- Whether the location names a database without a file of its own. -/
def isNameless (l : Location) : Bool :=
  l.path.isEmpty || l.path = memoryPath || l.mode = .memory

/-- Whether the database outlives its use. -/
def isKept (l : Location) : Bool := !l.isNameless && !l.inMemory

/-- Whether the database is used without locks. -/
def isUnlocked (l : Location) : Bool := l.locking = .absent || l.isLone

/-- Whether the database can only be read. -/
def isReadOnly (l : Location) : Bool := l.mode = .reading || (l.isFrozen && !l.isNameless)

/-! ## Parameters -/

/-- The bytes that a text writes. A byte zero ends them. -/
def writtenBytes : List Char → List UInt8
  | [] => []
  | '%' :: a :: b :: r =>
      match Json.hexValue? a, Json.hexValue? b with
      | some x, some y =>
          if x = 0 && y = 0 then [] else UInt8.ofNat (16 * x + y) :: writtenBytes r
      | _, _ => String.utf8EncodeChar '%' ++ writtenBytes (a :: b :: r)
  | c :: r => String.utf8EncodeChar c ++ writtenBytes r

/-- A text out of bytes; a byte that does not fit is replaced. -/
def textOf (bytes : List UInt8) : String :=
  match String.fromUTF8? ⟨bytes.toArray⟩ with
  | some text => text
  | none => String.ofList (bytes.map fun b => if b < 0x80 then Char.ofNat b.toNat else '\uFFFD')

/-- The text that a text writes. -/
def written (s : List Char) : String := textOf (writtenBytes s)

/-- A text before and behind the first occurrence of a character. -/
def cut (c : Char) (s : List Char) : List Char × List Char :=
  (s.takeWhile (· ≠ c), (s.dropWhile (· ≠ c)).drop 1)

/-- The parameters behind a question mark. Those without a name do not count. -/
def parameters (s : List Char) : List (String × String) :=
  ((Text.stretches '&' s).map fun p => (written (cut '=' p).1, written (cut '=' p).2)).filter
    fun p => !p.1.isEmpty

/-- The mode with a name. -/
def mode? (name : String) : Option OpenMode :=
  match name with
  | "ro" => some .reading
  | "rw" => some .writing
  | "rwc" => some .creating
  | "memory" => some .memory
  | _ => none

/-- Whether a mode may take the place of another: it allows no more, or it is or replaces
memory. -/
def mayReplace (new old : OpenMode) : Bool :=
  match new, old with
  | .memory, _ => true
  | _, .memory => true
  | .reading, _ => true
  | .writing, .reading => false
  | .writing, _ => true
  | .creating, .creating => true
  | .creating, _ => false

/-- The storages there are, and how each locks a database. Memory needs no locks. -/
def storages : List (String × Option Locking) :=
  [("unix", some .shared), ("unix-none", some .absent), ("unix-dotfile", some .byDirectory),
   ("unix-excl", some .exclusive), ("memdb", none)]

/-- Whether a text says yes, in words or by a number whose last eight bits are not zero. -/
def saysYes (value : String) : Bool :=
  let digits := value.toList.takeWhile Char.isDigit
  if digits.isEmpty then ["on", "yes", "true"].contains value.toLower
  else
    let n := digits.foldl (fun n c => n * 10 + (c.toNat - '0'.toNat)) 0
    n < 2147483648 && n % 256 ≠ 0

/-- The mode and the name of the storage that parameters ask for. -/
def asked : OpenMode → Option String → List (String × String) →
    Except LocationFault (OpenMode × Option String)
  | mode, storage, [] => .ok (mode, storage)
  | mode, storage, (name, value) :: r =>
      match name with
      | "vfs" => asked mode (some value) r
      | "cache" =>
          if value = "shared" || value = "private" then asked mode storage r
          else .error (.unknownMode "cache" value)
      | "mode" =>
          match mode? value with
          | none => .error (.unknownMode "access" value)
          | some new =>
              if mayReplace new mode then asked new storage r else .error (.modeNotAllowed value)
      | _ => asked mode storage r

/-! ## Locations -/

/-- The path and the parameters behind two slashes and an authority, if they are there. -/
def withoutAuthority (s : List Char) : Except LocationFault (List Char) :=
  match s with
  | '/' :: '/' :: r =>
      let authority := String.ofList (r.takeWhile (· ≠ '/'))
      if authority.isEmpty || authority = "localhost" then .ok (r.dropWhile (· ≠ '/'))
      else .error (.authority authority)
  | s => .ok s

/-- The location behind `file:`. -/
def ofReference (s : List Char) : Except LocationFault Location := do
  let s ← withoutAuthority s
  let (path, r) := cut '?' (s.takeWhile (· ≠ '#'))
  let found := parameters r
  let (mode, storage) ← asked .creating none found
  let isSet (name : String) : Bool := (found.find? fun p => p.1 = name).any fun p => saysYes p.2
  match storages.lookup (storage.getD "unix") with
  | none => .error (.unknownStorage (storage.getD "unix"))
  | some none => .ok ⟨written path, mode, true, .absent, isSet "nolock", isSet "immutable"⟩
  | some (some locking) =>
      .ok ⟨written path, mode, false, locking, isSet "nolock", isSet "immutable"⟩

/-- The location that a text stands for. -/
def ofText (text : String) : Except LocationFault Location :=
  match text.toList with
  | 'f' :: 'i' :: 'l' :: 'e' :: ':' :: r => ofReference r
  | _ => .ok (ofPath text)

/-- The path of the file that keeps the database with a location, if there is one. -/
def keptPath? (text : String) : Option String :=
  match ofText text with
  | .ok l => if l.isKept then some l.path else none
  | .error _ => none

end Location

end VideoSurvey.Store
