import VideoSurvey.Template.Render
import VideoSurvey.Text.Blank
import VideoSurvey.Text.Stretches

/-!
# Reading templates

A template's text is first cut into pieces: plain text, and tags between double braces, between
braces with percent signs, and between braces with number signs. A minus sign inside a tag, next
to its brace, removes the blank characters of the text on that side. The pieces are then put
together; `if` and `for` tags open a part that `endif` and `endfor` close, and a tag between
number signs is a comment. The comments before anything else are a heading, and remove nothing.
-/

set_option autoImplicit false

namespace VideoSurvey.Template

/-! ## Pieces -/

/-- The three kinds of tags. -/
inductive TagKind where
  | emission
  | directive
  | comment
deriving DecidableEq, Repr

/-- A tag without its braces and without the minus signs next to them. -/
structure Tag where
  kind : TagKind
  trimsBefore : Bool
  trimsAfter : Bool
  inner : List Char
deriving DecidableEq, Repr

/-- Plain text or a tag. -/
inductive Piece where
  | text (text : List Char)
  | tag (tag : Tag)
deriving DecidableEq, Repr

/-- The character next to a tag's brace. -/
def TagKind.mark : TagKind → Char × Char
  | .emission => ('\x7b', '\x7d')
  | .directive => ('%', '%')
  | .comment => ('#', '#')

/-- The kind of tag that a character behind an opening brace begins. -/
def TagKind.ofMark? (c : Char) : Option TagKind :=
  if c = '\x7b' then some .emission
  else if c = '%' then some .directive
  else if c = '#' then some .comment
  else none

/-- A tag out of the characters between its braces. -/
def Tag.ofInner (kind : TagKind) (inner : List Char) : Tag :=
  let before := inner.head? = some '-'
  let inner := if before then inner.drop 1 else inner
  let after := inner.getLast? = some '-'
  ⟨kind, before, after, if after then inner.dropLast else inner⟩

/-- Cuts a text into pieces. `inside` is the kind of the tag that is open, and `read` holds the
characters of the present piece in reverse. A tag that does not end gives no pieces. -/
def pieces : Option TagKind → List Char → List Char → Option (List Piece)
  | none, read, [] => some [.text read.reverse]
  | some _, _, [] => none
  | none, read, '\x7b' :: c :: r =>
      match TagKind.ofMark? c with
      | some kind => (pieces (some kind) [] r).map (.text read.reverse :: ·)
      | none => pieces none ('\x7b' :: read) (c :: r)
  | none, read, c :: r => pieces none (c :: read) r
  | some kind, read, c :: '\x7d' :: r =>
      if c = kind.mark.2 then
        (pieces none [] r).map (.tag (.ofInner kind read.reverse) :: ·)
      else pieces (some kind) (c :: read) ('\x7d' :: r)
  | some kind, read, c :: r => pieces (some kind) (c :: read) r

/-- Whether the next piece is a tag that trims the text before it. -/
def trimsNext : List Piece → Bool
  | .tag t :: _ => t.trimsBefore
  | _ => false

/-- The pieces behind the comments that a template begins with. -/
def withoutHeading : List Piece → List Piece
  | .text [] :: .tag t :: r =>
      if t.kind = .comment then withoutHeading r else .text [] :: .tag t :: r
  | found => found

/-- Removes the blank characters next to tags that trim; `after` holds behind such a tag. -/
def trimPieces : Bool → List Piece → List Piece
  | _, [] => []
  | _, .tag t :: r => .tag t :: trimPieces t.trimsAfter r
  | after, .text s :: r =>
      let s := if after then s.dropWhile Text.isBlankChar else s
      let s :=
        if trimsNext r then (s.reverse.dropWhile Text.isBlankChar).reverse else s
      .text s :: trimPieces false r

/-! ## Tags -/

/-- Characters of a name. -/
def isNameChar (c : Char) : Bool := c.isAlphanum || c = '_'

/-- Names, which do not begin with a digit. -/
def isName (s : List Char) : Bool := s.all isNameChar && s.head?.any fun c => !c.isDigit

/-- A path: the name of a variable and any keys, with dots between them. -/
def path? (s : List Char) : Option Path :=
  match Text.stretches '.' s with
  | [] => none
  | name :: keys =>
      if isName name && keys.all fun key => !key.isEmpty && key.all isNameChar then
        some ((name :: keys).map String.ofList)
      else none

/-- A number or a path. -/
def operand? (s : List Char) : Option Operand :=
  match s with
  | '-' :: r => (natural? r).map fun n => .number (-n)
  | _ =>
      match natural? s with
      | some n => some (.number n)
      | none => (path? s).map .path

/-- A filter. -/
def filter? (s : List Char) : Option Filter :=
  if s = "safe".toList then some .safe
  else if s = "length".toList then some .length
  else none

/-- A place that emits. -/
def emission? (inner : List Char) : Option Node :=
  match (Text.stretches '|' inner).map Text.trim with
  | [] => none
  | operand :: filters => do
      let operand ← operand? operand
      let filters ← filters.mapM filter?
      some (.emit operand filters)

/-- A place that steers. -/
inductive Directive where
  | ifTrue (path : Path)
  | otherwise
  | endIf
  | forEach (name : String) (path : Path)
  | endFor
deriving DecidableEq, Repr

/-- A place that steers, out of its words. -/
def directive? (inner : List Char) : Option Directive :=
  match (Text.words inner).map String.ofList with
  | ["if", path] => (path? path.toList).map .ifTrue
  | ["else"] => some .otherwise
  | ["endif"] => some .endIf
  | ["for", name, "in", path] =>
      if isName name.toList then (path? path.toList).map (.forEach name) else none
  | ["endfor"] => some .endFor
  | _ => none

/-! ## Parts -/

/-- A part that is open, with the nodes before it in reverse. -/
inductive Frame where
  | whenTrue (path : Path) (before : List Node)
  | whenFalse (path : Path) (whenTrue before : List Node)
  | each (name : String) (path : Path) (before : List Node)

/-- Puts pieces together. `read` holds the nodes of the innermost part in reverse. -/
def build : List Piece → List Node → List Frame → Option (List Node)
  | [], read, [] => some read.reverse
  | [], _, _ :: _ => none
  | .text s :: r, read, open_ => build r (if s.isEmpty then read else .text s :: read) open_
  | .tag t :: r, read, open_ =>
      match t.kind with
      | .comment => build r read open_
      | .emission => (emission? t.inner).bind fun node => build r (node :: read) open_
      | .directive =>
          match directive? t.inner, open_ with
          | some (.ifTrue path), _ => build r [] (.whenTrue path read :: open_)
          | some (.forEach name path), _ => build r [] (.each name path read :: open_)
          | some .otherwise, .whenTrue path before :: outer =>
              build r [] (.whenFalse path read.reverse before :: outer)
          | some .endIf, .whenTrue path before :: outer =>
              build r (.choose path read.reverse [] :: before) outer
          | some .endIf, .whenFalse path whenTrue before :: outer =>
              build r (.choose path whenTrue read.reverse :: before) outer
          | some .endFor, .each name path before :: outer =>
              build r (.each name path read.reverse :: before) outer
          | _, _ => none

/-- The template that a text writes, or `none` when its tags do not fit together. -/
def parse (text : List Char) : Option (List Node) :=
  (pieces none [] text).bind fun found => build (trimPieces false (withoutHeading found)) [] []

end VideoSurvey.Template
