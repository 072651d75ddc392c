import VideoSurvey.Files.Tree

/-!
# Patterns of paths

A pattern describes paths byte by byte. A question mark stands for one byte, a star for any bytes,
both within one name. Two stars between slashes stand for any number of directories. Brackets list
the bytes that may stand in a place, braces list alternatives, and a backslash takes the character
behind it as it is.

`Tree.matching` finds the files of a tree that a pattern describes. The part of the pattern before
its first star is the directory to look in, which is a path like any other.
-/

set_option autoImplicit false

namespace VideoSurvey.Files

/-- A part of a pattern. -/
inductive Wildcard where
  | byte (b : UInt8)
  | anyByte
  | withinName
  | leadingDirectories
  | innerDirectories
  | everythingBelow
  | oneOf (negated : Bool) (ranges : List (UInt8 × UInt8))
  | choice (alternatives : List (List Wildcard))

namespace Wildcard

/-! ## Matching -/

/-- The byte of a slash. -/
def slash : UInt8 := 0x2F

/-- What is left of a text behind a run of bytes within one name. -/
def behindName : List UInt8 → List (List UInt8)
  | [] => [[]]
  | b :: r => (b :: r) :: if b = slash then [] else behindName r

/-- What is left of a text behind each of its slashes. -/
def behindSlashes : List UInt8 → List (List UInt8)
  | [] => []
  | b :: r => if b = slash then r :: behindSlashes r else behindSlashes r

/-- What is left of a text behind any of its bytes. -/
def behindAny : List UInt8 → List (List UInt8)
  | [] => [[]]
  | b :: r => (b :: r) :: behindAny r

mutual

/-- What can be left of a text behind a part of a pattern. -/
def rests : Wildcard → List UInt8 → List (List UInt8)
  | .byte b, s =>
      match s with
      | [] => []
      | x :: r => if x = b then [r] else []
  | .anyByte, s =>
      match s with
      | [] => []
      | x :: r => if x = slash then [] else [r]
  | .withinName, s => behindName s
  | .leadingDirectories, s => s :: behindSlashes s
  | .innerDirectories, s =>
      match s with
      | [] => []
      | x :: r => if x = slash then r :: behindSlashes r else []
  | .everythingBelow, s =>
      match s with
      | [] => []
      | x :: r => if x = slash then behindAny r else []
  | .oneOf negated ranges, s =>
      match s with
      | [] => []
      | x :: r =>
          if (ranges.any fun range => range.1 ≤ x && x ≤ range.2) != negated then [r] else []
  | .choice alternatives, s => choiceRests alternatives s

/-- What can be left of a text behind several parts. -/
def sequenceRests : List Wildcard → List UInt8 → List (List UInt8)
  | [], s => [s]
  | part :: r, s => ((rests part s).eraseDups.map (sequenceRests r)).flatten

/-- What can be left of a text behind one of several alternatives. -/
def choiceRests : List (List Wildcard) → List UInt8 → List (List UInt8)
  | [], _ => []
  | parts :: r, s => sequenceRests parts s ++ choiceRests r s

end

/-- Whether the parts of a pattern describe a whole text. -/
def describes (parts : List Wildcard) (s : List UInt8) : Bool :=
  (sequenceRests parts s).any List.isEmpty

/-! ## Reading -/

/-- A character as it is, in front of which other parts were read. The parts stand in reverse. -/
def literal (c : Char) (read : List Wildcard) : List Wildcard :=
  ((String.utf8EncodeChar c).map Wildcard.byte).reverse ++ read

/-- The bytes from one character to another. Only between characters of one byte is this a
range. -/
def byteRanges (first last : Char) : List (UInt8 × UInt8) :=
  let a := String.utf8EncodeChar first
  let b := String.utf8EncodeChar last
  if first = last then a.map fun x => (x, x)
  else
    a.dropLast.map (fun x => (x, x)) ++ [(a.getLastD 0, b.headD 0)] ++
      (b.drop 1).map fun x => (x, x)

/-- What stands in brackets, from behind the opening bracket and its negation. A bracket that
comes first counts as a character, and so does a minus sign at either end. -/
def bracketed (isFirst inRange : Bool) (read : List (Char × Char)) :
    List Char → Option (List (Char × Char) × List Char)
  | [] => none
  | c :: r =>
      if c = ']' && !isFirst then
        some ((if inRange then ('-', '-') :: read else read).reverse, r)
      else if c = '-' && !isFirst && !inRange then bracketed false true read r
      else
        match inRange, read with
        | true, (first, _) :: before =>
            if c < first then none else bracketed false false ((first, c) :: before) r
        | _, read => bracketed false false ((c, c) :: read) r

/-- A place for one of several bytes, from behind the opening bracket. -/
def oneOf? (s : List Char) : Option (Wildcard × List Char) :=
  let negated := s.head? = some '!' || s.head? = some '^'
  (bracketed true false [] (if negated then s.drop 1 else s)).map fun found =>
    (.oneOf negated (found.1.flatMap fun range => byteRanges range.1 range.2), found.2)

/-- The part that two stars make behind a slash, in place of the slash and the parts that may
stand in front of it. -/
def doubled (isLast : Bool) : List Wildcard → List Wildcard
  | .leadingDirectories :: read => .leadingDirectories :: read
  | .everythingBelow :: read => .everythingBelow :: read
  | _ :: read => (if isLast then .everythingBelow else .innerDirectories) :: read
  | [] => []

mutual

/-- The parts of a pattern, up to its end, or up to the comma or brace that ends an alternative.
`before` is the character before the rest of the pattern, and `read` holds the parts in
reverse. -/
def parts? (inBraces : Bool) : Nat → Option Char → List Wildcard → List Char →
    Option (List Wildcard × List Char)
  | 0, _, _, _ => none
  | _ + 1, _, read, [] => if inBraces then none else some (read.reverse, [])
  | fuel + 1, before, read, '*' :: '*' :: r =>
      let withinNames := parts? inBraces fuel (some '*') (.withinName :: .withinName :: read) r
      let endsHere := inBraces && (r.head? = some ',' || r.head? = some '\x7d')
      if read.isEmpty then
        match r with
        | [] => parts? inBraces fuel (some '*') [.leadingDirectories] []
        | '/' :: r => parts? inBraces fuel (some '/') [.leadingDirectories] r
        | _ => withinNames
      else if before ≠ some '/' then withinNames
      else if r.isEmpty || endsHere then parts? inBraces fuel (some '*') (doubled true read) r
      else
        match r with
        | '/' :: r => parts? inBraces fuel (some '/') (doubled false read) r
        | _ => withinNames
  | fuel + 1, _, read, c :: r =>
      if c = '*' then parts? inBraces fuel (some c) (.withinName :: read) r
      else if c = '?' then parts? inBraces fuel (some c) (.anyByte :: read) r
      else if c = '[' then
        (oneOf? r).bind fun found => parts? inBraces fuel (some ']') (found.1 :: read) found.2
      else if c = '\x7b' then
        (alternatives? fuel r).bind fun found =>
          parts? inBraces fuel (some '\x7d') (.choice found.1 :: read) found.2
      else if c = '\x7d' then if inBraces then some (read.reverse, c :: r) else none
      else if c = ',' && inBraces then some (read.reverse, c :: r)
      else if c = '\\' then
        match r with
        | [] => none
        | c :: r => parts? inBraces fuel (some c) (literal c read) r
      else parts? inBraces fuel (some c) (literal c read) r

/-- The alternatives in braces, from behind the opening brace. Empty ones do not count. -/
def alternatives? : Nat → List Char → Option (List (List Wildcard) × List Char)
  | 0, _ => none
  | fuel + 1, s => do
      let (found, s) ← parts? true fuel none [] s
      let (others, s) ←
        match s with
        | ',' :: r => alternatives? fuel r
        | _ => some ([], s.drop 1)
      some (if found.isEmpty then others else found :: others, s)

end

/-- The parts of a pattern, or `none` when its brackets or braces do not fit together. -/
def ofPattern (pattern : List Char) : Option (List Wildcard) :=
  (parts? false (2 * pattern.length + 2) none [] pattern).map Prod.fst

end Wildcard

/-! ## Files -/

/-- The pattern without empty parts and single dots between its slashes. -/
def tidied (pattern : List Char) : List Char :=
  ['/'].intercalate ((Text.stretches '/' pattern).filter fun part => !part.isEmpty && part ≠ ['.'])

/-- The path of the directory that a pattern looks in. -/
def patternTop (pattern : String) : String :=
  String.ofList (pattern.toList.takeWhile (· ≠ '*'))

/-- Whether a name holds a brace. -/
def hasBrace (name : String) : Bool := name.toList.any fun c => c = '\x7b' || c = '\x7d'

/-- The files that a pattern describes, with their names from its directory on. A pattern without
a directory looks in the one that it is taken from. Braces in the name of a directory would begin
alternatives, none of which is that name, so nothing is found below it. -/
def Tree.matching (tree : Tree) (pattern : Path) : List (Names × ByteArray) :=
  let top := patternTop pattern.text
  let rest := pattern.text.toList.dropWhile (· ≠ '*')
  match tree.walk pattern.start (parts top) with
  | .error _ => []
  | .ok names =>
      if !top.isEmpty && names.any hasBrace then []
      else
        match Wildcard.ofPattern (if top.isEmpty then rest else tidied rest) with
        | none => []
        | some wanted =>
            (tree.below names).filter fun file =>
              Wildcard.describes wanted ("/".intercalate file.1).toUTF8.toList

end VideoSurvey.Files
