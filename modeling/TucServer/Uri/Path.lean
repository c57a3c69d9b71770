import TucServer.Uri.Percent

/-!
# Paths

A path is read segment by segment. A single dot stands for nothing and a double dot takes the
segment before it away, unless that is a drive letter. At the head of the path of a file a drive
letter may be written with a bar, and the path then needs no host.
-/

namespace TucServer.Uri

/-- Whether the character is left out of a URI wherever it stands. -/
def isBreak (c : Char) : Bool :=
  c == '\t' || c == '\n' || c == '\r'

/-- The text without breaks. -/
def withoutBreaks (text : List Char) : List Char :=
  text.filter (!isBreak ·)

namespace Path

/-- The text with every encoded dot read as a dot. -/
def readDots : List Char → List Char
  | '%' :: '2' :: 'e' :: rest => '.' :: readDots rest
  | '%' :: '2' :: 'E' :: rest => '.' :: readDots rest
  | c :: rest => c :: readDots rest
  | [] => []

/-- Whether the character marks a drive letter. -/
def isDriveMark (c : Char) : Bool :=
  c == ':' || c == '|'

/-- Whether the text is a drive letter with its mark. -/
def isDrive : List Char → Bool
  | [letter, mark] => letter.isAlpha && isDriveMark mark
  | _ => false

/-- Whether the segment is a drive letter, or one with a backslash behind it. -/
def beginsWithDrive : List Char → Bool
  | letter :: mark :: rest =>
    isDrive [letter, mark] && (rest.isEmpty || rest.head? == some '\\')
  | _ => false

/-- The drive letter that breaks part from the rest of a segment, with a colon as its mark, and that
rest. -/
def splitDrive? (segment : List Char) : Option (List Char × List Char) :=
  match segment.dropWhile isBreak with
  | letter :: rest =>
    match rest.dropWhile isBreak with
    | ':' :: rest =>
      let name := withoutBreaks rest
      if letter.isAlpha && rest.head?.any isBreak && !name.isEmpty then some ([letter, ':'], name)
      else none
    | _ => none
  | [] => none

/-- What has been read of a path: the segments, latest first, and whether a drive letter has been
found at the head. -/
structure Trail where
  segments : List (List Char)
  hasDrive : Bool

namespace Trail

/-- Nothing has been read. -/
def start : Trail := ⟨[], false⟩

/-- After one more segment, which is encoded. -/
def add (trail : Trail) (segment : List Char) : Trail :=
  { trail with segments := encode pathSet segment :: trail.segments }

/-- Without the latest segment. A drive letter stays. -/
def shorten (trail : Trail) : Trail :=
  match trail.segments with
  | [] => trail
  | segment :: rest => if beginsWithDrive segment then trail else { trail with segments := rest }

/-- After one more segment of the path of a file. At the head a drive letter gets a colon, and one
that is parted from the rest is a segment of its own. -/
def addOfFile (trail : Trail) (segment : List Char) : Trail :=
  let name := withoutBreaks segment
  if !trail.segments.isEmpty then trail.add name
  else
    match splitDrive? segment with
    | some (drive, rest) => (trail.add drive).add rest
    | none => if isDrive name then ⟨[name.take 1 ++ [':']], true⟩ else trail.add name

end Trail

/-- What has been read after all of these segments. The last one leaves an empty segment where it is
a dot or a double dot. -/
def walk (isFile : Bool) : Trail → List (List Char) → Trail
  | trail, [] => trail
  | trail, segment :: rest =>
    let dots := readDots (withoutBreaks segment)
    if dots = ['.', '.'] ∨ dots = ['.'] then
      let shorter := if dots = ['.'] then trail else trail.shorten
      if rest.isEmpty then shorter.add [] else walk isFile shorter rest
    else if isFile then walk isFile (trail.addOfFile segment) rest
    else walk isFile (trail.add (withoutBreaks segment)) rest

/-- A path from its segments: a slash before each. -/
def render (segments : List (List Char)) : List Char :=
  segments.flatMap ('/' :: ·)

/-- Whether the character parts segments of a special scheme. -/
def isSlash (c : Char) : Bool :=
  c == '/' || c == '\\'

/-- A path that is written after its first slash. -/
def read (isSpecial : Bool) (text : List Char) : List Char :=
  let isSeparator (c : Char) := if isSpecial then isSlash c else c == '/'
  render (walk false Trail.start (splitAt isSeparator text)).segments.reverse

/-- The path of a file that is written after its first slash, without empty segments at its head,
and whether it begins with a drive letter. -/
def readOfFile (text : List Char) : List Char × Bool :=
  let trail := walk true Trail.start (splitAt isSlash text)
  match trail.segments.reverse.dropWhile List.isEmpty with
  | [] => (['/'], trail.hasDrive)
  | segments => (render segments, trail.hasDrive)

end Path

end TucServer.Uri
