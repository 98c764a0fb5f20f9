import Rescan.Url.Basic
import Rescan.Url.Percent

/-! # Segments of paths

A path is read segment by segment onto the segments before it. A segment of one dot names the
place where it stands, a segment of two dots the place above it; both may be written with
percent signs. A segment that looks like the letter of a drive is never left again, and only
such a segment may begin the path of a file with a bar in place of its colon.
-/

namespace Rescan.Url

/-- Whether a segment names the place where it stands. -/
def isSingleDot (segment : List Char) : Bool :=
  [['.'], ['%', '2', 'e']].contains (segment.map Char.toLower)

/-- Whether a segment names the place above it. -/
def isDoubleDot (segment : List Char) : Bool :=
  [['.', '.'], ['%', '2', 'e', '.'], ['.', '%', '2', 'e'],
    ['%', '2', 'e', '%', '2', 'e']].contains (segment.map Char.toLower)

/-- Whether a segment is a letter and a colon or a bar. -/
def isDriveLetter : List Char → Bool
  | [letter, mark] => letter.isAlpha && (mark == ':' || mark == '|')
  | _ => false

/-- The segments without the last one, unless that one is the letter of a drive. The list is in
reverse order. -/
def leave : List (List Char) → List (List Char)
  | [] => []
  | segment :: rest => if isDriveLetter segment then segment :: rest else rest

/-- A segment in the form in which it is kept. -/
def keptSegment (isFile : Bool) (before : List (List Char)) (segment : List Char) : List Char :=
  match segment with
  | [letter, _] =>
    if isFile && before.isEmpty && isDriveLetter segment then [letter, ':'] else segment
  | _ => segment

/-- Puts segments onto the ones before them, which are in reverse order. The place that the last
segment leaves or stays in is ended by an empty segment. -/
def pushSegments (isFile : Bool) (before : List (List Char)) :
    List (List Char) → List (List Char)
  | [] => before
  | segment :: rest =>
    if isDoubleDot segment then
      if rest.isEmpty then [] :: leave before else pushSegments isFile (leave before) rest
    else if isSingleDot segment then
      if rest.isEmpty then [] :: before else pushSegments isFile before rest
    else pushSegments isFile (keptSegment isFile before segment :: before) rest

/-- The parts of a text between slashes; in special schemes a backslash is a slash. -/
def splitSegments (special : Bool) : List Char → List (List Char)
  | [] => [[]]
  | c :: rest =>
    if c = '/' ∨ (special ∧ c = '\\') then [] :: splitSegments special rest
    else
      match splitSegments special rest with
      | [] => [[c]]
      | segment :: more => (c :: segment) :: more

/-- The path that a text without its first slash leads to from some segments. -/
def pathFrom (scheme : String) (start : List String) (cs : List Char) : Path :=
  let written := (splitSegments (isSpecial scheme) cs).map (Percent.encode Percent.pathSet)
  let isFile := scheme == "file"
  let pushed := (pushSegments isFile ((start.map String.toList).reverse) written).reverse
  let kept :=
    if isFile then
      match pushed.dropWhile List.isEmpty with
      | [] => [[]]
      | segments => segments
    else pushed
  .segments (kept.map String.ofList)

end Rescan.Url
