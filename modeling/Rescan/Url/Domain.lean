import Rescan.Unicode.Classes
import Rescan.Unicode.Composition
import Rescan.Unicode.Mapping
import Rescan.Url.Punycode

/-! # Domain names

A domain name is brought into a form of ASCII characters alone. Its characters are mapped and
composed; a label with other characters is then written in Punycode after `xn--`, and a label
that is already written so must stand for a label that needs it. Some ASCII characters are
forbidden, and labels that mix directions of writing or hold misplaced joiners are refused.
Hyphens may stand anywhere, and labels may be empty or of any length.
-/

namespace Rescan.Url.Domain

def isAscii (c : Char) : Bool := c.toNat < 128

/-- The ASCII characters that a domain name must not contain. -/
def isForbidden (c : Char) : Bool :=
  c.toNat ≤ 0x20 || c.toNat == 0x7F ||
    ['#', '%', '/', ':', '<', '>', '?', '@', '[', '\\', ']', '^', '|'].contains c

/-- The beginning of a label in Punycode. -/
def mark : List Char := ['x', 'n', '-', '-']

/-- The labels of a name: the parts between its dots. -/
def labels : List Char → List (List Char)
  | [] => [[]]
  | c :: rest =>
    if c = '.' then [] :: labels rest
    else
      match labels rest with
      | [] => [[c]]
      | label :: more => (c :: label) :: more

def joinLabels : List (List Char) → List Char
  | [] => []
  | [label] => label
  | label :: more => label ++ '.' :: joinLabels more

/-- The mapped and composed characters of a name, unless one is disallowed. -/
def mapped? (cs : List Char) : Option (List Char) :=
  let treated := cs.mapM fun c =>
    match Unicode.treatment c with
    | .valid => some [c]
    | .ignored => some []
    | .replaced replacement => some replacement
    | .disallowed => none
  treated.map fun parts => Unicode.composed parts.flatten

/-- Whether a joiner after some characters, the nearest first, and before others is in its
place: after a virama, or, for the non-joiner, between characters that would join. -/
def joinerFits (joiner : Char) (before after : List Char) : Bool :=
  let afterVirama := match before with
    | c :: _ => Unicode.combiningClass c == 9
    | [] => false
  let passed (cs : List Char) : Unicode.Joining :=
    match cs.dropWhile fun c => Unicode.joining c == .transparent with
    | c :: _ => Unicode.joining c
    | [] => .none
  afterVirama ||
    (joiner.toNat == 0x200C &&
      [.left, .dual].contains (passed before) && [.right, .dual].contains (passed after))

/-- Whether all joiners of a label are in their places. -/
def joinersFit (before : List Char) : List Char → Bool
  | [] => true
  | c :: rest =>
    (if c.toNat == 0x200C || c.toNat == 0x200D then joinerFits c before rest else true) &&
      joinersFit (c :: before) rest

/-- Whether a character is written from right to left, in the sense that makes a name subject
to the rule of directions. -/
def isRightToLeft (c : Char) : Bool :=
  [.rightToLeft, .arabicLetter, .arabicNumber].contains (Unicode.direction c)

/-- The directions that may stand in a label of either direction. -/
def neutralDirections : List Unicode.Direction :=
  [.europeanNumber, .europeanSeparator, .commonSeparator, .europeanTerminator, .otherNeutral,
    .boundaryNeutral, .nonspacingMark]

/-- The directions that a label from left to right may hold. -/
def forwardDirections : List Unicode.Direction := .leftToRight :: neutralDirections

/-- The directions that a label from right to left may hold. -/
def backwardDirections : List Unicode.Direction :=
  .rightToLeft :: .arabicLetter :: .arabicNumber :: neutralDirections

/-- The rule of directions for one label. -/
def directionsAgree (label : List Char) : Bool :=
  let directions := label.map Unicode.direction
  let last := (directions.reverse.dropWhile (· == .nonspacingMark)).head?
  match directions.head? with
  | none => true
  | some .leftToRight =>
    directions.all forwardDirections.contains &&
      (last == some .leftToRight || last == some .europeanNumber)
  | some .rightToLeft | some .arabicLetter =>
    directions.all backwardDirections.contains &&
      (last == some .rightToLeft || last == some .arabicLetter ||
        last == some .europeanNumber || last == some .arabicNumber) &&
      !(directions.contains .europeanNumber && directions.contains .arabicNumber)
  | some _ => false

/-- Whether the characters of a label are ones that stay as they are. -/
def isSettled (label : List Char) : Bool :=
  label.all (fun c => Unicode.treatment c == .valid) && Unicode.composed label == label

/-- Whether a label may stand in a name, directions apart. -/
def isAdmissible (label : List Char) : Bool :=
  !(label.head?.any Unicode.isMark) && joinersFit [] label

def unicodeLabel? (label : List Char) : Option (List Char) :=
  if mark.isPrefixOf label then
    let written := label.drop mark.length
    if 2000 < written.length then none
    else
      match Punycode.decode written with
      | none => none
      | some cs => if cs.all isAscii || !isSettled cs then none else some cs
  else some label

def asciiLabel? (label : List Char) : Option (List Char) :=
  if label.all isAscii then some label
  else if 1000 < label.length then none
  else some (mark ++ Punycode.encode label)

/-- The ASCII form of a name with any characters. -/
def unicodeToAscii? (cs : List Char) : Option (List Char) := do
  let mapped ← mapped? cs
  if mapped.any fun c => isAscii c && isForbidden c then none
  let parts := labels mapped
  let texts ← parts.mapM unicodeLabel?
  if !texts.all isAdmissible then none
  if texts.any (·.any isRightToLeft) && !texts.all directionsAgree then none
  let written ← parts.mapM asciiLabel?
  return joinLabels written

/-- Whether a name can be brought into its form letter by letter. -/
def isPlain (cs : List Char) : Bool :=
  cs.all isAscii && !(labels cs).any fun label => mark.isPrefixOf (label.map Char.toLower)

def toAscii? (cs : List Char) : Option (List Char) :=
  if isPlain cs then
    if cs.any isForbidden then none else some (cs.map Char.toLower)
  else unicodeToAscii? cs

end Rescan.Url.Domain
