import Rescan.Text.Basic
import Rescan.Text.Utf8

/-! # Faults of JSON text

A fault has a reason and a place. The place is a number of bytes from the beginning of the
text, shown as a line and as the bytes of that line up to the place.
-/

namespace Rescan.Json

/-- Why a text is no JSON value. -/
inductive Reason where
  | eofInList
  | eofInObject
  | eofInString
  | eofInValue
  | expectedColon
  | expectedListCommaOrEnd
  | expectedObjectCommaOrEnd
  | expectedWord
  | expectedValue
  | invalidEscape
  | invalidNumber
  | numberOutOfRange
  | controlCharacter
  | keyMustBeString
  | loneSurrogate
  | trailingComma
  | trailingCharacters
  | unexpectedEndOfHexEscape
  | tooDeep
  deriving DecidableEq, Repr

def Reason.message : Reason → String
  | .eofInList => "EOF while parsing a list"
  | .eofInObject => "EOF while parsing an object"
  | .eofInString => "EOF while parsing a string"
  | .eofInValue => "EOF while parsing a value"
  | .expectedColon => "expected \x60:\x60"
  | .expectedListCommaOrEnd => "expected \x60,\x60 or \x60]\x60"
  | .expectedObjectCommaOrEnd => "expected \x60,\x60 or \x60\x7d\x60"
  | .expectedWord => "expected ident"
  | .expectedValue => "expected value"
  | .invalidEscape => "invalid escape"
  | .invalidNumber => "invalid number"
  | .numberOutOfRange => "number out of range"
  | .controlCharacter =>
      "control character (\\u0000-\\u001F) found while parsing a string"
  | .keyMustBeString => "key must be a string"
  | .loneSurrogate => "lone leading surrogate in hex escape"
  | .trailingComma => "trailing comma"
  | .trailingCharacters => "trailing characters"
  | .unexpectedEndOfHexEscape => "unexpected end of hex escape"
  | .tooDeep => "recursion limit exceeded"

/-- A reason, and the place it was found at: `ahead` bytes after the point where the characters
`unread` begin. -/
structure Fault where
  reason : Reason
  unread : List Char
  ahead : Nat
  deriving DecidableEq, Repr

namespace Fault

/-- A fault found where the unread characters begin. -/
def here (reason : Reason) (unread : List Char) : Fault := ⟨reason, unread, 0⟩

/-- A fault found at the first of the unread characters, which counts as passed. -/
def atNext (reason : Reason) (unread : List Char) : Fault :=
  ⟨reason, unread, if unread.isEmpty then 0 else 1⟩

/-- The number of bytes of a text up to the place of a fault. -/
def offset (text : List Char) (fault : Fault) : Nat :=
  let total := (Text.Utf8.encode text).length
  min total (total - (Text.Utf8.encode fault.unread).length + fault.ahead)

/-- The line and the column that follow a number of bytes. Lines count from one and columns
from zero. -/
def lineColumn (bytes : List UInt8) : Nat × Nat :=
  bytes.foldl (fun place b => if b = 10 then (place.1 + 1, 0) else (place.1, place.2 + 1)) (1, 0)

/-- The text shown for a fault of the given text. -/
def message (text : String) (fault : Fault) : String :=
  let (line, column) :=
    lineColumn ((Text.Utf8.encode text.toList).take (fault.offset text.toList))
  fault.reason.message ++ " at line " ++ Text.decimal line ++ " column " ++ Text.decimal column

end Fault

end Rescan.Json
