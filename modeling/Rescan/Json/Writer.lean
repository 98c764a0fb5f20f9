import Rescan.Json.Basic
import Rescan.Text.Basic

/-! # Writing JSON text

A text is written between quotation marks. The quotation mark, the backslash and the control
characters below the space are escaped, five of these by a letter and the others by four
lower-case hexadecimal digits; every other character stands for itself. No blanks are written
between the parts of a value.
-/

namespace Rescan.Json

/-- One character as it stands inside quotation marks. -/
def escape (c : Char) : List Char :=
  if c = '"' then ['\\', '"']
  else if c = '\\' then ['\\', '\\']
  else if c = '\x08' then ['\\', 'b']
  else if c = '\x0c' then ['\\', 'f']
  else if c = '\n' then ['\\', 'n']
  else if c = '\r' then ['\\', 'r']
  else if c = '\t' then ['\\', 't']
  else if c.toNat < 0x20 then
    ['\\', 'u', '0', '0', Text.digitChar (c.toNat / 16), Text.digitChar (c.toNat % 16)]
  else [c]

/-- The characters of a text between quotation marks. -/
def quoteChars (cs : List Char) : List Char :=
  '"' :: (cs.flatMap escape ++ ['"'])

def quote (s : String) : String := String.ofList (quoteChars s.toList)

def separated (texts : List String) : String := ",".intercalate texts

/-- An object whose members have the given names and written values. -/
def writeMembers (members : List (String × String)) : String :=
  "\x7b" ++ separated (members.map fun (name, value) => quote name ++ ":" ++ value) ++ "\x7d"

def writeTexts (members : List (String × String)) : String :=
  writeMembers (members.map fun (name, text) => (name, quote text))

def Number.render : Number → String
  | .integer (.ofNat n) => Text.decimal n
  | .integer (.negSucc n) => "-" ++ Text.decimal (n + 1)
  | .inexact text => text

mutual

def render : Json → String
  | .null => "null"
  | .bool true => "true"
  | .bool false => "false"
  | .number n => n.render
  | .string text => quote text
  | .array items => "[" ++ separated (renderItems items) ++ "]"
  | .object members => "\x7b" ++ separated (renderMembers members) ++ "\x7d"

def renderItems : List Json → List String
  | [] => []
  | item :: rest => item.render :: renderItems rest

def renderMembers : List (String × Json) → List String
  | [] => []
  | (name, value) :: rest => (quote name ++ ":" ++ value.render) :: renderMembers rest

end

end Rescan.Json
