import Rescan.Text.Basic
import Rescan.Toml.Basic

/-! # Writing TOML documents

A text is written in the first of four forms that can hold it without an escape, and with
escapes between quotation marks if none can. Texts with line ends are spread over several
lines. Whole numbers are written only if they fit into 64 bits with a sign.
-/

namespace Rescan.Toml

/-- A control character that no form holds without an escape: any but the tab and the line
end. -/
def isControl (c : Char) : Bool :=
  (c.toNat < 0x20 && c != '\t' && c != '\n') || c.toNat == 0x7F

/-- The length of the longest run of a character. -/
def longestRun (mark : Char) : List Char → Nat
  | [] => 0
  | c :: rest => max ((c :: rest).takeWhile (· == mark)).length (longestRun mark rest)

/-- The forms of a text. -/
inductive Form where
  | basic
  | literal
  | multiBasic
  | multiLiteral
  deriving DecidableEq, Repr

def formOf (cs : List Char) : Form :=
  let control := cs.any isControl
  let backslash := cs.contains '\\'
  let lineEnd := cs.contains '\n'
  if !control && !backslash && longestRun '"' cs == 0 && !lineEnd then .basic
  else if !control && longestRun '\'' cs == 0 && !lineEnd then .literal
  else if !control && !backslash && longestRun '"' cs ≤ 2 then .multiBasic
  else if !control && longestRun '\'' cs ≤ 2 then .multiLiteral
  else if lineEnd then .multiBasic
  else .basic

def upperHex (n : Nat) : Char := (Text.digitChar n).toUpper

/-- The characters between quotation marks. So many quotation marks in a row as `most` stand for
themselves, of which `run` have just been written; the next one is escaped. -/
def escaped (most run : Nat) : List Char → List Char
  | [] => []
  | c :: rest =>
    if c = '"' then
      if run < most then '"' :: escaped most (run + 1) rest
      else '\\' :: '"' :: escaped most 0 rest
    else if c = '\x08' then '\\' :: 'b' :: escaped most 0 rest
    else if c = '\t' then '\\' :: 't' :: escaped most 0 rest
    else if c = '\n' ∧ most = 0 then '\\' :: 'n' :: escaped most 0 rest
    else if c = '\x0c' then '\\' :: 'f' :: escaped most 0 rest
    else if c = '\r' then '\\' :: 'r' :: escaped most 0 rest
    else if c = '\\' then '\\' :: '\\' :: escaped most 0 rest
    else if isControl c then
      '\\' :: 'u' :: '0' :: '0' :: upperHex (c.toNat / 16) :: upperHex (c.toNat % 16) ::
        escaped most 0 rest
    else c :: escaped most 0 rest

def triple (mark : Char) : List Char := [mark, mark, mark]

def writeChars (cs : List Char) : List Char :=
  let opening := if cs.contains '\n' then ['\n'] else []
  match formOf cs with
  | .basic => '"' :: (escaped 0 0 cs ++ ['"'])
  | .literal => '\'' :: (cs ++ ['\''])
  | .multiBasic => triple '"' ++ opening ++ escaped 2 0 cs ++ triple '"'
  | .multiLiteral => triple '\'' ++ opening ++ cs ++ triple '\''

def writeText (s : String) : String := String.ofList (writeChars s.toList)

/-- The written form of a list of texts: more than one stand on lines of their own. -/
def writeTexts : List String → String
  | [] => "[]"
  | [s] => "[" ++ writeText s ++ "]"
  | list => "[\n" ++ String.join (list.map fun s => "    " ++ writeText s ++ ",\n") ++ "]"

def writeNat? (n : Nat) : Option String :=
  if n ≤ maxInteger then some (Text.decimal n) else none

def writeFlag (value : Bool) : String := if value then "true" else "false"

/-- A table with its header. Entries without a value are left out. -/
def writeTable (name : String) (entries : List (String × Option String)) : String :=
  "[" ++ name ++ "]\n" ++ String.join (entries.map fun (key, value) =>
    match value with
    | some value => key ++ " = " ++ value ++ "\n"
    | none => "")

end Rescan.Toml
