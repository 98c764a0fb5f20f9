/-! # JSON values

A number is kept as an integer when it is written without a fraction and an exponent, and as
the text it is written with otherwise. An object keeps its members in the order in which they
are written, repeated names included.
-/

namespace Rescan

/-- A number of a JSON text. -/
inductive Json.Number where
  /-- A number written without a fraction and an exponent. Minus zero is none. -/
  | integer (value : Int)
  /-- Any other number, as it is written. -/
  | inexact (text : String)
  deriving DecidableEq, Repr

/-- A JSON value. -/
inductive Json where
  | null
  | bool (value : Bool)
  | number (value : Json.Number)
  | string (text : String)
  | array (items : List Json)
  | object (members : List (String × Json))
  deriving Repr

namespace Json

instance : Inhabited Json := ⟨.null⟩

def ofNat (n : Nat) : Json := .number (.integer n)

/-- The value of the last member with the given name. -/
def field? (name : String) : Json → Option Json
  | .object members => (members.reverse.find? fun member => member.1 == name).map (·.2)
  | _ => none

def text? : Json → Option String
  | .string text => some text
  | _ => none

/-- The whole number that a value is, if it is not negative. -/
def nat? : Json → Option Nat
  | .number (.integer (.ofNat n)) => some n
  | _ => none

def flag? : Json → Option Bool
  | .bool value => some value
  | _ => none

/-- The items that a value has; a value that is no list has none. -/
def items : Json → List Json
  | .array items => items
  | _ => []

/-- The members that a value has; a value that is no object has none. -/
def entries : Json → List (String × Json)
  | .object members => members
  | _ => []

end Json

end Rescan
