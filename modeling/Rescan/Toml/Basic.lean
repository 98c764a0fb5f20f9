/-! # TOML values

The values that a TOML document can give to a key. Numbers with a fraction and moments in time
are recognised and kept as they are written.
-/

namespace Rescan.Toml

/-- A value of a TOML document. -/
inductive Value where
  | text (cs : List Char)
  | integer (n : Int)
  | float (written : List Char)
  | flag (value : Bool)
  /-- A date, a time of day, or both. -/
  | moment (written : List Char)
  | list (items : List Value)
  /-- A table with its keys in the order of their first mention. -/
  | table (entries : List (String × Value))
  deriving Repr

instance : Inhabited Value := ⟨.list []⟩

/-- The largest whole number that fits into 64 bits with its sign. -/
def maxInteger : Nat := 9223372036854775807

/-- One statement of a TOML document. -/
inductive Statement where
  /-- The following entries belong to the table at a path. -/
  | header (path : List String)
  /-- The following entries belong to a new table of the list at a path. -/
  | listHeader (path : List String)
  /-- A key, which may be a path of its own, with its value. -/
  | entry (path : List String) (value : Value)
  deriving Repr

end Rescan.Toml
