import Rescan.Resource.Key

/-! # Changes of objects

An object is known here by its namespace, its name and the name it is generated from. A watch
reports objects as part of a list, as applied or as deleted; from such a report follow the kind
of change and the notice that the rest of the program works on. The start and the end of a list
are reported too and carry no change.
-/

namespace Rescan.Resource

/-- What happened to an object. -/
inductive Change where
  /-- The object is seen for the first time, also in a list. -/
  | create
  /-- The object is modified. -/
  | update
  /-- The object is removed. -/
  | delete
  deriving DecidableEq, Repr

namespace Change

def word : Change → String
  | .create => "create"
  | .update => "update"
  | .delete => "delete"

def ofWord? : String → Option Change
  | "create" => some .create
  | "update" => some .update
  | "delete" => some .delete
  | _ => none

def title : Change → String
  | .create => "Create"
  | .update => "Update"
  | .delete => "Delete"

end Change

/-- The part of an object's metadata that identifies it. -/
structure Metadata where
  ns : Option String := none
  name : Option String := none
  generateName : Option String := none
  deriving DecidableEq, Repr, Inhabited

/-- The name of an object, else the name it is generated from, else nothing. -/
def Metadata.anyName (object : Metadata) : String :=
  (object.name <|> object.generateName).getD ""

/-- A report of a watch about objects of type `α`. -/
inductive WatchEvent (α : Type) where
  /-- A list begins. -/
  | listBegins
  /-- An object of the list. -/
  | listed (object : α)
  /-- The list is complete. -/
  | listEnds
  /-- An object was created or modified. -/
  | applied (object : α)
  /-- An object was removed. -/
  | deleted (object : α)
  deriving DecidableEq, Repr

/-- One change of one object. -/
structure Notice where
  ns : String
  name : String
  change : Change
  deriving DecidableEq, Repr

namespace Notice

def ofObject (object : Metadata) (change : Change) : Notice :=
  ⟨object.ns.getD "", object.anyName, change⟩

/-- The notice that a report of a watch carries, if it carries one. -/
def ofEvent? : WatchEvent Metadata → Option Notice
  | .listBegins | .listEnds => none
  | .listed object => some (ofObject object .create)
  | .applied object => some (ofObject object .update)
  | .deleted object => some (ofObject object .delete)

/-- Creations and modifications warrant a scan, removals never do. -/
def warrantsScan (notice : Notice) : Bool := notice.change != .delete

end Notice

end Rescan.Resource
