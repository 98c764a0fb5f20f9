import Rescan.Toml.Scalar
import Rescan.Toml.Text

/-! # Reading TOML documents

A document is read as a list of statements, one to a line. Values nest to a limited depth, and
so do the paths of keys.
-/

namespace Rescan.Toml

/-- A character of a key without quotation marks. -/
def isBareKeyChar (c : Char) : Bool := c.isAlphanum || c == '_' || c == '-'

/-- Reads one part of a key with the blanks around it. -/
def keyPart? (input : List Char) : Option (String × List Char) :=
  let start := skipBlanks input
  match lineText? start with
  | some (cs, rest) => some (String.ofList cs, skipBlanks rest)
  | none =>
    let bare := start.takeWhile isBareKeyChar
    if bare.isEmpty then none
    else some (String.ofList bare, skipBlanks (start.dropWhile isBareKeyChar))

/-- Reads at most `room` parts of a key with dots between them. -/
def keyParts? : (room : Nat) → (input : List Char) → Option (List String × List Char)
  | 0, _ => none
  | room + 1, input => do
    let (part, rest) ← keyPart? input
    match rest with
    | '.' :: more =>
      let (parts, after) ← keyParts? room more
      return (part :: parts, after)
    | _ => return ([part], rest)

/-- The number of parts that a key may have. -/
def maxParts : Nat := 79

/-- The depth to which lists and tables may nest in a value. -/
def maxDepth : Nat := 79

def key? (input : List Char) : Option (List String × List Char) := keyParts? maxParts input

/-- The input without blanks, line ends and comments at its beginning. -/
def skipFiller (inComment : Bool) : List Char → List Char
  | [] => []
  | '\r' :: '\n' :: rest => skipFiller false rest
  | '\n' :: rest => skipFiller false rest
  | c :: rest =>
    if inComment then if isLineChar c then skipFiller true rest else c :: rest
    else if c == '#' then skipFiller true rest
    else if isBlank c then skipFiller false rest
    else c :: rest

/-- What follows the end of a line, before which a comment may stand. -/
def afterLine? (input : List Char) : Option (List Char) :=
  let rest := match skipBlanks input with
    | '#' :: comment => comment.dropWhile isLineChar
    | other => other
  match rest with
  | [] => some []
  | '\n' :: more => some more
  | '\r' :: '\n' :: more => some more
  | _ => none

/-- A table under construction. -/
inductive Node where
  /-- A value, which nothing can be added to. -/
  | leaf (value : Value)
  /-- A table. It is open to keys with dots if it was made by such a key, and to a header if it
  was made by a longer header alone. -/
  | table (byHeader byDots : Bool) (entries : List (String × Node))
  /-- The tables of a list, the last one first. -/
  | tables (list : List (List (String × Node)))

/-- The entries with one changed or added. -/
def setEntry (name : String) (node : Node) : List (String × Node) → List (String × Node)
  | [] => [(name, node)]
  | (other, old) :: rest =>
    if other = name then (name, node) :: rest else (other, old) :: setEntry name node rest

/-- Adds a value at a path of dots. No value may be there, and the table that the value is added
to must have been made by dots; before it tables that no header opened may be passed through. -/
def addByDots (value : Value) :
    List String → List (String × Node) → Option (List (String × Node))
  | [], _ => none
  | [name], entries =>
    match entries.lookup name with
    | none => some (entries ++ [(name, .leaf value)])
    | some _ => none
  | name :: next :: path, entries =>
    match entries.lookup name with
    | none =>
      (addByDots value (next :: path) []).map fun inner =>
        entries ++ [(name, .table false true inner)]
    | some (.table false byDots inner) =>
      if byDots || !path.isEmpty then
        (addByDots value (next :: path) inner).map fun inner =>
          setEntry name (.table false byDots inner) entries
      else none
    | some (.tables (last :: others)) =>
      if path.isEmpty then none
      else
        (addByDots value (next :: path) last).map fun last =>
          setEntry name (.tables (last :: others)) entries
    | some _ => none

/-- Changes the entries of the table that a path of headers leads to; of a list it is the last
table. Missing tables are made. -/
def changeAt (change : List (String × Node) → Option (List (String × Node))) :
    List String → List (String × Node) → Option (List (String × Node))
  | [], entries => change entries
  | name :: path, entries =>
    match entries.lookup name with
    | none =>
      (changeAt change path []).map fun inner => entries ++ [(name, .table false false inner)]
    | some (.table byHeader byDots inner) =>
      (changeAt change path inner).map fun inner =>
        setEntry name (.table byHeader byDots inner) entries
    | some (.tables (last :: others)) =>
      (changeAt change path last).map fun last => setEntry name (.tables (last :: others)) entries
    | some _ => none

/-- Opens a table for entries. A table is opened once only, and none that a key made. -/
def openTable (name : String) (entries : List (String × Node)) : Option (List (String × Node)) :=
  match entries.lookup name with
  | none => some (entries ++ [(name, .table true false [])])
  | some (.table false false inner) => some (setEntry name (.table true false inner) entries)
  | some _ => none

def addTable (name : String) (entries : List (String × Node)) : Option (List (String × Node)) :=
  match entries.lookup name with
  | none => some (entries ++ [(name, .tables [[]])])
  | some (.tables list) => some (setEntry name (.tables ([] :: list)) entries)
  | some _ => none

mutual

def Node.toValue : Node → Value
  | .leaf value => value
  | .table _ _ entries => .table (entryValues entries)
  | .tables list => .list (tableValues list).reverse

def entryValues : List (String × Node) → List (String × Value)
  | [] => []
  | (name, node) :: rest => (name, node.toValue) :: entryValues rest

def tableValues : List (List (String × Node)) → List Value
  | [] => []
  | entries :: rest => .table (entryValues entries) :: tableValues rest

end

/-- The table of entries with their paths. -/
def tableOf? (entries : List (List String × Value)) : Option Value :=
  (entries.foldlM (fun nodes (path, value) => addByDots value path nodes) []).map fun nodes =>
    .table (entryValues nodes)

mutual

/-- Reads a value in which lists and tables nest to the given depth. -/
def value? (depth : Nat) (input : List Char) : Option (Value × List Char) :=
  match depth, input with
  | _, '"' :: _ | _, '\'' :: _ => (text? input).map fun (cs, rest) => (.text cs, rest)
  | 0, _ => scalar input
  | depth + 1, '[' :: rest =>
    (items? depth (rest.length + 1) rest).map fun (values, after) => (.list values, after)
  | depth + 1, '\x7b' :: rest =>
    match skipBlanks rest with
    | '\x7d' :: after => some (.table [], after)
    | start => do
      let (entries, after) ← members? depth (rest.length + 1) start
      let table ← tableOf? entries
      return (table, after)
  | _, _ => scalar input
termination_by (depth, 0)

/-- Reads the values of a list and its closing bracket. -/
def items? (depth fuel : Nat) (input : List Char) : Option (List Value × List Char) :=
  match fuel, skipFiller false input with
  | 0, _ => none
  | _, ']' :: after => some ([], after)
  | fuel + 1, start => do
    let (value, rest) ← value? depth start
    match skipFiller false rest with
    | ',' :: more =>
      let (values, after) ← items? depth fuel more
      return (value :: values, after)
    | ']' :: after => return ([value], after)
    | _ => none
termination_by (depth, fuel)

/-- Reads the members of a table on one line and its closing brace. -/
def members? (depth fuel : Nat) (input : List Char) :
    Option (List (List String × Value) × List Char) :=
  match fuel with
  | 0 => none
  | fuel + 1 => do
    let (path, rest) ← key? input
    match rest with
    | '=' :: start =>
      let (value, rest) ← value? depth (skipBlanks start)
      match skipBlanks rest with
      | ',' :: more =>
        let (others, after) ← members? depth fuel more
        return ((path, value) :: others, after)
      | '\x7d' :: after => return ([(path, value)], after)
      | _ => none
    | _ => none
termination_by (depth, fuel)

end

/-- Reads one statement, after which its line must end. -/
def statement? (input : List Char) : Option (Statement × List Char) :=
  match input with
  | '[' :: '[' :: rest => do
    let (path, rest) ← key? rest
    match rest with
    | ']' :: ']' :: after => return (.listHeader path, after)
    | _ => none
  | '[' :: rest => do
    let (path, rest) ← key? rest
    match rest with
    | ']' :: after => return (.header path, after)
    | _ => none
  | _ => do
    let (path, rest) ← key? input
    match rest with
    | '=' :: start =>
      let (value, after) ← value? maxDepth (skipBlanks start)
      return (.entry path value, after)
    | _ => none

/-- Reads the statements of a document; `fuel` bounds their number. -/
def statements? : (fuel : Nat) → (input : List Char) → Option (List Statement)
  | 0, _ => none
  | fuel + 1, input =>
    match skipFiller false input with
    | [] => some []
    | start => do
      let (statement, rest) ← statement? start
      let next ← afterLine? rest
      let others ← statements? fuel next
      return statement :: others

/-- A document under construction: its entries, and where the next ones belong. -/
structure Draft where
  nodes : List (String × Node) := []
  place : List String := []

def Draft.add? (draft : Draft) : Statement → Option Draft
  | .header path =>
    match path.getLast? with
    | none => none
    | some name => (changeAt (openTable name) path.dropLast draft.nodes).map (⟨·, path⟩)
  | .listHeader path =>
    match path.getLast? with
    | none => none
    | some name => (changeAt (addTable name) path.dropLast draft.nodes).map (⟨·, path⟩)
  | .entry path value =>
    (changeAt (addByDots value path) draft.place draft.nodes).map (⟨·, draft.place⟩)

/-- The entries of a document. A byte order mark at its beginning is passed over. -/
def parse? (text : String) : Option (List (String × Value)) := do
  let input := match text.toList with
    | c :: rest => if c.toNat = 0xFEFF then rest else c :: rest
    | [] => []
  let statements ← statements? (input.length + 1) input
  let draft ← statements.foldlM Draft.add? {}
  return entryValues draft.nodes

end Rescan.Toml
