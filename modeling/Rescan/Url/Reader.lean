import Rescan.Url.Host
import Rescan.Url.Segments

/-! # Reading URLs

A text is read as a URL of its own or relative to another URL. Blanks and control characters
around it are passed over, tabs and line ends anywhere. In the schemes with an authority any
number of slashes or backslashes begins it, and a path never is empty.
-/

namespace Rescan.Url

/-- The characters of a text that reading looks at. -/
def significant (text : String) : List Char :=
  let isEdge (c : Char) : Bool := c.toNat ≤ 0x20
  let trimmed := ((text.toList.dropWhile isEdge).reverse.dropWhile isEdge).reverse
  trimmed.filter fun c => c != '\t' && c != '\n' && c != '\r'

/-- A text cut at the first of a character. Without that character there is no second part. -/
def cutAt (c : Char) (cs : List Char) : List Char × Option (List Char) :=
  match cs.dropWhile (· != c) with
  | [] => (cs, none)
  | _ :: after => (cs.takeWhile (· != c), some after)

/-- A text as it is read: what precedes the query, the query and the fragment. -/
structure Parts where
  body : List Char
  query : Option (List Char)
  fragment : Option (List Char)
  deriving DecidableEq, Repr

def Parts.ofChars (cs : List Char) : Parts :=
  let (rest, fragment) := cutAt '#' cs
  let (body, query) := cutAt '?' rest
  ⟨body, query, fragment⟩

/-- The written form of a query. -/
def writeQuery (scheme : String) (query : Option (List Char)) : Option String :=
  query.map fun cs =>
    String.ofList (Percent.encode
      (if isSpecial scheme then Percent.specialQuerySet else Percent.querySet) cs)

/-- The written form of a fragment. -/
def writeFragment (fragment : Option (List Char)) : Option String :=
  fragment.map fun cs => String.ofList (Percent.encode Percent.fragmentSet cs)

/-- Whether a character may stand in a scheme after its first letter. -/
def isSchemeChar (c : Char) : Bool := c.isAlphanum || c == '+' || c == '-' || c == '.'

/-- The scheme, in lower case, that a text begins with, and what follows its colon. -/
def scheme? (cs : List Char) : Option (String × List Char) :=
  match cs.dropWhile isSchemeChar with
  | ':' :: rest =>
    let name := cs.takeWhile isSchemeChar
    if name.head?.any Char.isAlpha then some (String.ofList (name.map Char.toLower), rest)
    else none
  | _ => none

/-- A slash, or in a special scheme a backslash. -/
def isSlash (special : Bool) (c : Char) : Bool := c == '/' || (special && c == '\\')

def isAnySlash (c : Char) : Bool := c == '/' || c == '\\'

def credentials (cs : List Char) : String × String :=
  let (name, word) := cutAt ':' cs
  let write (cs : List Char) := String.ofList (Percent.encode Percent.userSet cs)
  (write name, write (word.getD []))

/-- The user information before the last at sign of an authority, if there is one, and the text
after it. -/
def cutUserInfo (special : Bool) (cs : List Char) : Option (List Char) × List Char :=
  let authority := cs.takeWhile fun c => !isSlash special c
  let rest := cs.dropWhile fun c => !isSlash special c
  match authority.reverse.dropWhile (· != '@') with
  | [] => (none, cs)
  | _ :: before => (some before.reverse, (authority.reverse.takeWhile (· != '@')).reverse ++ rest)

/-- The text of a host, which ends at a slash or at a colon outside brackets. -/
def cutHost (special : Bool) (inBrackets : Bool) : List Char → List Char × List Char
  | [] => ([], [])
  | c :: rest =>
    if isSlash special c || (c == ':' && !inBrackets) then ([], c :: rest)
    else
      let inside := if c = '[' then true else if c = ']' then false else inBrackets
      let (host, after) := cutHost special inside rest
      (c :: host, after)

/-- The port after a host, unless it is the default of the scheme. -/
def readPort (scheme : String) (cs : List Char) : Except Fault (Option UInt16 × List Char) :=
  let digits := cs.takeWhile Char.isDigit
  let rest := cs.dropWhile Char.isDigit
  let n := Text.digitsValue 10 digits
  if 0xFFFF < n then .error .invalidPort
  else if rest.head?.any fun c => !isAnySlash c then .error .invalidPort
  else if digits.isEmpty || defaultPort? scheme == some (UInt16.ofNat n) then .ok (none, rest)
  else .ok (some (UInt16.ofNat n), rest)

def pathAfterAuthority (scheme : String) (cs : List Char) : Path :=
  match cs with
  | [] => if isSpecial scheme then .segments [""] else .segments []
  | c :: rest =>
    if isSlash (isSpecial scheme) c then pathFrom scheme [] rest else pathFrom scheme [] cs

def readAuthority (scheme : String) (cs : List Char) : Except Fault Url := do
  let special := isSpecial scheme
  let (userInfo, rest) := cutUserInfo special cs
  if userInfo == some [] && rest.head?.any (isSlash special) then throw .emptyHost
  let (username, password) := credentials (userInfo.getD [])
  let (hostText, rest) := cutHost special false rest
  if hostText.isEmpty && (special || rest.head? == some ':') then throw .emptyHost
  let host ← if special then networkHost hostText else otherHost hostText
  let (port, rest) ← match rest with
    | ':' :: digits => readPort scheme digits
    | _ => .ok (none, rest)
  if host == .name "" && !(username.isEmpty && password.isEmpty) then throw .emptyHost
  return { scheme, username, password, host := some host, port,
           path := pathAfterAuthority scheme rest }

/-- Whether a text begins like the letter of a drive that is a whole segment. -/
def startsWithDrive : List Char → Bool
  | letter :: mark :: rest =>
    isDriveLetter [letter, mark] && rest.head?.all isAnySlash
  | _ => false

/-- The host of a file and the path after it. The name `localhost` stands for no host. -/
def readFileHost (cs : List Char) : Except Fault Url := do
  let hostText := cs.takeWhile fun c => !isAnySlash c
  let rest := cs.dropWhile fun c => !isAnySlash c
  let withoutHost (path : List Char) : Url :=
    { scheme := "file", host := some (.name ""), path := pathFrom "file" [] path }
  if hostText.isEmpty || isDriveLetter hostText then return withoutHost cs
  let host ← networkHost hostText
  if host == .name "localhost" then return withoutHost rest
  let path := pathAfterAuthority "file" rest
  let hasDrive := match path with
    | .segments (first :: _) => isDriveLetter first.toList
    | _ => false
  return { scheme := "file", host := some (if hasDrive then .name "" else host), path }

def segmentList (url : Url) : List String :=
  match url.path with
  | .segments list => list
  | .whole _ => []

/-- A file, absolute or relative to another file. -/
def readFile (base : Option Url) (cs : List Char) (query : Option (List Char)) :
    Except Fault Url := do
  let start : Url :=
    { scheme := "file", host := some (.name ""), path := .segments [""],
      query := writeQuery "file" query }
  match cs with
  | [] =>
    match base with
    | some base =>
      let query := if query.isNone then base.query else writeQuery "file" query
      return { base with query, fragment := none }
    | none => return start
  | c :: rest =>
    if isAnySlash c then
      match rest with
      | d :: more =>
        if isAnySlash d then
          let url ← readFileHost more
          return { url with query := writeQuery "file" query }
        else return { start with path := (below base rest), host := hostOf base rest }
      | [] => return { start with path := (below base rest), host := hostOf base rest }
    else
      match base with
      | some base =>
        if startsWithDrive cs then return { start with path := pathFrom "file" [] cs }
        else
          let segments := base.segmentList
          let kept :=
            if (segments.getLast?.map String.toList).any isDriveLetter then segments
            else segments.dropLast
          return { base with
            path := pathFrom "file" kept cs, query := writeQuery "file" query,
            fragment := none }
      | none => return { start with path := pathFrom "file" [] cs }
where
  /-- The first segment of the base, if it is the letter of a drive. -/
  driveOf (base : Option Url) (cs : List Char) : Option String :=
    if startsWithDrive cs then none
    else
      match base.bind (·.segmentList.head?) with
      | some first => if isDriveLetter first.toList then some first else none
      | none => none
  /-- The path of a text with one slash at its beginning. -/
  below (base : Option Url) (cs : List Char) : Path :=
    pathFrom "file" (driveOf base cs).toList cs
  /-- The host for a text with one slash at its beginning. -/
  hostOf (base : Option Url) (cs : List Char) : Option Host :=
    if startsWithDrive cs || (driveOf base cs).isSome then some (.name "")
    else (base.bind (·.host)) <|> some (.name "")

/-- A text without a scheme, relative to a URL whose path is made of segments. -/
def readRelative (base : Url) (cs : List Char) (query : Option (List Char)) :
    Except Fault Url := do
  match cs with
  | [] =>
    let query := if query.isNone then base.query else writeQuery base.scheme query
    return { base with query, fragment := none }
  | c :: rest =>
    if isAnySlash c then
      let slashes := (cs.takeWhile isAnySlash).length
      if slashes < 2 then
        return { base with
          path := pathFrom base.scheme [] rest, query := writeQuery base.scheme query,
          fragment := none }
      else
        let after := match cs with
          | '/' :: '/' :: after => after
          | _ => cs.drop slashes
        let url ← readAuthority base.scheme after
        return { url with query := writeQuery base.scheme query }
    else
      return { base with
        path := pathFrom base.scheme base.segmentList.dropLast cs,
        query := writeQuery base.scheme query, fragment := none }

/-- A text with a scheme that has no authority of its own kind. -/
def readOther (scheme : String) (cs : List Char) (query : Option (List Char)) :
    Except Fault Url := do
  let url ← match cs with
    | '/' :: '/' :: rest => readAuthority scheme rest
    | '/' :: rest => .ok { scheme, path := pathFrom scheme [] rest : Url }
    | _ => .ok { scheme, path := .whole (String.ofList (Percent.encode [] cs)) : Url }
  return { url with query := writeQuery scheme query }

def readWithScheme (base : Option Url) (scheme : String) (cs : List Char)
    (query : Option (List Char)) : Except Fault Url :=
  if scheme == "file" then readFile (base.filter (·.scheme == "file")) cs query
  else if isSpecial scheme then
    let slashes := (cs.takeWhile isAnySlash).length
    let absolute : Except Fault Url := do
      let url ← readAuthority scheme (cs.drop slashes)
      return { url with query := writeQuery scheme query }
    match base with
    | some base =>
      if slashes < 2 && base.scheme == scheme then readRelative base cs query else absolute
    | none => absolute
  else readOther scheme cs query

def readWithoutScheme (base : Option Url) (parts : Parts) : Except Fault Url :=
  match base with
  | none => .error .relativeWithoutBase
  | some base =>
    match base.path with
    | .whole _ =>
      if parts.body.isEmpty && parts.query.isNone && parts.fragment.isSome then
        .ok { base with fragment := none }
      else .error .relativeToOpaque
    | .segments _ =>
      if base.scheme == "file" then readFile (some base) parts.body parts.query
      else readRelative base parts.body parts.query

/-- The URL that a text stands for, beside a URL that it may be relative to. -/
def read (base : Option Url) (text : String) : Except Fault Url := do
  let parts := Parts.ofChars (significant text)
  let url ← match scheme? parts.body with
    | some (scheme, rest) => readWithScheme base scheme rest parts.query
    | none => readWithoutScheme base parts
  return { url with fragment := writeFragment parts.fragment }

def parse (text : String) : Except Fault Url := read none text

/-- The URL that a text stands for relative to another one. -/
def join (base : Url) (text : String) : Except Fault Url := read (some base) text

end Rescan.Url
