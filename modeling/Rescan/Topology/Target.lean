import Rescan.Timestamp
import Rescan.Url.Basic

/-! # Targets of scan requests

A target is the endpoint of a scan service, maybe with a token of its own. Its description for
people never shows the token.
-/

namespace Rescan.Topology

/-- Where scan requests of a namespace go. -/
structure Target where
  endpoint : Url
  token : Option String := none
  deriving DecidableEq, Repr

namespace Target

/-- A text between quotation marks, with a backslash before quotation marks and backslashes. -/
def quoted (text : String) : String :=
  "\"" ++ String.join (text.toList.map fun c =>
    if c = '"' ∨ c = '\\' then "\\" ++ String.singleton c else String.singleton c) ++ "\""

def describe (target : Target) (registered : Timestamp) : String :=
  let token := match target.token with
    | some _ => "Some(\"<redacted>\")"
    | none => "None"
  "ScanTarget \x7b endpoint: " ++ quoted target.endpoint.render ++ ", token: " ++ token ++
    ", registered_at: " ++ registered.render ++ " \x7d"

/-- The description of a target on several lines. -/
def describeInLines (target : Target) (registered : Timestamp) : String :=
  let token := match target.token with
    | some _ => "Some(\n        \"<redacted>\",\n    )"
    | none => "None"
  "ScanTarget \x7b\n    endpoint: " ++ quoted target.endpoint.render ++ ",\n    token: " ++ token ++
    ",\n    registered_at: " ++ registered.render ++ ",\n\x7d"

end Target

end Rescan.Topology
