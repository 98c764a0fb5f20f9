import Rescan.Attribution
import Rescan.Json.Reader
import Rescan.Json.Writer
import Rescan.Resource.Key

/-! # Scan requests

A scan request names one object in four ways, as its key and as the parts of the key, and
carries the attribution of the scan. Its JSON form is an object of five texts in a fixed order.
Reading accepts the members in any order and passes over other members; it also accepts a list
of exactly the five texts.
-/

namespace Rescan.Delivery

/-- The request to scan one object. -/
structure Request where
  resourceKey : String
  kind : String
  ns : String
  name : String
  managedBy : String
  deriving DecidableEq, Repr, Inhabited

namespace Request

/-- The request to scan the object with the given key. -/
def ofKey (key : Resource.Key) (attribution : Attribution) : Request where
  resourceKey := key.render
  kind := key.kind
  ns := key.ns
  name := key.name
  managedBy := attribution.tag

/-- The names of the members, in the order in which they are written. -/
def fieldNames : List String := ["resourceKey", "kind", "namespace", "name", "managedBy"]

/-- The texts of the members, in the order of their names. -/
def fields (request : Request) : List String :=
  [request.resourceKey, request.kind, request.ns, request.name, request.managedBy]

def ofFields? : List String → Option Request
  | [resourceKey, kind, ns, name, managedBy] => some ⟨resourceKey, kind, ns, name, managedBy⟩
  | _ => none

def toJson (request : Request) : String :=
  Json.writeTexts (fieldNames.zip request.fields)

/-- The members of a JSON object that a request is made of. A member of another name is passed
over; a name that occurs twice or whose value is no text is refused. -/
def objectFields? (first : Bool) (found : List (String × String)) (input : List Char) :
    Option (List (String × String) × List Char) :=
  have h₀ := Json.length_skipSpace_le input
  match h : Json.skipSpace input with
  | [] => none
  | c :: rest =>
    have h₁ : rest.length < input.length := by
      rw [h] at h₀
      exact Nat.lt_of_succ_le h₀
    if c = '\x7d' then some (found, rest)
    else
      let start? : Option { start : List Char // start.length ≤ input.length } :=
        if first then some ⟨c :: rest, h₁⟩
        else if c = ',' then
          some ⟨Json.skipSpace rest, Nat.le_trans (Json.length_skipSpace_le rest)
            (Nat.le_of_lt h₁)⟩
        else none
      match start? with
      | none | some ⟨[], _⟩ => none
      | some ⟨mark :: body, hs⟩ =>
        if mark = '"' then
          have h₂ : body.length < input.length := hs
          match Json.textBody .text body with
          | .error _ => none
          | .ok (name, ⟨rest₁, h₃⟩) =>
            have h₄ := Json.length_skipSpace_le rest₁
            match hm : Json.skipSpace rest₁ with
            | [] => none
            | colon :: more =>
              have h₅ : more.length < rest₁.length := by
                rw [hm] at h₄
                exact Nat.lt_of_succ_le h₄
              let name := String.ofList name
              if colon ≠ ':' then none
              else if fieldNames.contains name then
                if (found.lookup name).isSome then none
                else
                  match Json.value .text more with
                  | .ok (.string text, ⟨rest₂, h₆⟩) =>
                    have : rest₂.length < input.length := by omega
                    objectFields? false ((name, text) :: found) rest₂
                  | _ => none
              else
                match Json.value .skipped more with
                | .ok (_, ⟨rest₂, h₆⟩) =>
                  have : rest₂.length < input.length := by omega
                  objectFields? false found rest₂
                | .error _ => none
        else none
termination_by input.length

def listFields? : Json → Option (List String)
  | .array items => items.mapM fun
    | .string text => some text
    | _ => none
  | _ => none

/-- The request that a JSON text stands for, if it stands for one. -/
def ofJson? (text : String) : Option Request :=
  match Json.skipSpace text.toList with
  | '\x7b' :: rest => do
    let (found, after) ← objectFields? true [] rest
    if (Json.skipSpace after).isEmpty then
      let texts ← fieldNames.mapM (found.lookup ·)
      ofFields? texts
    else none
  | _ =>
    match Json.read text with
    | .ok json => listFields? json >>= ofFields?
    | .error _ => none

end Request

end Rescan.Delivery
