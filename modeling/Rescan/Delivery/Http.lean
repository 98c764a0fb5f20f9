import Rescan.Delivery.Fault
import Rescan.Delivery.Request
import Rescan.Settings.Basic
import Rescan.Topology.Target
import Rescan.Url.Reader

/-! # Delivery over HTTP

A scan request is posted to the URL that the scan path leads to from the endpoint of the
target. What carries the post is a transport, which tells how the post was answered. Only an
answer with a status of success delivers the request; its body is not looked at.
-/

namespace Rescan.Delivery

/-- How requests are posted. -/
structure Courier where
  scanPath : String := "/Scan/ScheduleKubernetesResourceScan"
  /-- The token for targets without a token of their own. -/
  token : Option String := none
  deriving DecidableEq, Repr, Inhabited

/-- One post, as it is sent. -/
structure Post where
  url : Url
  /-- The bearer token, if there is one. -/
  token : Option String
  /-- User name and password that stood in the URL. -/
  credentials : Option (String × String)
  body : String
  deriving DecidableEq, Repr

/-- What becomes of a post. -/
inductive Reply where
  /-- An answer with a status; the body is absent when it breaks off. -/
  | answered (status : Nat) (body : Option (List UInt8))
  /-- The connection ends without an answer. -/
  | dropped
  /-- No answer ever comes. -/
  | silent
  /-- No connection can be made; nothing is sent. -/
  | refused
  deriving DecidableEq, Repr

/-- What carries posts. A transport may follow redirections to other URLs; its reply is what comes
back in the end. -/
abbrev Transport := Post → Reply

/-- The transport that never makes a connection. -/
def Transport.unconnected : Transport := fun _ => .refused

namespace Courier

def ofSettings (settings : Settings.Dispatch) : Courier :=
  { scanPath := settings.scanPath, token := settings.token }

/-- The URL that a request to a target is posted to. -/
def urlFor (courier : Courier) (target : Topology.Target) : Except Fault Url :=
  match target.endpoint.join courier.scanPath with
  | .ok url => .ok url
  | .error fault => .error (.invalidUrl (target.endpoint.render ++ ": " ++ fault.message))

/-- The token that goes with a post: that of the target, else that of the courier. -/
def tokenFor (courier : Courier) (target : Topology.Target) : Option String :=
  target.token <|> courier.token

end Courier

/-- Whether a token can stand in a header: it holds no control character but the tab. -/
def isHeaderText (token : String) : Bool :=
  token.toList.all fun c => c == '\t' || (0x20 ≤ c.toNat && c.toNat != 0x7F)

/-- The characters that a host may have in a URL but not in a request. -/
def unsendable : List Char := ['"', '\x60', '\x7b', '\x7d']

/-- Whether a URL can be sent to: it is one of the web and its host has no unusual character. -/
def isSendable (url : Url) : Bool :=
  (url.scheme == "http" || url.scheme == "https") &&
    match url.host with
    | some (.name text) => text.toList.all fun c => !unsendable.contains c
    | _ => true

/-- A network fault that names a URL. -/
def faultFor (reason : String) (url : Url) : Fault :=
  .network (reason ++ " for url (" ++ url.render ++ ")")

/-- The outcome of a reply to a post to the given URL. -/
def outcome (url : Url) : Reply → Except Fault Unit
  | .answered status body =>
    if 200 ≤ status ∧ status < 300 then .ok ()
    else .error (.status status ((body.map Text.Utf8.decodeLossy).getD ""))
  | .dropped | .refused => .error (faultFor "error sending request" url)
  | .silent => .error .timeout

/-- The post of a request to a target, unless it cannot be made. -/
def Courier.post (courier : Courier) (target : Topology.Target) (request : Request) :
    Except Fault Post := do
  let url ← courier.urlFor target
  let token := courier.tokenFor target
  if !token.all isHeaderText then throw (.network "builder error")
  let bare := { url with username := "", password := "" }
  if !isSendable url then throw (faultFor "builder error" bare)
  return {
    url := bare
    token
    credentials :=
      if url.username.isEmpty && url.password.isEmpty then none
      else some (url.username, url.password)
    body := request.toJson }

/-- Delivers a request to a target. The posts that were sent come with the outcome; what the
transport sends on its own to follow a redirection is not among them. -/
def Courier.deliver (courier : Courier) (transport : Transport) (target : Topology.Target)
    (request : Request) : List Post × Except Fault Unit :=
  match courier.post target request with
  | .error fault => ([], .error fault)
  | .ok post =>
    let reply := transport post
    (if reply = .refused then [] else [post], outcome post.url reply)

end Rescan.Delivery
