import Rescan.Net.Ipv6

/-! # URLs

A URL has a scheme, for most schemes an authority with a host, a path, and maybe a query and a
fragment. All parts are kept in the form in which they are written, with percent signs where
characters are encoded. The text of a URL is written without the default port of its scheme.
-/

namespace Rescan

namespace Url

/-- Why a text is no URL. -/
inductive Fault where
  /-- A text without a scheme, and nothing that it could be relative to. -/
  | relativeWithoutBase
  /-- A text without a scheme, relative to a URL whose path is not made of segments. -/
  | relativeToOpaque
  | emptyHost
  | invalidPort
  | invalidIpv4
  | invalidIpv6
  /-- A host that is no domain name. -/
  | invalidDomain
  /-- A character that the name of a host must not contain. -/
  | invalidHostCharacter
  deriving DecidableEq, Repr

def Fault.message : Fault → String
  | .relativeWithoutBase => "relative URL without a base"
  | .relativeToOpaque => "relative URL with a cannot-be-a-base base"
  | .emptyHost => "empty host"
  | .invalidPort => "invalid port number"
  | .invalidIpv4 => "invalid IPv4 address"
  | .invalidIpv6 => "invalid IPv6 address"
  | .invalidDomain => "invalid international domain name"
  | .invalidHostCharacter => "invalid domain character"

/-- The host of an authority. -/
inductive Host where
  /-- A name; the empty name where a scheme allows it. -/
  | name (text : String)
  | ipv4 (ip : Net.Ipv4)
  | ipv6 (ip : Net.Ipv6)
  deriving DecidableEq, Repr

def Host.render : Host → String
  | .name text => text
  | .ipv4 ip => ip.render
  | .ipv6 ip => "[" ++ ip.renderHex ++ "]"

/-- The path of a URL. -/
inductive Path where
  /-- A path that is not made of segments. No URL can be relative to it. -/
  | whole (text : String)
  /-- Segments, each written after a slash. -/
  | segments (list : List String)
  deriving DecidableEq, Repr

def Path.render : Path → String
  | .whole text => text
  | .segments list => String.join (list.map ("/" ++ ·))

end Url

/-- A parsed URL. -/
structure Url where
  scheme : String
  username : String := ""
  password : String := ""
  host : Option Url.Host := none
  port : Option UInt16 := none
  path : Url.Path
  query : Option String := none
  fragment : Option String := none
  deriving DecidableEq, Repr

namespace Url

/-- The schemes whose URLs have a host and default ports. -/
def defaultPort? : String → Option UInt16
  | "http" | "ws" => some 80
  | "https" | "wss" => some 443
  | "ftp" => some 21
  | _ => none

/-- A scheme whose URLs follow the rules for hosts on a network or for files. -/
def isSpecial (scheme : String) : Bool :=
  scheme == "file" || (defaultPort? scheme).isSome

/-- The user name and the password before a host. -/
def userInfo (url : Url) : String :=
  if url.username.isEmpty && url.password.isEmpty then ""
  else
    url.username ++ (if url.password.isEmpty then "" else ":" ++ url.password) ++ "@"

/-- The part of a URL between its scheme and its path. Without a host, a path that begins with
two slashes is set apart. -/
def authority (url : Url) : String :=
  match url.host with
  | some host =>
    let port := match url.port with
      | some port => ":" ++ Text.decimal port.toNat
      | none => ""
    "//" ++ url.userInfo ++ host.render ++ port
  | none =>
    match url.path with
    | .segments ("" :: _ :: _) => "/."
    | _ => ""

def renderWithoutFragment (url : Url) : String :=
  let query := match url.query with
    | some query => "?" ++ query
    | none => ""
  url.scheme ++ ":" ++ url.authority ++ url.path.render ++ query

def render (url : Url) : String :=
  match url.fragment with
  | some fragment => url.renderWithoutFragment ++ "#" ++ fragment
  | none => url.renderWithoutFragment

end Url

end Rescan
