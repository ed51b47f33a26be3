import Workbench.Url.Address
import Workbench.Url.Domain
import Workbench.Url.Percent

/-!
# URLs

A URL in its parts. The parts hold text that is already encoded, so the text of a URL is made by
putting the parts together again.
-/

namespace Workbench

/-- Where the resources of a URL are served. -/
inductive UrlHost where
  /-- A name; empty when the URL has an authority that names nobody. -/
  | domain (name : String)
  /-- An IPv4 address as a number. -/
  | ipv4 (address : Nat)
  /-- An IPv6 address in eight pieces. -/
  | ipv6 (pieces : List Nat)
deriving DecidableEq, Repr

namespace UrlHost

/-- The host as it stands in a URL. -/
def text : UrlHost → String
  | domain name => name
  | ipv4 address => Url.ipv4Text address
  | ipv6 pieces => "[" ++ Url.Ipv6.text pieces ++ "]"

end UrlHost

/-- The part of a URL between the two slashes and the path. -/
structure Authority where
  /-- User name. -/
  username : String := ""
  /-- Password. -/
  password : String := ""
  /-- Host. -/
  host : UrlHost
  /-- Port, unless it is the one that the scheme implies. -/
  port : Option Nat := none
deriving DecidableEq, Repr

namespace Authority

/-- The authority as it stands in a URL. -/
def text (authority : Authority) : String :=
  let secret := if authority.password = "" then "" else ":" ++ authority.password
  let user :=
    if authority.username = "" && authority.password = "" then ""
    else authority.username ++ secret ++ "@"
  let port := match authority.port with
    | some number => ":" ++ toString number
    | none => ""
  user ++ authority.host.text ++ port

end Authority

/-- The path of a URL. -/
inductive UrlPath where
  /-- A text that has no segments, as in `mailto:` addresses. -/
  | rootless (text : String)
  /-- Segments, each after a slash. The last one is empty when the path ends with a slash. -/
  | segments (names : List String)
deriving DecidableEq, Repr

namespace UrlPath

/-- The path as it stands in a URL. -/
def text : UrlPath → String
  | rootless text => text
  | segments names => String.join (names.map ("/" ++ ·))

end UrlPath

/-- A URL in its parts. -/
structure Url where
  /-- Scheme in lowercase. -/
  scheme : String
  /-- Authority, when there is one. -/
  authority : Option Authority
  /-- Path. -/
  path : UrlPath
  /-- Text after the question mark. -/
  query : Option String
  /-- Text after the number sign. -/
  fragment : Option String
deriving DecidableEq, Repr

namespace Url

/-- The path has no segments, so that nothing can be resolved against the URL. -/
def isRootless (url : Url) : Bool :=
  match url.path with
  | .rootless _ => true
  | .segments _ => false

/-- The part after the scheme. Without an authority, a path that starts with two slashes gets a dot
in front, so that it does not read as an authority. -/
def hierarchyText (url : Url) : String :=
  match url.authority, url.path with
  | some authority, path => "//" ++ authority.text ++ path.text
  | none, .segments ("" :: second :: more) =>
    "/." ++ (UrlPath.segments ("" :: second :: more)).text
  | none, path => path.text

/-- The URL as text. -/
def text (url : Url) : String :=
  let query := match url.query with
    | some query => "?" ++ query
    | none => ""
  let fragment := match url.fragment with
    | some fragment => "#" ++ fragment
    | none => ""
  url.scheme ++ ":" ++ url.hierarchyText ++ query ++ fragment

instance : ToString Url := ⟨text⟩

end Url
end Workbench
