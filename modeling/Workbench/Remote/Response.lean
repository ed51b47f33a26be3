import Workbench.FileSystem.Error
import Workbench.Json.Cursor
import Workbench.Url.Basic

/-!
# Answers from a server

A server answers a request with a status and a body, or the request fails. Every way in which
getting hold of remote content can fail is a `FetchError`.
-/

namespace Workbench

/-- What a server sends back. -/
structure Response where
  /-- Status number. -/
  status : Nat
  /-- Content as text. -/
  body : String
deriving DecidableEq, Repr

/-- Why remote content is not to be had. -/
inductive FetchError where
  /-- The request was not answered. -/
  | transport (url : Url) (message : String)
  /-- The answer reports a failure. -/
  | status (url : Url) (status : Nat)
  /-- The manifest of a package cannot be read. -/
  | manifest (package : String) (failure : Json.Failure)
  /-- The manifest of a package names no type declarations. -/
  | missingTypes (package : String)
  /-- The name or the path cannot be part of a URL or of a file path. -/
  | invalidReference (reference : String)
  /-- The content cannot be put into the file system. -/
  | storage (cause : FileError)
deriving DecidableEq

namespace FetchError

/-- The kind of failure. -/
def kind : FetchError → String
  | transport _ _ => "Transport"
  | status _ _ => "Status"
  | manifest _ _ => "Manifest"
  | missingTypes _ => "MissingTypes"
  | invalidReference _ => "InvalidReference"
  | storage cause => "Vfs." ++ cause.kind

/-- The wording of the failure. -/
def message : FetchError → String
  | transport url reason => "request to " ++ url.text ++ " failed: " ++ reason
  | status url number => "request to " ++ url.text ++ " returned HTTP " ++ toString number
  | manifest package failure =>
    "malformed manifest for package '" ++ package ++ "': " ++ failure.message
  | missingTypes package => "package '" ++ package ++ "' does not declare a \"types\" entry"
  | invalidReference reference => "invalid package reference '" ++ reference ++ "'"
  | storage cause => "cannot store fetched content: " ++ cause.message

end FetchError

namespace Response

/-- The status reports success. -/
def isSuccess (response : Response) : Bool := 200 ≤ response.status && response.status < 300

/-- The answer itself when it reports success. -/
def accept (response : Response) (url : Url) : Except FetchError Response :=
  if response.isSuccess then .ok response else .error (.status url response.status)

end Response

/-- What becomes of a request. -/
abbrev Reply := Except FetchError Response

/-- The content that a request for the URL brought. -/
def Reply.content (reply : Reply) (url : Url) : Except FetchError String := do
  let response ← reply
  return (← response.accept url).body

end Workbench
