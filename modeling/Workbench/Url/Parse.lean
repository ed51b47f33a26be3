import Workbench.Url.Basic
import Workbench.Url.PathText

/-!
# Reading URLs

Text becomes a URL on its own (`parse`) or relative to another one (`join`). Both read the text from
left to right: scheme, authority, path, query and fragment. Relative text replaces the parts of the
base from the first one it gives.
-/

namespace Workbench

/-- Why text is no URL. -/
inductive UrlError where
  | emptyHost | invalidDomain | invalidPort | invalidIpv4 | invalidIpv6 | forbiddenCharacter
  | relativeWithoutBase | relativeToRootless
deriving DecidableEq, Repr

namespace UrlError

/-- The wording of the error. -/
def message : UrlError → String
  | emptyHost => "empty host"
  | invalidDomain => "invalid international domain name"
  | invalidPort => "invalid port number"
  | invalidIpv4 => "invalid IPv4 address"
  | invalidIpv6 => "invalid IPv6 address"
  | forbiddenCharacter => "invalid domain character"
  | relativeWithoutBase => "relative URL without a base"
  | relativeToRootless => "relative URL with a cannot-be-a-base base"

end UrlError

namespace Url

/-! ## Hosts -/

/-- Text between brackets, read as an IPv6 address. -/
def bracketed (text : List Char) : Except UrlError UrlHost :=
  if text.getLast? = some ']' then
    match Ipv6.read? text.dropLast with
    | some pieces => .ok (.ipv6 pieces)
    | none => .error .invalidIpv6
  else .error .invalidIpv6

/-- The host of a common scheme. -/
def commonHost (text : List Char) : Except UrlError UrlHost :=
  match text with
  | '[' :: inside => bracketed inside
  | _ =>
    let decoded := String.fromUTF8? ⟨(percentDecode text).toArray⟩
    match decoded.bind fun name => Domain.toAscii? name.toList with
    | none => .error .invalidDomain
    | some [] => .error .emptyHost
    | some name =>
      let parts := Text.pieces '.' name
      if endsInNumber parts then
        match ipv4? parts with
        | some address => .ok (.ipv4 address)
        | none => .error .invalidIpv4
      else .ok (.domain (String.ofList name))

/-- The host of any other scheme. -/
def otherHost (text : List Char) : Except UrlError UrlHost :=
  match text with
  | '[' :: inside => bracketed inside
  | _ =>
    if text.any ("\x00\t\n\r #/:<>?@[\\]^|".toList.contains ·) then .error .forbiddenCharacter
    else .ok (.domain (String.ofList (encode EncodeSet.controls text)))

/-- Splits the text at the end of its host: at a colon outside brackets or at the end of the
authority. -/
def splitHost (kind : SchemeKind) (inside : Bool) : List Char → List Char × List Char
  | [] => ([], [])
  | c :: rest =>
    if (c = ':' && !inside) || kind.endsAuthority c then ([], c :: rest)
    else
      let (host, after) :=
        splitHost kind (if c = '[' then true else if c = ']' then false else inside) rest
      (c :: host, after)

/-- Reads a port after its colon. A port that the scheme implies is left out. -/
def readPort (implied : Option Nat) (text : List Char) :
    Except UrlError (Option Nat × List Char) :=
  let digits := text.takeWhile Char.isDigit
  let rest := text.dropWhile Char.isDigit
  let number := digits.foldl (fun sum c => sum * 10 + (c.toNat - 48)) 0
  let ended := match rest with
    | [] => true
    | c :: _ => c = '/' || c = '\\' || c = '?' || c = '#'
  if 0xFFFF < number || !ended then .error .invalidPort
  else .ok (if digits.isEmpty || some number = implied then none else some number, rest)

/-- Splits the authority off its user name and password, which end with the last at sign. -/
def splitUser (kind : SchemeKind) (text : List Char) :
    Except UrlError (List Char × List Char) :=
  let region := text.takeWhile (!kind.endsAuthority ·)
  let after := text.dropWhile (!kind.endsAuthority ·)
  if region.contains '@' then
    let host := (region.reverse.takeWhile (· ≠ '@')).reverse
    let user := region.take (region.length - host.length - 1)
    if user.isEmpty && host.isEmpty && !after.isEmpty then .error .emptyHost
    else .ok (user, host ++ after)
  else .ok ([], text)

/-- Reads an authority after its two slashes. -/
def readAuthority (scheme : String) (text : List Char) :
    Except UrlError (Authority × List Char) := do
  let kind := SchemeKind.of scheme
  let (user, text) ← splitUser kind text
  let encoded (part : List Char) := String.ofList (encode EncodeSet.userinfo part)
  let username := encoded (user.takeWhile (· ≠ ':'))
  let password := encoded ((user.dropWhile (· ≠ ':')).drop 1)
  let (hostText, rest) := splitHost kind false text
  if hostText.isEmpty && kind = .common then throw .emptyHost
  let host ← if kind.isSpecial then commonHost hostText else otherHost hostText
  let (port, rest) ← match rest with
    | ':' :: after =>
      if hostText.isEmpty then throw .emptyHost
      else readPort (defaultPort? scheme) after
    | _ => pure (none, rest)
  if hostText.isEmpty && !(username = "" && password = "") then throw .emptyHost
  return (⟨username, password, host, port⟩, rest)

/-! ## Query and fragment -/

/-- Puts a URL together from its parts in front and the text of its query and fragment. -/
def withTail (scheme : String) (authority : Option Authority) (path : UrlPath)
    (text : List Char) : Url :=
  let set := if (SchemeKind.of scheme).isSpecial then EncodeSet.specialQuery else EncodeSet.query
  let fragmentOf (text : List Char) : Option String :=
    match text with
    | '#' :: rest => some (String.ofList (encode EncodeSet.fragment rest))
    | _ => none
  match text with
  | '?' :: rest =>
    let query := rest.takeWhile (· ≠ '#')
    ⟨scheme, authority, path, some (String.ofList (encode set query)),
      fragmentOf (rest.dropWhile (· ≠ '#'))⟩
  | _ => ⟨scheme, authority, path, none, fragmentOf text⟩

/-! ## Whole URLs -/

/-- The parts of a URL behind its authority: the path, then the text of query and fragment. -/
def withPath (scheme : String) (authority : Option Authority) (read : PathText × List Char) : Url :=
  withTail scheme authority (.segments read.1.segments) (withoutBreaks read.2)

/-- Reads a path that starts at the root. The slash in front can be left out. -/
def rootPath (kind : SchemeKind) (text : List Char) : PathText × List Char :=
  match text.dropWhile isBreak with
  | [] => PathText.read kind ['/'] []
  | c :: rest => PathText.read kind ['/'] (if kind.separates c then rest else c :: rest)

/-- Reads the path after an authority. Only the common schemes need one. -/
def pathAfterAuthority (kind : SchemeKind) (text : List Char) : PathText × List Char :=
  let isAbsent := match text with
    | [] => true
    | c :: _ => c = '?' || c = '#'
  if isAbsent && !kind.isSpecial then (⟨[], false⟩, text) else rootPath kind text

/-- Reads a URL after the two slashes of its authority. -/
def afterSlashes (scheme : String) (text : List Char) : Except UrlError Url := do
  let (authority, rest) ← readAuthority scheme text
  return withPath scheme (some authority) (pathAfterAuthority (SchemeKind.of scheme) rest)

/-- A slash of either kind. -/
def isSlash (c : Char) : Bool := c = '/' || c = '\\'

/-- The base with the query and the fragment that the text gives instead of its own. The text holds
nothing in front of them. -/
def withNewTail (base : Url) (text : List Char) : Url :=
  match text with
  | [] => { base with fragment := none }
  | '#' :: _ => { withTail base.scheme base.authority base.path text with query := base.query }
  | _ => withTail base.scheme base.authority base.path text

/-- The text gives a query or a fragment at most. -/
def isTail (text : List Char) : Bool :=
  match text with
  | [] => true
  | c :: _ => c = '?' || c = '#'

/-- The text of the directory that relative text is read in. -/
def directoryText (base : Url) : List Char :=
  PathText.directory (SchemeKind.of base.scheme) base.path.text.toList

/-! ### Files -/

/-- An authority that names nobody. -/
def nobody : Authority := { host := .domain "" }

/-- Reads the host of a file URL after its two slashes. A drive letter is part of the path, and the
own machine needs no name. -/
def fileHost (text : List Char) : Except UrlError (Option UrlHost × List Char) := do
  let isHost (c : Char) : Bool := !SchemeKind.endsAuthority .file c
  let name := withoutBreaks (text.takeWhile isHost)
  let rest := text.dropWhile isHost
  if isDrive name then return (none, text)
  else if name.isEmpty then return (none, rest)
  else
    let host ← commonHost name
    return (if host = .domain "localhost" then none else some host, rest)

/-- Reads a file URL after its two slashes. A path from a drive letter is on the own machine. -/
def fileAfterSlashes (text : List Char) : Except UrlError Url := do
  match ← fileHost text with
  | (none, rest) => return withPath "file" (some nobody) (PathText.read .file ['/'] rest)
  | (some host, rest) =>
    let read := rootPath .file rest
    return withPath "file" (some (if read.1.readDrive then nobody else { host })) read

/-- Reads a file path that starts with a single slash. A base lends it the drive of its own path, or
else its host. -/
def fileFromRoot (base : Option Url) (text : List Char) : Url :=
  let (authority, start) : Authority × List Char :=
    match base.filter fun _ => !startsWithDrive ((withoutBreaks text).drop 1) with
    | none => (nobody, [])
    | some base =>
      let drive := (base.path.text.toList.drop 1).takeWhile (· ≠ '/')
      if isPlainDrive drive then (nobody, '/' :: drive) else (base.authority.getD nobody, [])
  withPath "file" (some authority) (PathText.read .file start text)

/-- Reads a file URL after its scheme, relative to a file URL if there is one. -/
def parseFile (base : Option Url) (text : List Char) : Except UrlError Url :=
  match next? text with
  | some (first, rest) =>
    if isSlash first then
      match next? rest with
      | some (second, after) =>
        if isSlash second then fileAfterSlashes after else .ok (fileFromRoot base text)
      | none => .ok (fileFromRoot base text)
    else .ok relative
  | none => .ok relative
where
  /-- Reads text that does not start with a slash. -/
  relative : Url :=
    let joined := withoutBreaks text
    match base with
    | none => withPath "file" (some nobody) (PathText.read .file ['/'] text)
    | some base =>
      if isTail joined then withNewTail base joined
      else if startsWithDrive joined then
        withPath "file" (some nobody) (PathText.read .file ['/'] text)
      else withPath "file" base.authority (PathText.read .file base.directoryText text)

/-! ### All schemes -/

/-- Reads text without a scheme relative to a URL that is not a file. Slashes of either kind make up
an authority with any scheme. -/
def parseRelative (base : Url) (text : List Char) : Except UrlError Url :=
  let within (start input : List Char) : Url :=
    withPath base.scheme base.authority (PathText.read (SchemeKind.of base.scheme) start input)
  match text with
  | '/' :: '/' :: after => afterSlashes base.scheme after
  | first :: rest =>
    if isTail text then .ok (base.withNewTail text)
    else if isSlash first then
      if rest.head?.any isSlash then afterSlashes base.scheme (text.dropWhile isSlash)
      else .ok (within ['/'] rest)
    else .ok (within (if base.directoryText.isEmpty then ['/'] else base.directoryText) text)
  | [] => .ok (base.withNewTail [])

/-- Reads text with a scheme. -/
def parseAbsolute (base : Option Url) (scheme : String) (text : List Char) :
    Except UrlError Url :=
  let joined := withoutBreaks text
  match SchemeKind.of scheme with
  | .file => parseFile (base.filter (·.scheme = "file")) text
  | .common =>
    match base with
    | some base =>
      if base.scheme = scheme && (joined.takeWhile isSlash).length < 2 then
        parseRelative base joined
      else afterSlashes scheme (joined.dropWhile isSlash)
    | none => afterSlashes scheme (joined.dropWhile isSlash)
  | .other =>
    match joined with
    | '/' :: '/' :: after => afterSlashes scheme after
    | '/' :: after => .ok (withPath scheme none (PathText.read .other ['/'] after))
    | _ =>
      let inPath (c : Char) : Bool := c ≠ '?' && c ≠ '#'
      let path := encode EncodeSet.controls (joined.takeWhile inPath)
      .ok (withTail scheme none (.rootless (String.ofList path)) (joined.dropWhile inPath))

/-- Reads text relative to a URL, if there is one. -/
def read (base : Option Url) (text : String) : Except UrlError Url :=
  let text := trimmed text
  match scheme? text, base with
  | some (scheme, rest), _ => parseAbsolute base scheme rest
  | none, none => .error .relativeWithoutBase
  | none, some base =>
    let joined := withoutBreaks text
    if joined.head? = some '#' then .ok (base.withNewTail joined)
    else if base.isRootless then .error .relativeToRootless
    else if base.scheme = "file" then parseFile (some base) text
    else parseRelative base joined

/-- Reads text as a URL. -/
def parse (text : String) : Except UrlError Url := read none text

/-- Reads text as a URL relative to `base`. -/
def join (base : Url) (text : String) : Except UrlError Url := read (some base) text

end Url
end Workbench
