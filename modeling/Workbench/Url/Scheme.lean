/-!
# Schemes

How the rest of a URL is read depends on the scheme in front of its first colon. Tabs and line ends
between the characters of a URL do not belong to it.
-/

namespace Workbench
namespace Url

/-- A tab or a line end. -/
def isBreak (c : Char) : Bool := c = '\t' || c = '\n' || c = '\r'

/-- The text that is left when tabs and line ends are taken out. -/
def withoutBreaks (text : List Char) : List Char := text.filter (!isBreak ·)

/-- The next character of a URL and the text after it. -/
def next? (text : List Char) : Option (Char × List Char) :=
  match text.dropWhile isBreak with
  | [] => none
  | c :: rest => some (c, rest)

/-- The text to be read: without controls and spaces around it. -/
def trimmed (text : String) : List Char :=
  let outside (c : Char) : Bool := c.toNat ≤ 0x20
  ((text.toList.dropWhile outside).reverse.dropWhile outside).reverse

/-- The scheme in front of the first colon in lowercase, and the text after it. -/
def scheme? (text : List Char) : Option (String × List Char) :=
  let isPart (c : Char) : Bool := c.isAlphanum || c = '+' || c = '-' || c = '.' || isBreak c
  match withoutBreaks (text.takeWhile isPart), text.dropWhile isPart with
  | first :: more, ':' :: rest =>
    if first.isAlpha then some (String.ofList ((first :: more).map Char.toLower), rest) else none
  | _, _ => none

/-- The port that a scheme implies. -/
def defaultPort? (scheme : String) : Option Nat :=
  if scheme = "http" || scheme = "ws" then some 80
  else if scheme = "https" || scheme = "wss" then some 443
  else if scheme = "ftp" then some 21
  else none

/-- How the rest of a URL is read depends on its scheme. -/
inductive SchemeKind where
  /-- Local files. -/
  | file
  /-- The other common schemes: they always have a host and a path. -/
  | common
  /-- Any other scheme. -/
  | other
deriving DecidableEq, Repr

namespace SchemeKind

/-- The kind of a scheme. -/
def of (scheme : String) : SchemeKind :=
  if scheme = "file" then file
  else if (defaultPort? scheme).isSome then common
  else other

/-- Backslashes count as slashes. -/
def isSpecial : SchemeKind → Bool
  | other => false
  | _ => true

/-- The character separates path segments. -/
def separates (kind : SchemeKind) (c : Char) : Bool := c = '/' || (kind.isSpecial && c = '\\')

/-- The character ends an authority. -/
def endsAuthority (kind : SchemeKind) (c : Char) : Bool :=
  kind.separates c || c = '?' || c = '#'

end SchemeKind
end Url
end Workbench
