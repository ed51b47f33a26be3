import Workbench.Path.Basic

/-!
# Spelled paths

Operations on a path as it is spelled: the text may be relative, may repeat slashes and may end in
one. `normalize?` gives the spelling that every other spelling of the same path has in common.
-/

namespace Workbench
namespace Spelling

/-- The text of the path that `text` means in the directory that `base` leads to from the root.
Unreadable text means none. -/
def normalize? (base text : String) : Option String :=
  ((Path.root.walk base).resolve? text).map Path.text

/-- The pieces of the text that are not empty. -/
def segments (text : String) : List String :=
  ((Text.pieces '/' text.toList).map String.ofList).filter (· ≠ "")

/-- The text before the last slash, or the slash itself when it is the first character. The text
`/` and text without a slash have none. -/
def parent? (text : String) : Option String :=
  if text = "/" then none
  else match text.toList.reverse.dropWhile (· ≠ '/') with
    | [] => none
    | [_] => some "/"
    | _ :: before => some (String.ofList before.reverse)

/-- The last segment. -/
def fileName? (text : String) : Option String := (segments text).getLast?

/-- The text without slashes at its end. -/
def trimEnd (text : List Char) : List Char := (text.reverse.dropWhile (· = '/')).reverse

/-- The text without slashes in front. -/
def trimStart (text : List Char) : List Char := text.dropWhile (· = '/')

/-- `name` appended to `base` with exactly one slash between them. -/
def join (base name : String) : String :=
  match trimEnd base.toList, trimStart name.toList with
  | [], [] => "/"
  | front, [] => String.ofList front
  | front, rest => String.ofList (front ++ '/' :: rest)

/-- The text with a slash at its end. -/
def asDirectory (text : String) : String :=
  if text.toList.getLast? = some '/' then text else text ++ "/"

end Spelling
end Workbench
