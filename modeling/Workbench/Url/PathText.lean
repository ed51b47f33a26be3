import Workbench.Text.Pieces
import Workbench.Url.Percent
import Workbench.Url.Scheme

/-!
# Paths of URLs

A path is read segment by segment behind the text of the path it is relative to. Segments of dots
lead up or stay where they are, all others are appended in their encoded form.

Some machines name their disks with a letter. A file path that starts with the letter of a disk is
absolute on its own machine, and it never leads out of the disk: a drive letter at the root ends
with a colon, and is never left again.
-/

namespace Workbench
namespace Url

/-- A letter followed by a colon or a vertical line. -/
def isDrive : List Char → Bool
  | [letter, mark] => letter.isAlpha && (mark = ':' || mark = '|')
  | _ => false

/-- A letter followed by a colon. -/
def isPlainDrive : List Char → Bool
  | [letter, mark] => letter.isAlpha && mark = ':'
  | _ => false

/-- The text starts with a drive letter that is a whole segment. -/
def startsWithDrive (text : List Char) : Bool :=
  isDrive (text.take 2) && (text[2]?).all (['/', '\\', '?', '#'].contains ·)

/-- Text of a path, as far as it has been read: segments with a slash in front of each. -/
structure PathText where
  /-- The encoded text. -/
  text : List Char
  /-- A drive letter was read at the root. It belongs to no other machine. -/
  readDrive : Bool := false
deriving DecidableEq, Repr

namespace PathText

/-- The segment means the directory itself. -/
def isSingleDot (segment : List Char) : Bool :=
  String.ofList (segment.map Char.toLower) ∈ [".", "%2e"]

/-- The segment means the directory above. -/
def isDoubleDot (segment : List Char) : Bool :=
  String.ofList (segment.map Char.toLower) ∈ ["..", ".%2e", "%2e.", "%2e%2e"]

/-- The text up to its last slash, and the segment after it. -/
def splitLast (text : List Char) : List Char × List Char :=
  let last := (text.reverse.takeWhile (· ≠ '/')).reverse
  (text.take (text.length - last.length), last)

/-- The path without its last segment, unless that is a drive letter. -/
def directory (kind : SchemeKind) (text : List Char) : List Char :=
  let (front, last) := splitLast text
  if kind = .file && isPlainDrive last then text else front

/-- The directory above. Nothing is above the root or above a drive letter. -/
def above (kind : SchemeKind) (text : List Char) : List Char :=
  if text.getLast? = some '/' then
    let (front, last) := splitLast text.dropLast
    if front.isEmpty || startsWithDrive (last ++ ['/']) then text else front
  else directory kind text

/-- The text with a slash at its end. -/
def closed (text : List Char) : List Char :=
  if text.getLast? = some '/' then text else text ++ ['/']

/-- Appends text without tabs and line ends to a path whose last segment starts at `start`. Nothing
can follow a drive letter at the root, so the text starts a segment of its own behind it. -/
def appendRun (kind : SchemeKind) (path : List Char × Nat) (run : List Char) : List Char × Nat :=
  let (text, start) := path
  if run.isEmpty then path
  else if kind = .file && isPlainDrive (text.drop 1) then
    (text ++ '/' :: encode EncodeSet.path run, start + 1)
  else (text ++ encode EncodeSet.path run, start)

/-- Appends a segment. A slash follows it unless it is the last one. -/
def appendSegment (kind : SchemeKind) (path : PathText) (piece : List Char) (isLast : Bool) :
    PathText :=
  let runs := Text.piecesBy isBreak piece
  let (text, start) := runs.foldl (appendRun kind) (path.text, path.text.length)
  let front := text.take start
  let segment := text.drop start
  let ending := if isLast then [] else ['/']
  if isDoubleDot segment then
    let text := above kind front
    { path with text := if isLast then text else closed text }
  else if isSingleDot segment then { path with text := closed front }
  else if kind = .file && start = 1 && isDrive segment then
    ⟨front ++ segment.take 1 ++ ':' :: ending, true⟩
  else { path with text := text ++ ending }

/-- Appends segments, the last of which no slash follows. -/
def append (kind : SchemeKind) : PathText → List (List Char) → PathText
  | path, [] => path
  | path, [piece] => appendSegment kind path piece true
  | path, piece :: more => append kind (appendSegment kind path piece false) more

/-- Reads the text of a path up to a query or a fragment, and gives the rest with it. File paths
have no empty segments at the root. -/
def read (kind : SchemeKind) (text : List Char) (input : List Char) : PathText × List Char :=
  let inPath (c : Char) : Bool := c ≠ '?' && c ≠ '#'
  let segments := Text.piecesBy kind.separates (input.takeWhile inPath)
  let path := append kind ⟨text, false⟩ segments
  (if kind = .file then { path with text := '/' :: path.text.dropWhile (· = '/') } else path,
    input.dropWhile inPath)

/-- The segments of the path. -/
def segments (path : PathText) : List String :=
  match path.text with
  | [] => []
  | _ :: text => (Text.pieces '/' text).map String.ofList

end PathText

end Url
end Workbench
