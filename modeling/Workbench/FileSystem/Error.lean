import Workbench.FileSystem.Encoding
import Workbench.Path.Basic
import Workbench.Text.Printable

/-!
# Failures of file operations

The causes for which an operation on the file tree is refused, with their wording.
-/

namespace Workbench

/-- What a name in a directory stands for. -/
inductive NodeKind where
  /-- A file with content. -/
  | file
  /-- A directory with named entries. -/
  | directory
deriving DecidableEq, Repr

namespace NodeKind

/-- The word used in messages and listings. -/
def name : NodeKind → String
  | file => "file"
  | directory => "directory"

end NodeKind

/-- Why a file operation was refused. -/
inductive FileError where
  /-- Nothing exists at the path. -/
  | notFound (path : Path)
  /-- Something exists at the path already. -/
  | alreadyExists (path : Path)
  /-- The path leads to a node of the other kind. -/
  | typeConflict (path : Path) (expected : NodeKind)
  /-- The text cannot be read as a path. -/
  | invalidPath (text : String)
  /-- The content has no representation in the encoding. -/
  | unencodable (path : Path) (encoding : Encoding)
deriving DecidableEq

namespace FileError

/-- The kind of failure. -/
def kind : FileError → String
  | notFound _ => "NotFound"
  | alreadyExists _ => "AlreadyExists"
  | typeConflict _ _ => "TypeConflict"
  | invalidPath _ => "InvalidPath"
  | unencodable _ _ => "Encoding"

/-- The wording of the failure. -/
def message : FileError → String
  | notFound path => "ENOENT: no such file or directory, '" ++ path.text ++ "'"
  | alreadyExists path => "EEXIST: file already exists, '" ++ path.text ++ "'"
  | typeConflict path expected =>
    "type conflict at '" ++ path.text ++ "': expected a " ++ expected.name
  | invalidPath text => "invalid path: " ++ Text.quote text
  | unencodable path encoding =>
    "cannot use " ++ encoding.name ++ " encoding for '" ++ path.text ++ "'"

end FileError
end Workbench
