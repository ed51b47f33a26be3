import Workbench.Remote.Response
import Workbench.Text.Pieces

/-!
# Names and paths of packages

A package is called `name` or `@scope/name`. It declares the path of its types inside itself. Both
become parts of URLs and of file paths, so nothing in them may lead out of the package.
-/

namespace Workbench
namespace Package

/-- The text can be one segment of a package name. -/
def isNameSegment (segment : List Char) : Bool :=
  !segment.isEmpty && segment ≠ ['.'] && segment ≠ ['.', '.'] &&
    segment.all fun c => !Text.isBlank c && !Text.isControl c && c ≠ '\\'

/-- The text names a package. -/
def isName (name : String) : Bool :=
  let segments := Text.pieces '/' name.toList
  let wellFormed := match segments with
    | [single] => single.head? ≠ some '@'
    | [scope, _] => scope.head? = some '@' && 1 < scope.length
    | _ => false
  wellFormed && segments.all isNameSegment

/-- Refuses text that names no package. -/
def checkName (name : String) : Except FetchError Unit :=
  if isName name then .ok () else .error (.invalidReference name)

/-- A declared path as a path from the root of its package, without empty and `.` segments. Paths
that are absolute or lead upward are refused. -/
def entryPath (entry : String) : Except FetchError String :=
  let trimmed := Text.trim entry.toList
  let names := (Text.pieces '/' trimmed).filter fun segment => !segment.isEmpty && segment ≠ ['.']
  if trimmed.head? = some '/' || trimmed.contains '\x00' || trimmed.contains '\\' ||
      names.contains ['.', '.'] || names.isEmpty then
    .error (.invalidReference entry)
  else .ok (String.ofList (['/'].intercalate names))

/-- The directory of materialized packages. -/
def directory : String := "node_modules"

/-- The file name of a manifest. -/
def manifestName : String := "package.json"

end Package

/-- A package and where its types are. -/
structure PackageDescriptor where
  /-- Package name. -/
  name : String
  /-- Path of the type declarations inside the package. -/
  entry : String
deriving DecidableEq, Repr

namespace PackageDescriptor

/-- The package's directory as seen from the working directory. -/
def root (descriptor : PackageDescriptor) : String := Package.directory ++ "/" ++ descriptor.name

/-- The package's type declarations as seen from the working directory. -/
def entryFile (descriptor : PackageDescriptor) : String :=
  descriptor.root ++ "/" ++ descriptor.entry

end PackageDescriptor
end Workbench
