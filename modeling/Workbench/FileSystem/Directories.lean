import Workbench.FileSystem.Basic

/-!
# Making a chain of directories

`makeDirectories` sees to it that a directory exists at a path, together with every directory above
it. It looks for the nearest existing directory from the path upward and then creates what is
missing from there down.
-/

namespace Workbench
namespace FileSystem

/-- Of the paths from a path up to the root, those before the first existing directory. A file met
before it is a conflict. -/
def missing (fs : FileSystem) : List Path → Except FileError (List Path)
  | [] => .ok []
  | path :: above =>
    match fs.node? path with
    | some (.directory _) => .ok []
    | some (.file _) => .error (.typeConflict path .directory)
    | none => (fs.missing above).map (path :: ·)

/-- Creates the directory at the path unless something exists there. -/
def ensureDirectoryAt (path : Path) : FileActivity Unit := fun fs =>
  match fs.makeDirectoryAt path with
  | .ok changed => .ok () changed
  | .error (.alreadyExists _) => .ok () fs
  | .error cause => .error cause fs

/-- Makes the directory at the path and every missing one above it. -/
def makeDirectoriesAt (path : Path) : FileActivity Unit := do
  let absent ← FileActivity.ofQuery (·.missing path.upward)
  absent.reverse.forM ensureDirectoryAt

/-- Makes the directory at the path and every missing one above it. -/
def makeDirectories (path : String) : FileActivity Unit := do
  makeDirectoriesAt (← FileActivity.ofQuery (·.resolve path))

/-- Writes the file at the path as UTF-8 after making the directories above it. -/
def storeAt (path : Path) (text : String) : FileActivity Unit := do
  if let some directory := path.parent? then
    makeDirectoriesAt directory
  FileActivity.ofOperation (·.writeAt path text .utf8)

/-- Writes the file at the path as UTF-8 after making the directories above it, and gives its
path. -/
def store (path text : String) : FileActivity Path := do
  let path ← FileActivity.ofQuery (·.resolve path)
  storeAt path text
  return path

end FileSystem
end Workbench
