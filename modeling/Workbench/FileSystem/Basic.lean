import Workbench.FileSystem.Tree

/-!
# The in-memory file system

A file system is a sound tree with a directory at its root, and a working directory that relative
paths resolve against. The working directory is a path only: nothing has to exist there. Every
operation takes path text, resolves it, and either answers or names the cause of its refusal; a
refused operation changes nothing.
-/

namespace Workbench

/-- A tree of files with a working directory. The times at which nodes were modified are left out:
they are shown, and no operation depends on them. -/
structure FileSystem where
  /-- Where relative paths start. -/
  workingDirectory : Path
  /-- The root node. -/
  tree : Node
  /-- Every directory lists ordinary names in ascending order. -/
  sound : tree.Sound
  /-- The root is a directory. -/
  rooted : tree.kind = .directory

/-- What is known of a node without reading it, its time of modification apart. -/
structure Stat where
  /-- File or directory. -/
  kind : NodeKind
  /-- Content length in bytes, zero for directories. -/
  size : Nat
deriving DecidableEq, Repr

namespace FileSystem

/-- The file system that holds only its root, with the given working directory. -/
def bare (workingDirectory : Path) : FileSystem :=
  ⟨workingDirectory, .directory [], .empty, rfl⟩

instance : Inhabited FileSystem := ⟨bare .root⟩

/-- The path that the text means here. -/
def resolve (fs : FileSystem) (text : String) : Except FileError Path :=
  match fs.workingDirectory.resolve? text with
  | some path => .ok path
  | none => .error (.invalidPath text)

/-- The bare file system whose working directory is spelled by the text. -/
def ofWorkingDirectory (text : String) : Except FileError FileSystem :=
  ((bare .root).resolve text).map bare

/-- The node at the path. -/
def node? (fs : FileSystem) (path : Path) : Option Node := fs.tree.at? path.names

/-- Kind and size of the node at the path. -/
def statAt (fs : FileSystem) (path : Path) : Except FileError Stat :=
  match fs.node? path with
  | some node => .ok ⟨node.kind, node.size⟩
  | none => .error (.notFound path)

/-- Kind and size of the node at the path. -/
def stat (fs : FileSystem) (text : String) : Except FileError Stat := do
  fs.statAt (← fs.resolve text)

/-- The content of the file at the path, read as text. -/
def readAt (fs : FileSystem) (path : Path) (encoding : Encoding) : Except FileError String :=
  match fs.node? path with
  | some (.file content) =>
    match encoding.decode? content with
    | some text => .ok text
    | none => .error (.unencodable path encoding)
  | _ => .error (.notFound path)

/-- The content of the file at the path, read as text. -/
def read (fs : FileSystem) (text : String) (encoding : Encoding) : Except FileError String := do
  fs.readAt (← fs.resolve text) encoding

/-- The names in the directory at the path, in ascending order. A path that leads nowhere lists
nothing. -/
def list (fs : FileSystem) (text : String) : Except FileError (List String) := do
  let path ← fs.resolve text
  match fs.node? path with
  | some (.directory entries) => .ok (entries.map (·.1))
  | some (.file _) => .error (.typeConflict path .directory)
  | none => .ok []

/-- A change of one directory's entries that keeps trees sound. -/
structure Change where
  /-- What becomes of the entries. -/
  apply : List (String × Node) → Except FileError (List (String × Node))
  /-- A sound directory stays sound. -/
  keeps : ∀ {before after}, Node.Sound (.directory before) → apply before = .ok after →
    Node.Sound (.directory after)

/-- Changes the entries of the directory at the path. -/
def alter (fs : FileSystem) (change : Change) (directory : Path) : Except FileError FileSystem :=
  match altered : fs.tree.alter change.apply directory .root directory.names with
  | .error cause => .error cause
  | .ok tree => .ok ⟨fs.workingDirectory, tree, fs.sound.alter change.keeps altered,
      Node.kind_alter altered⟩

/-- Puts a file with the content under the name, in place of a file that was there. A directory
under the name is a conflict at `path`. -/
def Change.putFile (path : Path) (name : { name : String // IsName name }) (content : ByteArray) :
    Change where
  apply entries :=
    match Entries.find? name.1 entries with
    | some (.directory _) => .error (.typeConflict path .file)
    | _ => .ok (Entries.insert name.1 (.file content) entries)
  keeps := by
    intro before after sound success
    split at success
    · simp at success
    · cases success
      exact sound.insert name.2 (.file content)

/-- Puts an empty directory under a name that is free. -/
def Change.putDirectory (path : Path) (name : { name : String // IsName name }) : Change where
  apply entries :=
    match Entries.find? name.1 entries with
    | some _ => .error (.alreadyExists path)
    | none => .ok (Entries.insert name.1 (.directory []) entries)
  keeps := by
    intro before after sound success
    split at success
    · simp at success
    · cases success
      exact sound.insert name.2 .empty

/-- Creates or replaces the file at the path; its directory must exist. -/
def writeAt (fs : FileSystem) (path : Path) (text : String) (encoding : Encoding) :
    Except FileError FileSystem :=
  match path.split? with
  | none => .error (.typeConflict path .file)
  | some (directory, name) =>
    match encoding.encode? text with
    | none => .error (.unencodable path encoding)
    | some content => fs.alter (.putFile path name content) directory

/-- Creates or replaces the file at the path; its directory must exist. -/
def write (fs : FileSystem) (path text : String) (encoding : Encoding) :
    Except FileError FileSystem := do
  fs.writeAt (← fs.resolve path) text encoding

/-- Creates the directory at the path; the directory above must exist. -/
def makeDirectoryAt (fs : FileSystem) (path : Path) : Except FileError FileSystem :=
  match path.split? with
  | none => .error (.alreadyExists path)
  | some (directory, name) => fs.alter (.putDirectory path name) directory

/-- Creates the directory at the path; the directory above must exist. -/
def makeDirectory (fs : FileSystem) (path : String) : Except FileError FileSystem := do
  fs.makeDirectoryAt (← fs.resolve path)

end FileSystem

/-- An activity on a file system. What it changed before a failure stays changed. -/
abbrev FileActivity (α : Type) := EStateM FileError FileSystem α

namespace FileActivity

/-- A single operation as an activity. -/
def ofOperation (operation : FileSystem → Except FileError FileSystem) : FileActivity Unit :=
  fun fs => match operation fs with
    | .ok changed => .ok () changed
    | .error cause => .error cause fs

/-- A query as an activity that changes nothing. -/
def ofQuery {α : Type} (query : FileSystem → Except FileError α) : FileActivity α :=
  fun fs => match query fs with
    | .ok answer => .ok answer fs
    | .error cause => .error cause fs

/-- Performs the activity; gives what came of it and the files it left. -/
def perform {α : Type} (activity : FileActivity α) (fs : FileSystem) :
    Except FileError α × FileSystem :=
  match activity.run fs with
  | .ok answer left => (.ok answer, left)
  | .error cause left => (.error cause, left)

end FileActivity
end Workbench
