import Workbench.Compile.Transform
import Workbench.FileSystem.Directories
import Workbench.FileSystem.Listing

/-!
# The host bridge

What a compiler expects of an operating system, answered from a file system: files and directories,
a console whose output is kept, and a way to ask for a stop. Questions about existence never fail.
-/

namespace Workbench

/-- The state behind the system calls. -/
structure Bridge where
  /-- Files and directories. -/
  files : FileSystem
  /-- What was printed, in order. -/
  output : List String := []
  /-- Whether a stop has been requested. -/
  cancellation : Cancellation := {}

namespace Bridge

/-- Line terminator of generated text. -/
def newLine : String := "\n"

/-- File names are compared exactly. -/
def caseSensitive : Bool := true

/-- The content of a file. -/
def fileText (bridge : Bridge) (path : String) : Except FileError String :=
  bridge.files.read path .utf8

/-- What exists at the path. -/
def kind? (bridge : Bridge) (path : String) : Option NodeKind :=
  (bridge.files.stat path).toOption.map (·.kind)

/-- A file exists at the path. -/
def fileExists (bridge : Bridge) (path : String) : Bool := bridge.kind? path = some .file

/-- A directory exists at the path. -/
def directoryExists (bridge : Bridge) (path : String) : Bool :=
  bridge.kind? path = some .directory

/-- The names in a directory; none if it cannot be listed. -/
def entryNames (bridge : Bridge) (path : String) : List String :=
  (bridge.files.list path).toOption.getD []

/-- The files below a directory that pass the filter. -/
def listFiles (bridge : Bridge) (path : String) (filter : DirectoryFilter) : List String :=
  bridge.files.files path filter

/-- The working directory, with a slash at its end. -/
def currentDirectory (bridge : Bridge) : String := bridge.files.workingDirectory.directoryText

/-- The path from the root; text that is no path is left as it is. -/
def resolvePath (bridge : Bridge) (text : String) : String :=
  match bridge.files.resolve text with
  | .ok path => path.text
  | .error _ => text

/-- Changes the files by an operation that may be refused. -/
def update (bridge : Bridge) (operation : FileSystem → Except FileError FileSystem) :
    Except FileError Unit × Bridge :=
  match operation bridge.files with
  | .ok files => (.ok (), { bridge with files })
  | .error cause => (.error cause, bridge)

/-- Writes a file. -/
def putFile (bridge : Bridge) (path text : String) : Except FileError Unit × Bridge :=
  bridge.update (·.write path text .utf8)

/-- Creates a directory in an existing one. Something that exists there already is as good. -/
def createDirectory (bridge : Bridge) (path : String) : Except FileError Unit × Bridge :=
  if bridge.directoryExists path then (.ok (), bridge)
  else match bridge.update (·.makeDirectory path) with
    | (.error (.alreadyExists _), same) => (.ok (), same)
    | outcome => outcome

/-- Prints text. -/
def write (bridge : Bridge) (text : String) : Bridge :=
  { bridge with output := bridge.output ++ [text] }

/-- Everything printed, in one text. -/
def console (bridge : Bridge) : String := String.join bridge.output

/-- The bridge without its output. -/
def clearOutput (bridge : Bridge) : Bridge := { bridge with output := [] }

/-- Asks for a stop. -/
def exit (bridge : Bridge) (code : Int) : Bridge :=
  { bridge with cancellation := bridge.cancellation.cancel code }

/-- How the bridge is shown to developers. -/
def summary (bridge : Bridge) : String :=
  "HostBridge \x7b cwd: " ++ Text.quote bridge.currentDirectory ++ ", cancellation: " ++
    bridge.cancellation.summary ++ ", .. \x7d"

end Bridge
end Workbench
