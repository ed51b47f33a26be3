import Workbench.Compile.Options
import Workbench.Compile.Result
import Workbench.Config
import Workbench.FileSystem.Directories
import Workbench.Library.Load
import Workbench.Package.Fetch

/-!
# Sessions

A session keeps the files of one editor, what became of the packages it asked for, the libraries
that are in place, and a counter of invocations. An invocation is current as long as no newer one
has begun. The sample servers, a registry with one small package and a site with one small library,
are there to try out sessions without a network.
-/

namespace Workbench

/-- What became of a package. -/
inductive PackageState where
  /-- Its type declarations are at `entry`. The time of the fetch is left out, since nothing that a
  session does depends on it. -/
  | ready (entry : Path) (version : Option String)
  /-- It is not to be had. -/
  | failed (cause : FetchError)
deriving DecidableEq

/-- The state of one editor. -/
structure Session where
  /-- Its configuration. -/
  config : Config
  /-- Its files. -/
  files : FileSystem
  /-- The number of invocations so far, which is the number of the newest. It is a natural number
  where a machine word would do: no session comes to 2^64 invocations. -/
  generation : Nat := 0
  /-- What became of the packages that were asked for. -/
  packages : NameMap PackageState := .empty
  /-- The library selections that are in place. -/
  installed : List LibrarySelection := []

/-- Leave to compile: everything that the options need was in place when the invocation ended. -/
structure Ticket where
  /-- The number of the invocation, a natural number like the counter of the session. -/
  generation : Nat
  /-- The options it was for. -/
  options : CompilerOptions
deriving DecidableEq, Repr

namespace Session

/-- A new session, in which only the working directory exists. -/
def create (config : Config) : Except FileError Session :=
  let (made, files) :=
    (FileSystem.makeDirectoriesAt config.currentDirectory).perform (.bare config.currentDirectory)
  made.map fun () => { config, files }

/-- The registry that packages come from. -/
def registry (session : Session) : PackageRegistry := ⟨session.config.registry⟩

/-- The site that libraries come from. -/
def site (session : Session) : LibrarySite := ⟨session.config.library⟩

/-- The invocation is the newest. -/
def isCurrent (session : Session) (generation : Nat) : Bool := session.generation = generation

/-- Refuses an invocation that is not the newest. -/
def checkCurrent (session : Session) (generation : Nat) : Except CompileError Unit :=
  if session.isCurrent generation then .ok () else .error (.superseded generation)

/-- Begins an invocation and gives its number. -/
def begin : StateM Session Nat := do
  let session ← get
  set { session with generation := session.generation + 1 }
  return session.generation + 1

/-- Runs an activity on the files of the session. -/
def onFiles {α : Type} (activity : FileActivity α) : StateM Session (Except FileError α) :=
  fun session =>
    let (answer, files) := activity.perform session.files
    (answer, { session with files })

/-- Puts library files in place and records the selection they are for. -/
def install (selection : LibrarySelection) (libraries : LibraryFiles) :
    StateM Session (Except FileError Unit) := do
  let location := (← get).config.libraryLocation
  match ← onFiles (libraries.install location) with
  | .error cause => return .error cause
  | .ok _ =>
    modify fun session => { session with installed := selection :: session.installed }
    return .ok ()

/-- How the session is shown to developers. -/
def summary (session : Session) : String :=
  "Session \x7b cwd: " ++ Text.quote session.config.currentDirectory.directoryText ++
    ", generation: " ++ toString session.generation ++
    ", packages: " ++ toString session.packages.size ++ ", .. \x7d"

end Session

namespace Sample

/-- Settings for a session on the sample servers. -/
def settings : Settings where
  registryUrl := "https://registry.test/"
  libraryUrl := "https://libs.test/lib/"

/-- The documents of the sample servers. -/
def responses : CannedResponses :=
  NameMap.ofList [
    ("https://libs.test/lib/lib.d.ts",
      ⟨200, "/// <reference no-default-lib=\"true\"/>\n/// <reference lib=\"es5\" />\n"⟩),
    ("https://libs.test/lib/lib.es5.d.ts",
      ⟨200, "interface Array<T> \x7b length: number; \x7d\n"⟩),
    ("https://registry.test/ts-transform-runtime-check/package.json",
      ⟨200, "\x7b\"name\":\"ts-transform-runtime-check\",\"version\":\"0.0.0-alpha5\"," ++
        "\"types\":\"index.d.ts\"\x7d"⟩),
    ("https://registry.test/ts-transform-runtime-check/index.d.ts",
      ⟨200, "export declare function is<T>(value: unknown): value is T;\n"⟩)]

end Sample
end Workbench
