import Workbench.Compile.Options
import Workbench.Host.Resolver

/-!
# Requests to the compiler host

What a compiler can ask of its environment, and what a host over a file system answers. Every
request fixes the type of its answer.
-/

namespace Workbench

/-- A unit as the host loads it. -/
structure LoadedUnit where
  /-- The unit; its text is empty when it could not be read. -/
  unit : SourceFile
  /-- Why it could not be read. -/
  report : Option String
deriving DecidableEq, Repr

/-- How the host treats lines and names. -/
structure HostConventions where
  /-- Line terminator of generated text. -/
  newLine : String
  /-- File names are compared exactly. -/
  caseSensitive : Bool
deriving DecidableEq, Repr

/-- A request to the host. -/
inductive HostRequest where
  /-- The content of a file. -/
  | fileText (path : String)
  /-- Writing a file. -/
  | putFile (path text : String)
  /-- Whether a file exists. -/
  | fileExists (path : String)
  /-- Whether a directory exists. -/
  | directoryExists (path : String)
  /-- Creating a directory in an existing one. -/
  | createDirectory (path : String)
  /-- The names in a directory. -/
  | entryNames (path : String)
  /-- The files below a directory that pass a filter. -/
  | listFiles (path : String) (filter : DirectoryFilter)
  /-- The working directory. -/
  | currentDirectory
  /-- Printing text. -/
  | write (text : String)
  /-- Stopping with a code. -/
  | exit (code : Int)
  /-- A unit by its file name. -/
  | loadUnit (name : String) (target : LanguageTarget)
  /-- The file that bundles the default library of the options. -/
  | defaultLibrary (options : CompilerOptions)
  /-- The directory of the library files. -/
  | libraryLocation
  /-- A file name in the spelling that identifies the file. -/
  | canonicalName (name : String)
  /-- How lines and names are treated. -/
  | conventions
  /-- The modules that names in a file lead to. -/
  | resolveModules (names : List String) (containing : String)
deriving DecidableEq, Repr

namespace HostRequest

/-- The type of the answer. -/
@[reducible]
def Answer : HostRequest → Type
  | fileText _ => Except FileError String
  | putFile _ _ => Except FileError Unit
  | fileExists _ => Bool
  | directoryExists _ => Bool
  | createDirectory _ => Except FileError Unit
  | entryNames _ => List String
  | listFiles _ _ => List String
  | currentDirectory => String
  | write _ => Unit
  | exit _ => Unit
  | loadUnit _ _ => LoadedUnit
  | defaultLibrary _ => String
  | libraryLocation => String
  | canonicalName _ => String
  | conventions => HostConventions
  | resolveModules _ _ => List (Option ResolvedModule)

end HostRequest

/-- What a host adds to the bridge behind it. -/
structure CompilerHost where
  /-- How module names resolve. -/
  resolver : ModuleResolver := {}
  /-- Library directory as seen from the working directory; it ends with a slash. -/
  libraryDirectory : String := "libs/"
deriving DecidableEq, Repr

namespace CompilerHost

/-- The host of a configuration. -/
def ofConfig (config : Config) : CompilerHost := ⟨.ofConfig config, config.libraryDirectory⟩

/-- The directory of the library files; it ends with a slash. -/
def libraryLocation (host : CompilerHost) (bridge : Bridge) : String :=
  bridge.currentDirectory ++ host.libraryDirectory

/-- Loads a unit. One that cannot be read is empty. -/
def loadUnit (bridge : Bridge) (name : String) (target : LanguageTarget) : LoadedUnit :=
  match bridge.fileText name with
  | .ok text => ⟨⟨name, text, target⟩, none⟩
  | .error cause => ⟨⟨name, "", target⟩, some cause.message⟩

/-- Answers a request. -/
def answer (host : CompilerHost) (bridge : Bridge) :
    (request : HostRequest) → request.Answer × Bridge
  | .fileText path => (bridge.fileText path, bridge)
  | .putFile path text => bridge.putFile path text
  | .fileExists path => (bridge.fileExists path, bridge)
  | .directoryExists path => (bridge.directoryExists path, bridge)
  | .createDirectory path => bridge.createDirectory path
  | .entryNames path => (bridge.entryNames path, bridge)
  | .listFiles path filter => (bridge.listFiles path filter, bridge)
  | .currentDirectory => (bridge.currentDirectory, bridge)
  | .write text => ((), bridge.write text)
  | .exit code => ((), bridge.exit code)
  | .loadUnit name target => (loadUnit bridge name target, bridge)
  | .defaultLibrary options =>
    (host.libraryLocation bridge ++ options.target.defaultLibrary, bridge)
  | .libraryLocation => (host.libraryLocation bridge, bridge)
  | .canonicalName name => (name, bridge)
  | .conventions => (⟨Bridge.newLine, Bridge.caseSensitive⟩, bridge)
  | .resolveModules names _ => (host.resolver.resolve bridge names, bridge)

end CompilerHost
end Workbench
