import Workbench.Path.Basic
import Workbench.Path.Spelling
import Workbench.Url.Parse

/-!
# Configuration

Where packages and libraries come from, where files live and how module names resolve. A
configuration is built from settings, each of which may be left out, and is checked once.
-/

namespace Workbench

/-- How the name of a package leads to its type declarations. -/
inductive ResolutionMode where
  /-- By its directory alone: the declarations are in `index.d.ts`. -/
  | shallow
  /-- By its manifest, if that leads anywhere. -/
  | manifest
deriving DecidableEq, Repr

namespace ResolutionMode

/-- The spelling of the mode in settings. -/
def name : ResolutionMode → String
  | shallow => "shallow"
  | manifest => "manifest"

end ResolutionMode

/-- Why settings make no configuration. -/
inductive ConfigError where
  /-- The text is no URL. -/
  | invalidUrl (text : String) (cause : UrlError)
  /-- Nothing can be resolved against the URL. -/
  | notABase (text : String)
  /-- The text is no usable directory. -/
  | invalidDirectory (text : String)
deriving DecidableEq, Repr

namespace ConfigError

/-- The kind of error. -/
def kind : ConfigError → String
  | invalidUrl _ _ => "InvalidUrl"
  | notABase _ => "NotABase"
  | invalidDirectory _ => "InvalidDirectory"

/-- The wording of the error. -/
def message : ConfigError → String
  | invalidUrl text cause => "invalid URL '" ++ text ++ "': " ++ cause.message
  | notABase text => "URL '" ++ text ++ "' cannot be used as a base"
  | invalidDirectory text => "invalid directory '" ++ text ++ "'"

end ConfigError

/-- A checked configuration. -/
structure Config where
  /-- How requests name the program. -/
  userAgent : String
  /-- Where packages come from. -/
  registry : Url
  /-- Where libraries come from. -/
  library : Url
  /-- Working directory. -/
  currentDirectory : Path
  /-- Library directory as seen from the working directory; it ends with a slash. -/
  libraryDirectory : String
  /-- The version of packages that do not tell theirs. -/
  packageVersion : String
  /-- How package names resolve. -/
  resolution : ResolutionMode
deriving DecidableEq

namespace Config

/-- The directory of the library files; it ends with a slash. -/
def libraryLocation (config : Config) : String :=
  config.currentDirectory.directoryText ++ config.libraryDirectory

end Config

/-- Settings as they are given. -/
structure Settings where
  /-- How requests name the program. -/
  userAgent : String := "playground-host/0.1.0"
  /-- Where packages come from. -/
  registryUrl : String := "https://unpkg.com/"
  /-- Where libraries come from. -/
  libraryUrl : String := "https://unpkg.com/typescript/lib/"
  /-- Working directory. -/
  currentDirectory : String := "/"
  /-- Library directory as seen from the working directory. -/
  libraryDirectory : String := "libs/"
  /-- The version of packages that do not tell theirs. -/
  packageVersion : String := "0.0.0-alpha5"
  /-- How package names resolve. -/
  resolution : ResolutionMode := .shallow
deriving DecidableEq, Repr

namespace Settings

/-- The text as a URL that names can be resolved against; a slash is added at its end. -/
def baseUrl (text : String) : Except ConfigError Url := do
  let url ← (Url.parse (Spelling.asDirectory text)).mapError (ConfigError.invalidUrl text)
  if url.isRootless then throw (.notABase text)
  return url

/-- The library directory without slashes around it. -/
def innerDirectory (text : String) : Except ConfigError String :=
  let inner := Spelling.trimEnd (Spelling.trimStart text.toList)
  let names := Text.pieces '/' inner
  if inner.isEmpty || names.contains ['.', '.'] || names.contains [] then
    .error (.invalidDirectory text)
  else .ok (String.ofList inner)

/-- Checks the settings. -/
def build (settings : Settings) : Except ConfigError Config := do
  let currentDirectory ← match Path.root.resolve? settings.currentDirectory with
    | some path => pure path
    | none => throw (.invalidDirectory settings.currentDirectory)
  let inner ← innerDirectory settings.libraryDirectory
  let registry ← baseUrl settings.registryUrl
  let library ← baseUrl settings.libraryUrl
  return {
    userAgent := settings.userAgent
    registry, library, currentDirectory
    libraryDirectory := inner ++ "/"
    packageVersion := settings.packageVersion
    resolution := settings.resolution }

end Settings
end Workbench
