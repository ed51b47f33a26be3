import Workbench.Config
import Workbench.Host.Bridge
import Workbench.Package.Manifest
import Workbench.Package.Reference

/-!
# Resolving module names

Only names of packages resolve, and only to packages below the working directory's directory of
packages. Paths stay unresolved.
-/

namespace Workbench

/-- The kind of file that a module is in. -/
inductive ModuleExtension where
  | dts | ts | tsx | js | jsx | json
deriving DecidableEq, Repr

namespace ModuleExtension

/-- Every extension; one that ends in another comes before it. -/
def all : List ModuleExtension := [dts, ts, tsx, js, jsx, json]

/-- The ending of the file names. -/
def text : ModuleExtension → String
  | dts => ".d.ts"
  | ts => ".ts"
  | tsx => ".tsx"
  | js => ".js"
  | jsx => ".jsx"
  | json => ".json"

/-- The extension of a file name. -/
def ofFileName? (name : String) : Option ModuleExtension :=
  all.find? (·.text.toList.isSuffixOf name.toList)

end ModuleExtension

/-- The package that a module is from. -/
structure PackageId where
  /-- Package name. -/
  name : String
  /-- Path of the module inside the package; empty for the package itself. -/
  subModule : String
  /-- Package version. -/
  version : String
deriving DecidableEq, Repr

namespace PackageId

/-- The package and its version as text. -/
def text (id : PackageId) : String :=
  let module := if id.subModule = "" then id.name else id.name ++ "/" ++ id.subModule
  module ++ "@" ++ id.version

instance : ToString PackageId := ⟨text⟩

end PackageId

/-- Where a module name leads. -/
structure ResolvedModule where
  /-- The file of the module. -/
  file : String
  /-- The kind of that file. -/
  extension : ModuleExtension
  /-- The package of the module. -/
  package : PackageId
  /-- The module does not belong to the project itself. -/
  isExternal : Bool := true
deriving DecidableEq, Repr

/-- A way to resolve module names. -/
structure ModuleResolver where
  /-- How package names resolve. -/
  mode : ResolutionMode := .shallow
  /-- The version of packages that do not tell theirs. -/
  version : String := "0.0.0-alpha5"
deriving DecidableEq, Repr

namespace ModuleResolver

/-- The resolver of a configuration. -/
def ofConfig (config : Config) : ModuleResolver := ⟨config.resolution, config.packageVersion⟩

/-- The name is a path and names no package. -/
def isPathName (name : String) : Bool :=
  match name.toList with
  | [] => true
  | '/' :: _ => true
  | ['.'] => true
  | ['.', '.'] => true
  | '.' :: '/' :: _ => true
  | '.' :: '.' :: '/' :: _ => true
  | _ => false

/-- Splits a module name into a package name, which is one segment or two after an at sign, and the
path that follows. -/
def splitName (name : String) : String × String :=
  let segments := Text.pieces '/' name.toList
  let count := if name.toList.head? = some '@' then 2 else 1
  let joined (segments : List (List Char)) := String.ofList (['/'].intercalate segments)
  (joined (segments.take count), joined (segments.drop count))

/-- A package's directory. -/
def packageRoot (bridge : Bridge) (package : String) : String :=
  bridge.currentDirectory ++ Package.directory ++ "/" ++ package

/-- Resolves the name of a listed package by its directory alone. -/
def shallow (resolver : ModuleResolver) (bridge : Bridge) (listed : List String)
    (name : String) : Option ResolvedModule :=
  if name ∈ listed then
    let file := packageRoot bridge name ++ "/index.d.ts"
    (ModuleExtension.ofFileName? file).map fun extension =>
      { file, extension, package := ⟨name, "", resolver.version⟩ }
  else none

/-- The paths in a package where a module may be. For the package itself that is its declared entry,
if it has a usable one, and `index.d.ts`. -/
def candidates (manifest : Option PackageManifest) (subModule : String) : List String :=
  if subModule = "" then
    let declared := manifest.bind fun manifest =>
      manifest.typesEntry?.bind fun entry => (Package.entryPath entry).toOption
    declared.toList ++ ["index.d.ts"]
  else
    let stem := String.ofList (Spelling.trimEnd subModule.toList)
    [stem, stem ++ ".d.ts", stem ++ "/index.d.ts"]

/-- The manifest in a package's directory, if there is a readable one. -/
def manifest? (bridge : Bridge) (root : String) : Option PackageManifest := do
  let text ← (bridge.fileText (Spelling.join root Package.manifestName)).toOption
  (PackageManifest.read text).toOption

/-- Resolves a name by the manifest of its package. -/
def byManifest (resolver : ModuleResolver) (bridge : Bridge) (name : String) :
    Option ResolvedModule :=
  let (package, subModule) := splitName name
  let root := packageRoot bridge package
  if (Text.pieces '/' subModule.toList).contains ['.', '.'] || !bridge.directoryExists root then
    none
  else
    let manifest := manifest? bridge root
    let files := (candidates manifest subModule).map (Spelling.join root)
    let usable (file : String) : Bool :=
      bridge.fileExists file && ModuleExtension.ofFileName? file = some .dts
    (files.find? usable).map fun file =>
      { file, extension := .dts
        package := ⟨package, subModule, (manifest.bind (·.version)).getD resolver.version⟩ }

/-- Resolves a module name, given the names in the directory of packages. -/
def resolveName (resolver : ModuleResolver) (bridge : Bridge) (listed : List String)
    (name : String) : Option ResolvedModule :=
  if isPathName name then none
  else match resolver.mode with
    | .shallow => resolver.shallow bridge listed name
    | .manifest => resolver.byManifest bridge name <|> resolver.shallow bridge listed name

/-- Resolves module names one by one. -/
def resolve (resolver : ModuleResolver) (bridge : Bridge) (names : List String) :
    List (Option ResolvedModule) :=
  names.map (resolver.resolveName bridge (bridge.entryNames Package.directory))

end ModuleResolver
end Workbench
