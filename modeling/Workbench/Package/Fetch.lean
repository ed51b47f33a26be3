import Workbench.FileSystem.Directories
import Workbench.Package.Manifest
import Workbench.Package.Reference
import Workbench.Path.Spelling
import Workbench.Remote.Progress
import Workbench.Url.Parse

/-!
# Fetching packages

A package comes from a registry in two requests: first its manifest, then the type declarations that
the manifest names. Once fetched, it is materialized as two files below the directory of packages:
its type declarations under the declared path and its manifest in the root of the package.
-/

namespace Workbench

/-- A package as it came from the registry. The time at which it came is left out. -/
structure FetchedPackage where
  /-- The package and where its types are. -/
  descriptor : PackageDescriptor
  /-- The version that the manifest gives. -/
  version : Option String
  /-- Text of the manifest. -/
  manifest : String
  /-- Text of the type declarations. -/
  declarations : String
deriving DecidableEq, Repr

/-- A registry of packages. -/
structure PackageRegistry where
  /-- Where the packages are; the path ends with a slash. -/
  url : Url
deriving DecidableEq, Repr

namespace PackageRegistry

/-- The URL of a file of a package. -/
def fileUrl (registry : PackageRegistry) (name file : String) : Except FetchError Url :=
  let reference := name ++ "/" ++ file
  (registry.url.join reference).mapError fun _ => .invalidReference reference

/-- How the registry is shown to developers. -/
def summary (registry : PackageRegistry) : String :=
  "PackageFetcher \x7b registry: " ++ Text.quote registry.url.text ++ ", .. \x7d"

end PackageRegistry

/-- A fetch that waits for one of its two documents. -/
inductive PackageFetch where
  /-- It waits for the manifest of the package. -/
  | manifest (registry : PackageRegistry) (name : String) (url : Url)
  /-- It waits for the type declarations; the rest is known. -/
  | declarations (descriptor : PackageDescriptor) (version : Option String) (manifest : String)
    (url : Url)
deriving DecidableEq, Repr

namespace PackageFetch

/-- Starts to fetch a package. -/
def start (registry : PackageRegistry) (name : String) :
    Progress PackageFetch (Except FetchError FetchedPackage) :=
  Progress.ofAttempt do
    Package.checkName name
    let url ← registry.fileUrl name Package.manifestName
    return .waiting url (.manifest registry name url)

/-- Goes on with what came of the request. -/
def resume (fetch : PackageFetch) (reply : Reply) :
    Progress PackageFetch (Except FetchError FetchedPackage) :=
  Progress.ofAttempt <|
    match fetch with
    | manifest registry name url => do
      let text ← reply.content url
      let declared ← (PackageManifest.read text).mapError (FetchError.manifest name)
      match declared.typesEntry? with
      | none => throw (.missingTypes name)
      | some entry =>
        let entry ← Package.entryPath entry
        let url ← registry.fileUrl name entry
        return .waiting url (.declarations ⟨name, entry⟩ declared.version text url)
    | declarations descriptor version manifestText url => do
      let text ← reply.content url
      return .done (.ok ⟨descriptor, version, manifestText, text⟩)

/-- The number of documents that a fetch waits for at most. -/
def rounds : Nat := 2

/-- Fetches a package in one go. -/
def run (transport : Transport) (registry : PackageRegistry) (name : String) :
    Settled PackageFetch (Except FetchError FetchedPackage) Unit :=
  settle transport (fun fetch reply => pure (fetch.resume reply)) rounds (start registry name) ()

end PackageFetch

namespace FetchedPackage

/-- Writes the package into the file system and gives the path of its type declarations. -/
def materialize (package : FetchedPackage) : FileActivity Path := do
  let root ← FileActivity.ofQuery (·.resolve package.descriptor.root)
  let entry ← FileActivity.ofQuery (·.resolve package.descriptor.entryFile)
  FileSystem.makeDirectoriesAt (entry.parent?.getD .root)
  FileSystem.makeDirectoriesAt root
  FileActivity.ofOperation (·.writeAt entry package.declarations .utf8)
  FileActivity.ofOperation (·.writeAt (root.step Package.manifestName) package.manifest .utf8)
  return entry

end FetchedPackage
end Workbench
