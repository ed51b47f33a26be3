import Workbench.Json.Record
import Workbench.Text.Pieces

/-!
# Package manifests

The manifest of a package is a JSON record of which four fields matter here.
-/

namespace Workbench

/-- The fields of a manifest that are looked at. -/
structure PackageManifest where
  /-- Package name. -/
  name : Option String
  /-- Package version. -/
  version : Option String
  /-- Path of the type declarations. -/
  types : Option String
  /-- The same under its older name. -/
  typings : Option String
deriving DecidableEq, Repr

namespace PackageManifest

/-- The record that a manifest is read as. -/
def shape : Json.RecordShape := ⟨"struct PackageManifest", ["name", "version", "types", "typings"]⟩

/-- Reads a manifest. -/
def read (text : String) : Except Json.Failure PackageManifest :=
  ((Json.Reader.record shape).run text).map fun fields =>
    ⟨fields.text? "name", fields.text? "version", fields.text? "types", fields.text? "typings"⟩

/-- The declared path of the type declarations. The newer field goes first even when it is blank,
and a blank path declares nothing. -/
def typesEntry? (manifest : PackageManifest) : Option String :=
  (manifest.types <|> manifest.typings).filter fun entry => !(Text.trim entry.toList).isEmpty

end PackageManifest
end Workbench
