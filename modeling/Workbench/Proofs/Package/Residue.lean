import Workbench.Proofs.FileSystem.Storing
import Workbench.Proofs.Package.Resolution

/-!
# What a refused package leaves behind

Materializing a package stores its types and then writes its manifest. If the types are refused,
nothing has changed. But once they are stored, the manifest can still be refused, because a directory
is in its place, and then the types stay: there is no way to take them back.
-/

namespace Workbench
namespace FetchedPackage

open FileSystem (Admits Stored)

variable {package : FetchedPackage} {home : Path} {fs left : FileSystem}

theorem perform_fill (home : Path) (isEntry : Package.IsEntry package.descriptor.entry)
    (fs : FileSystem) : (package.fill home).perform fs = (do
      FileSystem.storeAt (home.walk package.descriptor.entry) package.declarations
      FileActivity.ofOperation
        (·.writeAt (home.child Package.manifestName isName_manifestName) package.manifest .utf8)
      return home.walk package.descriptor.entry : FileActivity Path).perform fs := by
  obtain ⟨above, last, named, leads, walk_eq⟩ := Package.exists_entry_eq_child home isEntry
  have parent_eq : (above.child last named).parent?.getD .root = above := by
    simp [Path.parent?]
  rw [fill, walk_eq, parent_eq, FileSystem.storeAt_child]
  rcases made : (FileSystem.makeDirectoriesAt above).perform fs with ⟨cause | _, chain⟩
  · rw [FileActivity.perform_bind_of_error made,
      FileActivity.perform_bind_of_error (FileActivity.perform_bind_of_error made)]
  · -- The home is on the way to the types, so that it is there already.
    have lead : chain.occupant? home = some .directory := by
      have there := FileSystem.occupant?_of_makeDirectoriesAt made
      rcases leads.eq_or_lt with rfl | strictly
      · exact there
      · exact chain.coherent.directory_of_lt strictly (by simp [there])
    rw [FileActivity.perform_bind_of_ok made,
      FileActivity.perform_bind_of_ok (FileSystem.makeDirectoriesAt_of_directory lead),
      FileActivity.perform_bind, FileActivity.perform_bind, FileActivity.perform_bind_of_ok made]

theorem fill_of_not_admits (isEntry : Package.IsEntry package.descriptor.entry)
    (refused : ¬fs.Admits (home.walk package.descriptor.entry)) :
    ∃ cause, (package.fill home).perform fs = (.error cause, fs) := by
  obtain ⟨cause, failed⟩ := FileSystem.storeAt_of_not_admits refused package.declarations
  exact ⟨cause, (perform_fill home isEntry fs).trans (FileActivity.perform_bind_of_error failed)⟩

/-- Once the types are stored, a directory is in the place of the manifest if there was one before
or if the way to the types leads through it. -/
theorem directory_iff_of_stored {manifest entry : Path} {text : String} (admits : fs.Admits entry)
    (stored : Stored entry text fs left) : left.occupant? manifest = some .directory ↔
      manifest < entry ∨ fs.occupant? manifest = some .directory := by
  constructor
  · intro there
    have distinct : manifest ≠ entry := by
      rintro rfl
      exact nomatch stored.file.symm.trans there
    rw [stored.elsewhere manifest distinct] at there
    split at there
    next made => exact .inl made.1
    next => exact .inr there
  · rintro (above | there)
    · exact stored.lead above
    · have distinct : manifest ≠ entry := by
        rintro rfl
        exact admits.free there
      rw [stored.elsewhere manifest distinct, there, ite_self]

theorem fill_of_admits (isEntry : Package.IsEntry package.descriptor.entry)
    (admits : fs.Admits (home.walk package.descriptor.entry)) :
    ∃ stored, Stored (home.walk package.descriptor.entry) package.declarations fs stored ∧
      ((home.child Package.manifestName isName_manifestName < home.walk package.descriptor.entry ∨
          fs.occupant? (home.child Package.manifestName isName_manifestName) = some .directory) ∧
        (package.fill home).perform fs = (.error (.typeConflict
          (home.child Package.manifestName isName_manifestName) .file), stored) ∨
      ∃ left, (package.fill home).perform fs = (.ok (home.walk package.descriptor.entry), left)) := by
  obtain ⟨stored, done, isStored⟩ := FileSystem.exists_stored admits package.declarations
  obtain ⟨above, last, named, leads, walk_eq⟩ := Package.exists_entry_eq_child home isEntry
  have home_lt : home < home.walk package.descriptor.entry := by
    rw [walk_eq]
    exact Path.lt_child_iff.mpr leads
  refine ⟨stored, isStored, ?_⟩
  rw [perform_fill home isEntry, FileActivity.perform_bind_of_ok done,
    ← directory_iff_of_stored admits isStored]
  by_cases taken : stored.occupant? (home.child Package.manifestName isName_manifestName) =
      some .directory
  · refine .inl ⟨taken, FileActivity.perform_bind_of_error ?_⟩
    rw [FileActivity.perform_ofOperation,
      FileSystem.writeAt_of_directory (FileSystem.encode?_utf8 package.manifest) taken]
  · obtain ⟨left, written, _⟩ := FileSystem.writeAt_ok
      (FileSystem.encode?_utf8 package.manifest) (isStored.lead home_lt) taken
    refine .inr ⟨left, ?_⟩
    rw [FileActivity.perform_bind_of_ok (by rw [FileActivity.perform_ofOperation, written])]
    rfl

/-- A package that was fetched and is refused leaves no trace exactly if its types could not be
stored or were stored already. Otherwise its types have been stored, together with the directories
that were missing on the way, before its manifest was refused: a directory was in the place of the
manifest, or has been made there because the types are below it. -/
theorem refused_traceless_iff {registry : PackageRegistry} {name : String}
    (brings : PackageFetch.Brings registry name package) {cause : FileError}
    (refused : package.materialize.perform fs = (.error cause, left)) :
    ∃ root entry, fs.resolve package.descriptor.root = .ok root ∧
      fs.resolve package.descriptor.entryFile = .ok entry ∧
      (left = fs ↔ ¬fs.Admits entry ∨
        fs.occupant? entry = some (.file package.declarations.toUTF8)) ∧
      (left ≠ fs → Stored entry package.declarations fs left ∧
        cause = .typeConflict (root.child Package.manifestName isName_manifestName) .file ∧
        (root.child Package.manifestName isName_manifestName < entry ∨
          fs.occupant? (root.child Package.manifestName isName_manifestName) =
            some .directory)) := by
  obtain ⟨valid, rfl, isEntry⟩ := brings.fits
  refine ⟨_, _, resolve_root valid fs, resolve_entryFile valid isEntry fs, ?_⟩
  rw [perform_materialize valid isEntry] at refused
  generalize Package.home fs.workingDirectory package.descriptor.name = home at *
  by_cases admits : fs.Admits (home.walk package.descriptor.entry)
  · obtain ⟨stored, isStored, ⟨taken, failed⟩ | ⟨done, filled⟩⟩ := fill_of_admits isEntry admits
    · obtain ⟨rfl, rfl⟩ : FileError.typeConflict _ _ = cause ∧ stored = left := by
        simpa using failed.symm.trans refused
      refine ⟨⟨?_, ?_⟩, fun _ => ⟨isStored, rfl, taken⟩⟩
      · rintro rfl
        exact .inr isStored.file
      · rintro (barred | there)
        · exact absurd admits barred
        · exact isStored.eq_of_file there
    · exact nomatch (Prod.mk.inj (filled.symm.trans refused)).1
  · obtain ⟨_, failed⟩ : ∃ cause, (package.fill home).perform fs = (.error cause, fs) :=
      fill_of_not_admits isEntry admits
    obtain rfl : fs = left := (Prod.mk.inj (failed.symm.trans refused)).2
    exact ⟨iff_of_true rfl (.inl admits), fun changed => absurd rfl changed⟩

end FetchedPackage

namespace Sample

/-- A package whose types are meant to be below its manifest. -/
def nestedPackage : FetchedPackage where
  descriptor := ⟨"pad", "package.json/index.d.ts"⟩
  version := none
  manifest := "\x7b\"types\":\"package.json/index.d.ts\"\x7d"
  declarations := "export {};\n"

/-- Where the manifest of the plain package belongs. -/
def plainManifest : Path :=
  (Package.home workshop.workingDirectory "pad").child Package.manifestName
    FetchedPackage.isName_manifestName

/-- A package is brought and refused, and yet its types stay, and its name resolves to a file that
is not there. -/
theorem refused_package_resolves :
    PackageFetch.Brings mirror "pad" nestedPackage ∧
      (nestedPackage.materialize.perform workshop).1 =
        .error (.typeConflict plainManifest .file) ∧
      (nestedPackage.materialize.perform workshop).2 ≠ workshop ∧
      ModuleResolver.resolve ⟨.shallow, "0.0.0"⟩
          { files := (nestedPackage.materialize.perform workshop).2 } ["pad"] =
        [some ⟨"/work/node_modules/pad/index.d.ts", .dts, ⟨"pad", "", "0.0.0"⟩, true⟩] ∧
      Bridge.fileExists { files := (nestedPackage.materialize.perform workshop).2 }
        "/work/node_modules/pad/index.d.ts" = false := by
  refine ⟨⟨[.ok ⟨200, nestedPackage.manifest⟩, .ok ⟨200, nestedPackage.declarations⟩],
    Progress.value?_eq_some_iff.mp (by decide +kernel)⟩, by decide +kernel, fun same => ?_,
    by decide +kernel, by decide +kernel⟩
  have made : (nestedPackage.materialize.perform workshop).2.occupant? plainManifest =
      some .directory := by
    decide +kernel
  rw [same] at made
  exact absurd made (by decide +kernel)

/-- A workshop in which a directory stands where the manifest of the plain package belongs. -/
def clutteredWorkshop : FileSystem :=
  ((FileSystem.makeDirectories "node_modules/pad/package.json").perform workshop).2

/-- The plain package is refused there, and its types stay. -/
theorem refused_traceless_iff_cluttered :
    ∃ cause left, plainPackage.materialize.perform clutteredWorkshop = (.error cause, left) ∧
      FileSystem.Stored (workshop.workingDirectory.walk "node_modules/pad/index.d.ts")
        plainPackage.declarations clutteredWorkshop left ∧
      cause = .typeConflict plainManifest .file := by
  have failed : (plainPackage.materialize.perform clutteredWorkshop).1 =
      .error (.typeConflict plainManifest .file) := by
    decide +kernel
  have refused : plainPackage.materialize.perform clutteredWorkshop =
      (.error (.typeConflict plainManifest .file),
        (plainPackage.materialize.perform clutteredWorkshop).2) := by
    rw [← failed]
  have resolved : (clutteredWorkshop.resolve plainPackage.descriptor.entryFile).toOption =
      some (workshop.workingDirectory.walk "node_modules/pad/index.d.ts") := by
    decide +kernel
  obtain ⟨root, entry, _, entry_eq, _, changed⟩ :=
    FetchedPackage.refused_traceless_iff brings_plainPackage refused
  rw [entry_eq] at resolved
  obtain rfl := Option.some.inj resolved
  have left_ne : (plainPackage.materialize.perform clutteredWorkshop).2 ≠ clutteredWorkshop := by
    intro same
    have there : (plainPackage.materialize.perform clutteredWorkshop).2.occupant?
        (workshop.workingDirectory.walk "node_modules/pad/index.d.ts") ≠ none := by
      decide +kernel
    rw [same] at there
    exact there (by decide +kernel)
  obtain ⟨stored, _, _⟩ := changed left_ne
  exact ⟨_, _, refused, stored, rfl⟩

end Sample
end Workbench
