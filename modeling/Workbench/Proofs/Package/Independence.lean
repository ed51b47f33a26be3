import Workbench.Proofs.FileSystem.Locality
import Workbench.Proofs.Package.Resolution

/-!
# Packages do not interfere

The homes of two packages are apart, and filling a home keeps to it. So what comes of materializing
a package does not depend on whether another one has come before, whatever else is in the file
system and in the way.
-/

namespace Workbench
namespace FetchedPackage

variable {package other : FetchedPackage}

theorem local_fill (home : Path) (isEntry : Package.IsEntry package.descriptor.entry) :
    FileActivity.Local home (package.fill home) := by
  obtain ⟨above, last, named, leads, walk_eq⟩ := Package.exists_entry_eq_child home isEntry
  have parent_eq : (above.child last named).parent?.getD .root = above := by
    simp [Path.parent?]
  rw [fill, walk_eq, parent_eq]
  refine .bind (FileSystem.local_makeDirectoriesAt leads) fun _ => ?_
  refine .bind (FileSystem.local_makeDirectoriesAt le_rfl) fun _ => ?_
  refine .bind (FileSystem.local_writeAt leads named package.declarations .utf8) fun _ => ?_
  exact .bind (FileSystem.local_writeAt le_rfl isName_manifestName package.manifest .utf8) fun _ =>
    .pure (above.child last named)

/-- Packages of different names that were fetched are materialized with the same results and the
same files in either order. Each leaves alone whatever is in the home of the other; outside of its
own home it makes directories above that home where nothing was, and changes nothing else. -/
theorem materialize_independent {registry otherRegistry : PackageRegistry} {name otherName : String}
    (brings : PackageFetch.Brings registry name package)
    (otherBrings : PackageFetch.Brings otherRegistry otherName other) (distinct : name ≠ otherName)
    (fs : FileSystem) :
    ∃ home otherHome, fs.resolve package.descriptor.root = .ok home ∧
      fs.resolve other.descriptor.root = .ok otherHome ∧
      (package.materialize.perform (other.materialize.perform fs).2).1 =
        (package.materialize.perform fs).1 ∧
      (other.materialize.perform (package.materialize.perform fs).2).1 =
        (other.materialize.perform fs).1 ∧
      (other.materialize.perform (package.materialize.perform fs).2).2 =
        (package.materialize.perform (other.materialize.perform fs).2).2 ∧
      (∀ path, otherHome ≤ path →
        (package.materialize.perform fs).2.occupant? path = fs.occupant? path) ∧
      ∀ path, ¬home ≤ path →
        (package.materialize.perform fs).2.occupant? path = fs.occupant? path ∨
          path < home ∧ fs.occupant? path = none ∧
            (package.materialize.perform fs).2.occupant? path = some .directory := by
  obtain ⟨valid, rfl, isEntry⟩ := brings.fits
  obtain ⟨otherValid, rfl, otherEntry⟩ := otherBrings.fits
  refine ⟨_, _, resolve_root valid fs, resolve_root otherValid fs, ?_⟩
  have apart := Package.home_apart fs.workingDirectory valid otherValid distinct
  have kept := (growth_materialize valid isEntry fs).workingDirectory
  have otherKept := (growth_materialize otherValid otherEntry fs).workingDirectory
  rw [perform_materialize valid isEntry (other.materialize.perform fs).2, otherKept,
    perform_materialize otherValid otherEntry (package.materialize.perform fs).2, kept,
    perform_materialize valid isEntry, perform_materialize otherValid otherEntry]
  have isLocal := local_fill (Package.home fs.workingDirectory package.descriptor.name) isEntry
  have otherLocal := local_fill (Package.home fs.workingDirectory other.descriptor.name) otherEntry
  obtain ⟨same, otherSame, files⟩ := isLocal.commute otherLocal apart fs
  have footprint := isLocal.footprint fs
  exact ⟨same, otherSame, files, fun _ inside => footprint.occupant?_eq apart inside,
    fun _ outside => footprint.kept_or_made outside⟩

end FetchedPackage

namespace Sample

/-- A workshop in which a file stands where the plain package belongs. -/
def blockedWorkshop : FileSystem :=
  ((FileSystem.store "node_modules/pad" "in the way").perform workshop).2

/-- The plain package is refused in either order, the scoped one comes in either order. -/
theorem materialize_independent_blocked :
    (plainPackage.materialize.perform (scopedPackage.materialize.perform blockedWorkshop).2).1 =
        .error (.typeConflict (Package.home workshop.workingDirectory "pad") .directory) ∧
      (scopedPackage.materialize.perform (plainPackage.materialize.perform blockedWorkshop).2).1 =
        .ok (workshop.workingDirectory.walk "node_modules/@types/pad/lib/pad.d.ts") ∧
      (scopedPackage.materialize.perform (plainPackage.materialize.perform blockedWorkshop).2).2 =
        (plainPackage.materialize.perform (scopedPackage.materialize.perform blockedWorkshop).2).2 := by
  have refused : (plainPackage.materialize.perform blockedWorkshop).1 =
      .error (.typeConflict (Package.home workshop.workingDirectory "pad") .directory) := by
    decide +kernel
  have placed : (scopedPackage.materialize.perform blockedWorkshop).1 =
      .ok (workshop.workingDirectory.walk "node_modules/@types/pad/lib/pad.d.ts") := by
    decide +kernel
  obtain ⟨_, _, _, _, same, same', files, _⟩ := FetchedPackage.materialize_independent
    brings_plainPackage brings_scopedPackage (by decide) blockedWorkshop
  exact ⟨same.trans refused, same'.trans placed, files⟩

end Sample
end Workbench
