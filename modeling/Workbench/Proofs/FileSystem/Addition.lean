import Workbench.Library.Load
import Workbench.Package.Fetch
import Workbench.Proofs.FileSystem.Growth

/-!
# Activities that only add

Directories are made where nothing was and files are written where no directory is. So whatever an
activity does and wherever it fails, directories stay directories and files stay files. As all
activities write UTF-8, files that could be read as text still can.
-/

namespace Workbench
namespace FileSystem

/-- Every file holds a text. -/
def Legible (fs : FileSystem) : Prop :=
  ∀ path content, fs.occupant? path = some (.file content) → ∃ text : String, content = text.toUTF8

/-- Territory without bounds. -/
abbrev Anywhere : Path → Prop := fun _ => True

/-- Whatever was there is still there, and nothing but text has been written. -/
structure Added (before after : FileSystem) : Prop where
  growth : Growth Anywhere before after
  legible : before.Legible → after.Legible

namespace Added

variable {before middle after : FileSystem}

theorem refl (fs : FileSystem) : Added fs fs := ⟨.refl Anywhere fs, id⟩

theorem trans (first : Added before middle) (second : Added middle after) : Added before after :=
  ⟨first.growth.trans second.growth, second.legible ∘ first.legible⟩

theorem of_put {target : Path} {text : String} (free : before.occupant? target ≠ some .directory)
    (workingDirectory : after.workingDirectory = before.workingDirectory)
    (view : ∀ other, after.occupant? other =
      if other = target then some (.file text.toUTF8) else before.occupant? other) :
    Added before after where
  growth := .of_put trivial free workingDirectory view
  legible legible path content there := by
    rw [view] at there
    split at there
    next =>
      obtain rfl := Occupant.file.inj (Option.some.inj there)
      exact ⟨text, rfl⟩
    next => exact legible path content there

theorem of_made {target : Path} (free : before.occupant? target = none)
    (workingDirectory : after.workingDirectory = before.workingDirectory)
    (view : ∀ other, after.occupant? other =
      if other = target then some .directory else before.occupant? other) :
    Added before after where
  growth := (Growth.of_made free workingDirectory view).anywhere
  legible legible path content there := by
    rw [view] at there
    split at there
    next => cases there
    next => exact legible path content there

theorem of_chain {target : Path} (clear : ∀ path ≤ target, ¬Occupant.IsFile (before.occupant? path))
    (workingDirectory : after.workingDirectory = before.workingDirectory)
    (view : ∀ other, after.occupant? other =
      if other ≤ target then some .directory else before.occupant? other) :
    Added before after where
  growth := (Growth.of_chain clear workingDirectory view).anywhere
  legible legible path content there := by
    rw [view] at there
    split at there
    next => exact nomatch there
    next => exact legible path content there

end Added

variable {fs left : FileSystem} {path : Path} {text name : String}

theorem legible_bare (workingDirectory : Path) : (bare workingDirectory).Legible := by
  intro path content there
  rw [occupant?_bare] at there
  split at there
  · exact nomatch there
  · exact nomatch there

/-- Where every file holds a text, any text that leads to a file leads to what can be read. -/
theorem Legible.exists_read (legible : fs.Legible)
    (resolved : fs.workingDirectory.resolve? name = some path)
    (isFile : Occupant.IsFile (fs.occupant? path)) : ∃ text, fs.read name .utf8 = .ok text := by
  obtain ⟨content, there⟩ := Occupant.isFile_iff.mp isFile
  obtain ⟨text, rfl⟩ := legible path content there
  refine ⟨text, ?_⟩
  rw [read, resolve_eq_ok_iff.mpr resolved]
  exact readAt_of_occupant? there

/-- A text that was written as such has been added. -/
theorem added_of_writeAt (success : fs.writeAt path text .utf8 = .ok left) : Added fs left := by
  obtain ⟨_, _, _, content, _, encoded, _, free, workingDirectory, view⟩ := view_of_writeAt success
  rw [encode?_utf8] at encoded
  obtain rfl := Option.some.inj encoded
  exact .of_put free workingDirectory view

/-- Whatever the encoding, a written file takes no directory's place. -/
theorem growth_of_write {encoding : Encoding} (success : fs.write name text encoding = .ok left) :
    Growth Anywhere fs left := by
  obtain ⟨path, _, success⟩ := exists_writeAt_of_write success
  exact growth_of_writeAt trivial success

theorem added_of_write (success : fs.write name text .utf8 = .ok left) : Added fs left := by
  obtain ⟨path, _, success⟩ := exists_writeAt_of_write success
  exact added_of_writeAt success

theorem added_of_makeDirectory (success : fs.makeDirectory name = .ok left) : Added fs left := by
  obtain ⟨path, _, success⟩ := exists_makeDirectoryAt_of_makeDirectory success
  obtain ⟨free, workingDirectory, view⟩ := view_of_makeDirectoryAt success
  exact .of_made free workingDirectory view

end FileSystem

namespace FileActivity

open FileSystem (Added)

variable {α β : Type}

/-- The activity only adds, whether it succeeds or fails on the way. -/
def Adds (activity : FileActivity α) : Prop := ∀ fs, Added fs (activity.perform fs).2

theorem adds_pure (value : α) : Adds (pure value : FileActivity α) := Added.refl

theorem Adds.bind {activity : FileActivity α} {next : α → FileActivity β} (first : Adds activity)
    (rest : ∀ answer, Adds (next answer)) : Adds (activity >>= next) := by
  intro fs
  have added := first fs
  rcases performed : activity.perform fs with ⟨cause | answer, middle⟩
  · rw [performed] at added
    rw [perform_bind_of_error performed]
    exact added
  · rw [performed] at added
    rw [perform_bind_of_ok performed]
    exact added.trans (rest answer middle)

theorem adds_ofQuery (query : FileSystem → Except FileError α) : Adds (ofQuery query) := by
  intro fs
  rw [perform_ofQuery]
  exact .refl fs

theorem adds_ofOperation {operation : FileSystem → Except FileError FileSystem}
    (each : ∀ fs left, operation fs = .ok left → Added fs left) : Adds (ofOperation operation) := by
  intro fs
  rw [perform_ofOperation]
  cases success : operation fs with
  | error cause => exact .refl fs
  | ok left => exact each fs left success

end FileActivity

namespace FileSystem

open FileActivity (Adds adds_ofQuery adds_ofOperation adds_pure)

theorem adds_writeAt (path : Path) (text : String) :
    Adds (FileActivity.ofOperation (·.writeAt path text .utf8)) :=
  adds_ofOperation fun _ _ => added_of_writeAt

theorem adds_makeDirectoriesAt (path : Path) : Adds (makeDirectoriesAt path) := by
  intro fs
  cases found : fs.missing path.upward with
  | error cause =>
      have failed : (FileActivity.ofQuery (·.missing path.upward)).perform fs =
          (.error cause, fs) := by
        rw [FileActivity.perform_ofQuery, found]
      rw [makeDirectoriesAt, FileActivity.perform_bind_of_error failed]
      exact .refl fs
  | ok absent =>
      have clear := clear_of_missing found
      obtain ⟨left, made, workingDirectory, view⟩ := makeDirectoriesAt_ok clear
      rw [made]
      exact .of_chain clear workingDirectory view

theorem adds_makeDirectories (path : String) : Adds (makeDirectories path) :=
  (adds_ofQuery _).bind adds_makeDirectoriesAt

theorem adds_storeAt (path : Path) (text : String) : Adds (storeAt path text) := by
  rcases path.eq_root_or_child with rfl | ⟨directory, name, named, rfl⟩
  · exact adds_writeAt .root text
  · rw [storeAt_child]
    exact (adds_makeDirectoriesAt directory).bind fun _ => adds_writeAt _ text

theorem adds_store (path text : String) : Adds (store path text) :=
  (adds_ofQuery _).bind fun path => (adds_storeAt path text).bind fun _ => adds_pure path

end FileSystem

open FileActivity (Adds adds_ofQuery adds_ofOperation adds_pure)

theorem FetchedPackage.adds_materialize (package : FetchedPackage) : Adds package.materialize := by
  refine (adds_ofQuery _).bind fun root => (adds_ofQuery _).bind fun entry => ?_
  refine (FileSystem.adds_makeDirectoriesAt _).bind fun _ => ?_
  refine (FileSystem.adds_makeDirectoriesAt root).bind fun _ => ?_
  refine (FileSystem.adds_writeAt entry package.declarations).bind fun _ => ?_
  exact (FileSystem.adds_writeAt _ package.manifest).bind fun _ => adds_pure entry

namespace LibraryFiles

theorem adds_writeAll (location : String) (files : List (String × String)) :
    Adds (writeAll location files) := by
  induction files with
  | nil => exact adds_pure []
  | cons file files induction =>
      have put : Adds (FileActivity.ofOperation
          (·.write (Spelling.join location file.1) file.2 .utf8)) :=
        adds_ofOperation fun _ _ => FileSystem.added_of_write
      exact put.bind fun _ => induction.bind fun _ => adds_pure _

theorem adds_install (files : LibraryFiles) (location : String) : Adds (files.install location) :=
  (adds_ofQuery _).bind fun directory => (FileSystem.adds_makeDirectoriesAt directory).bind fun _ =>
    adds_writeAll directory.text files.entries

end LibraryFiles
end Workbench
