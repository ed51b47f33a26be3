import Workbench.Proofs.Library.Loading
import Workbench.Proofs.Library.Placement
import Workbench.Proofs.Package.Fetching
import Workbench.Proofs.Session.Stretch

/-!
# What a session knows is what it would find out again

With answers that never change, what becomes of a package is decided by its name, and what becomes
of libraries by the options. A session is faithful when its records say so and when the places of
all that is still to come are as they were in the beginning. Packages and libraries that are put in
place keep a session faithful.
-/

namespace Workbench

/-! ## Places -/

theorem isName_libs : IsName "libs" := by decide

namespace Config

/-- The directory of library files that is made unless settings say otherwise. -/
def shelf (config : Config) : Path := config.currentDirectory.child "libs" isName_libs

/-- The configuration has the default library directory, and paths that can be spelled. -/
structure Standard (config : Config) : Prop where
  /-- The working directory can be spelled. -/
  spellable : config.currentDirectory.IsSpellable
  /-- Libraries are in the default directory. -/
  libraryDirectory : config.libraryDirectory = "libs/"

variable {config : Config}

theorem Standard.shelf_spellable (standard : config.Standard) : config.shelf.IsSpellable :=
  standard.spellable.child isName_libs (by decide)

theorem Standard.resolve_libraryLocation (standard : config.Standard) (fs : FileSystem) :
    fs.resolve config.libraryLocation = .ok config.shelf := by
  have walked : config.currentDirectory.walk ("libs" ++ "/" ++ "") = config.shelf := by
    rw [Path.walk_append, Path.walk_empty, Path.walk_of_isName _ isName_libs]
    rfl
  have plain : '\x00' ∉ "libs/".toList := by decide
  rw [libraryLocation, standard.libraryDirectory, FileSystem.resolve,
    Path.resolve?_directoryText _ standard.spellable, if_neg plain]
  exact congrArg Except.ok walked

theorem home_apart_shelf (config : Config) {name : String} (valid : Package.isName name = true) :
    (Package.home config.currentDirectory name).Apart config.shelf :=
  (Path.apart_child Package.isName_directory isName_libs (by decide)).mono
    (Package.directory_le_home config.currentDirectory valid) le_rfl

end Config

namespace FileSystem.Confined

variable {region directory : Path} {before after : FileSystem}

theorem vacant (confined : Confined region before after) (apart : region.Apart directory)
    (vacant : before.Vacant directory) : after.Vacant directory where
  empty path inside := by
    rw [confined.occupant?_eq apart inside, vacant.empty path inside]
  clear path above :=
    confined.clear (fun inside => apart.1 (inside.trans above.le)) (vacant.clear path above)

theorem shelf (confined : Confined region before after) (apart : region.Apart directory)
    (shelf : before.Shelf directory) : after.Shelf directory where
  clear path leads :=
    confined.clear (fun inside => apart.1 (inside.trans leads)) (shelf.clear path leads)
  free name named := by
    rw [confined.occupant?_eq apart (Path.le_child directory name named)]
    exact shelf.free name named

end FileSystem.Confined

/-! ## Verdicts -/

/-- What becomes of a package. -/
def verdict (transport : Transport) (config : Config) (name : String) : PackageState :=
  match PackageFetch.outcome transport ⟨config.registry⟩ name with
  | .error cause => .failed cause
  | .ok package =>
    match package.placed config.currentDirectory with
    | .ok entry => .ready entry package.version
    | .error cause => .failed (.storage cause)

/-- What becomes of libraries when this has been loaded. -/
def libraryVerdict (config : Config) (loaded : Except FetchError LibraryFiles) :
    Except CompileError Unit :=
  match loaded with
  | .error cause => .error (.fetch cause)
  | .ok libraries =>
    ((LibraryFiles.placed config.shelf libraries.entries).map fun _ => ()).mapError
      CompileError.file

/-- The libraries of the options are loaded and put in place without failure. -/
def Provides (transport : Transport) (config : Config) (options : CompilerOptions) : Prop :=
  ∃ loaded requests, SettlesAlone transport LibraryLoad.resume
    (LibraryLoad.start ⟨config.library⟩ options) loaded requests ∧
      libraryVerdict config loaded = .ok ()

namespace Session

/-- The session knows nothing but verdicts, and the places of the rest are as in the beginning. -/
structure Faithful (transport : Transport) (config : Config) (session : Session) : Prop where
  /-- It has the configuration. -/
  config_eq : session.config = config
  /-- Its files are seen from the configured directory. -/
  workingDirectory : session.files.workingDirectory = config.currentDirectory
  /-- What is recorded of a package is the verdict on it. -/
  records : ∀ name state, session.packages.get? name = some state →
    state = verdict transport config name
  /-- The home of a package without a record is vacant. -/
  vacant : ∀ name, Package.isName name = true → session.packages.get? name = none →
    session.files.Vacant (Package.home config.currentDirectory name)
  /-- Libraries have their place. -/
  shelf : session.files.Shelf config.shelf
  /-- The libraries of an installed selection are loaded and put in place without failure. -/
  installed : ∀ options : CompilerOptions, options.libraries ∈ session.installed →
    Provides transport config options

namespace Faithful

variable {transport : Transport} {config : Config} {session : Session} {name : String}

/-- A change that is confined to the home of a package keeps the session faithful once the verdict
on the package is recorded. -/
theorem record (faithful : session.Faithful transport config) {left : FileSystem}
    (changed : left = session.files ∨ (Package.isName name = true ∧
      FileSystem.Confined (Package.home config.currentDirectory name) session.files left)) :
    Faithful transport config { session with
      files := left
      packages := session.packages.insert name (verdict transport config name) } := by
  refine ⟨faithful.config_eq, ?_, ?_, ?_, ?_, faithful.installed⟩
  · rcases changed with rfl | ⟨_, confined⟩
    · exact faithful.workingDirectory
    · exact confined.workingDirectory.trans faithful.workingDirectory
  · intro other state recorded
    by_cases same : other = name
    · subst same
      rw [NameMap.get?_insert_self] at recorded
      exact (Option.some.inj recorded).symm
    · rw [NameMap.get?_insert_of_ne _ same] at recorded
      exact faithful.records other state recorded
  · intro other valid unrecorded
    have distinct : other ≠ name := by
      rintro rfl
      rw [NameMap.get?_insert_self] at unrecorded
      exact nomatch unrecorded
    rw [NameMap.get?_insert_of_ne _ distinct] at unrecorded
    have vacant := faithful.vacant other valid unrecorded
    rcases changed with rfl | ⟨nameValid, confined⟩
    · exact vacant
    · exact confined.vacant (Package.home_apart _ nameValid valid distinct.symm) vacant
  · rcases changed with rfl | ⟨nameValid, confined⟩
    · exact faithful.shelf
    · exact confined.shelf (config.home_apart_shelf nameValid) faithful.shelf

theorem run_store (faithful : session.Faithful transport config)
    (unrecorded : session.packages.get? name = none) :
    ∃ left, (Invocation.store (PackageFetch.outcome transport ⟨config.registry⟩ name)).run session =
        (verdict transport config name, { session with files := left }) ∧
      (left = session.files ∨ (Package.isName name = true ∧
        FileSystem.Confined (Package.home config.currentDirectory name) session.files left)) := by
  rw [Invocation.run_store, verdict]
  cases fetched : PackageFetch.outcome transport ⟨config.registry⟩ name with
  | error cause => exact ⟨session.files, rfl, .inl rfl⟩
  | ok package =>
      obtain ⟨valid, rfl, isEntry⟩ := PackageFetch.fits_of_outcome transport _ name fetched
      have vacant := faithful.vacant _ valid unrecorded
      rw [← faithful.workingDirectory] at vacant ⊢
      obtain ⟨left, placed, confined⟩ := FetchedPackage.materialize_of_vacant valid isEntry vacant
      refine ⟨left, ?_, .inr ⟨valid, confined⟩⟩
      cases outcome : package.placed session.files.workingDirectory <;>
        simp only [placed, outcome]

theorem run_settlePackage (faithful : session.Faithful transport config)
    (unrecorded : session.packages.get? name = none) :
    ∃ left, (Invocation.settlePackage session.generation name
        (PackageFetch.outcome transport ⟨config.registry⟩ name)).run session =
          ((verdict transport config name).result, left) ∧
      left.Faithful transport config ∧ left.generation = session.generation ∧
      left.packages.get? name = some (verdict transport config name) ∧
      ∀ other ≠ name, left.packages.get? other = session.packages.get? other := by
  obtain ⟨files, stored, changed⟩ := faithful.run_store unrecorded
  refine ⟨_, ?_, faithful.record changed, rfl, NameMap.get?_insert_self .., ?_⟩
  · rw [Invocation.run_settlePackage_of_current _ rfl, Invocation.settled, stored]
  · exact fun other distinct => NameMap.get?_insert_of_ne _ distinct _

theorem start_congr {options options' : CompilerOptions} (same : options.libraries = options'.libraries)
    (site : LibrarySite) : LibraryLoad.start site options = LibraryLoad.start site options' := by
  have parts := LibrarySelection.mk.inj same
  rw [LibraryLoad.start, LibraryLoad.start, CompilerOptions.rootLibraries,
    CompilerOptions.rootLibraries, parts.1, parts.2.1, parts.2.2]

/-- A change that is confined to the place of libraries keeps the session faithful, with the
selections whose libraries are put in place without failure. -/
theorem place (faithful : session.Faithful transport config) {left : FileSystem}
    {selections : List LibrarySelection}
    (confined : FileSystem.Confined config.shelf session.files left) (shelf : left.Shelf config.shelf)
    (installed : ∀ options : CompilerOptions, options.libraries ∈ selections →
      Provides transport config options) :
    Faithful transport config { session with files := left, installed := selections } where
  config_eq := faithful.config_eq
  workingDirectory := confined.workingDirectory.trans faithful.workingDirectory
  records := faithful.records
  vacant name valid unrecorded :=
    confined.vacant (config.home_apart_shelf valid).symm (faithful.vacant name valid unrecorded)
  shelf := shelf
  installed := installed

theorem run_settleLibraries (standard : config.Standard)
    (faithful : session.Faithful transport config) {options : CompilerOptions}
    {loaded : Except FetchError LibraryFiles} {requests : List Url}
    (loading : SettlesAlone transport LibraryLoad.resume
      (LibraryLoad.start ⟨config.library⟩ options) loaded requests)
    (named : ∀ libraries, loaded = .ok libraries → ∀ file ∈ libraries.entries, IsName file.1) :
    ∃ left, (Invocation.settleLibraries session.generation options loaded).run session =
        (libraryVerdict config loaded, left) ∧
      left.Faithful transport config ∧ left.generation = session.generation ∧
      left.packages = session.packages := by
  cases loaded with
  | error cause => exact ⟨session, rfl, faithful, rfl, rfl⟩
  | ok libraries =>
      have resolved : session.files.resolve session.config.libraryLocation = .ok config.shelf := by
        rw [faithful.config_eq]
        exact standard.resolve_libraryLocation session.files
      obtain ⟨left, placed, confined, shelf⟩ := LibraryFiles.install_of_shelf resolved
        standard.shelf_spellable (named libraries rfl) faithful.shelf
      rw [Invocation.run_settleLibraries_of_current libraries rfl, Session.run_install, placed]
      cases outcome : LibraryFiles.placed config.shelf libraries.entries with
      | error cause =>
          refine ⟨_, ?_, faithful.place confined shelf faithful.installed, rfl, rfl⟩
          simp [libraryVerdict, outcome, Except.map, Except.mapError]
      | ok paths =>
          have success : libraryVerdict config (.ok libraries) = .ok () := by
            simp [libraryVerdict, outcome, Except.map, Except.mapError]
          have installed : ∀ options' : CompilerOptions,
              options'.libraries ∈ options.libraries :: session.installed →
                Provides transport config options' := by
            intro options' member
            rcases List.mem_cons.mp member with same | old
            · rw [Provides, start_congr same]
              exact ⟨.ok libraries, requests, loading, success⟩
            · exact faithful.installed options' old
          refine ⟨_, ?_, faithful.place confined shelf installed, rfl, rfl⟩
          rw [success]
          rfl

end Faithful
end Session
end Workbench
