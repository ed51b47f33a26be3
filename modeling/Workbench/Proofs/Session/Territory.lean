import Workbench.Proofs.Library.Placement
import Workbench.Proofs.Package.Resolution
import Workbench.Proofs.Session.Upkeep

/-!
# Where invocations write

Whatever is answered to an invocation, it writes packages below the directory of packages and
libraries at their location. All other files of the session are left to the editors.
-/

namespace Workbench

namespace Config

/-- The paths at which packages and libraries are put. -/
def Reserved (config : Config) (path : Path) : Prop :=
  config.currentDirectory.child Package.directory Package.isName_directory ≤ path ∨
    ∃ location, config.currentDirectory.resolve? config.libraryLocation = some location ∧
      location ≤ path

instance (config : Config) (path : Path) : Decidable (config.Reserved path) :=
  inferInstanceAs (Decidable (_ ∨
    ∃ location ∈ config.currentDirectory.resolve? config.libraryLocation, location ≤ path))

end Config

namespace Session

/-- The session is of the configuration, and its files are seen from the configured directory. -/
structure Situated (config : Config) (session : Session) : Prop where
  config_eq : session.config = config
  workingDirectory : session.files.workingDirectory = config.currentDirectory
  spellable : config.currentDirectory.IsSpellable

/-- No invocation began, and all that was written is in the places for packages and libraries. -/
structure Tended (config : Config) (before after : Session) : Prop where
  config_eq : after.config = before.config
  generation : after.generation = before.generation
  files : FileSystem.Growth config.Reserved before.files after.files

variable {config : Config} {before middle after session : Session}

theorem Tended.refl (config : Config) (session : Session) : Tended config session session :=
  ⟨rfl, rfl, .refl _ _⟩

theorem Tended.trans (first : Tended config before middle) (second : Tended config middle after) :
    Tended config before after :=
  ⟨second.config_eq.trans first.config_eq, second.generation.trans first.generation,
    first.files.trans second.files⟩

theorem Situated.tend (situated : before.Situated config) (tended : Tended config before after) :
    after.Situated config :=
  ⟨tended.config_eq.trans situated.config_eq,
    tended.files.workingDirectory.trans situated.workingDirectory, situated.spellable⟩

end Session

namespace Invocation

open Session (Situated Tended)

variable {config : Config} {session : Session}

theorem growth_store {name : String} (situated : session.Situated config)
    {fetched : Except FetchError FetchedPackage} (fits : Fetched name fetched) :
    FileSystem.Growth config.Reserved session.files ((store fetched).run session).2.files := by
  rw [run_store]
  cases fetched with
  | error cause => exact .refl _ _
  | ok package =>
      obtain ⟨valid, rfl, isEntry⟩ := fits package rfl
      refine (FetchedPackage.growth_materialize valid isEntry session.files).mono
        fun path inside => .inl ?_
      rw [situated.workingDirectory] at inside
      exact (Package.directory_le_home config.currentDirectory valid).trans inside

theorem tended_settled {name : String} (situated : session.Situated config)
    {fetched : Except FetchError FetchedPackage} (fits : Fetched name fetched) :
    Tended config session (settled name fetched session) := by
  have grown := growth_store situated fits
  obtain ⟨files, left_eq⟩ := run_store_frame fetched session
  rw [left_eq] at grown
  simp only [settled, left_eq]
  exact ⟨rfl, rfl, grown⟩

theorem tended_install (situated : session.Situated config) (selection : LibrarySelection)
    {libraries : LibraryFiles} (named : ∀ entry ∈ libraries.entries, IsName entry.1) :
    Tended config session ((Session.install selection libraries).run session).2 := by
  have spellable := situated.workingDirectory ▸ situated.spellable
  have grown : FileSystem.Growth _ session.files
      ((libraries.install config.libraryLocation).perform session.files).2 :=
    LibraryFiles.growth_install spellable named
  have reserved : FileSystem.Growth config.Reserved session.files
      ((libraries.install config.libraryLocation).perform session.files).2 := by
    refine grown.mono fun path inside => .inr ?_
    obtain ⟨location, resolved, leads⟩ := inside
    rw [FileSystem.resolve_eq_ok_iff, situated.workingDirectory] at resolved
    exact ⟨location, resolved, leads⟩
  rw [Session.run_install, situated.config_eq]
  dsimp only
  split <;> exact ⟨situated.config_eq.symm, rfl, reserved⟩

/-- Invocations tend the session in which they began. -/
theorem upheld_tended {before : Session} (situated : before.Situated config) :
    Upheld (Tended config before) where
  settled fits tended := tended.trans (tended_settled (situated.tend tended) fits)
  installed supplies tended := tended.trans (tended_install (situated.tend tended) _ supplies.named)

theorem situated_begun (situated : session.Situated config) : (begun session).Situated config :=
  ⟨situated.config_eq, situated.workingDirectory, situated.spellable⟩

theorem keeps_prepare (situated : session.Situated config) (options : CompilerOptions)
    (packages : List String) :
    Leaves (Tended config (begun session)) ((prepare options packages).run session) :=
  (upheld_tended (situated_begun situated)).prepare options packages (.refl config (begun session))

theorem keeps_preload (situated : session.Situated config) (packages : List String) :
    Leaves (Tended config session) ((preload packages).run session) :=
  (upheld_tended situated).preload packages (.refl config session)

theorem keeps_resume (situated : session.Situated config) {invocation : Invocation}
    (sound : invocation.Sound) (reply : Reply) :
    Leaves (Tended config session) ((invocation.resume reply).run session) :=
  (upheld_tended situated).resume sound reply (.refl config session)

end Invocation
end Workbench
