import Workbench.Proofs.Session.LiveSession

/-!
# Packages that are ready stay in place

A package is recorded as ready when both of its files have been put into its home. As nothing that
can happen to a session removes a file or puts something else in its place, they are still there
whenever the record is looked at.
-/

namespace Workbench

/-- Both files of a package are there, and its types are in its home. -/
structure Package.Stands (name : String) (entry : Path) (fs : FileSystem) : Prop where
  valid : Package.isName name = true
  below : Package.home fs.workingDirectory name < entry
  spellable : entry.IsSpellable
  declarations : Occupant.IsFile (fs.occupant? entry)
  manifest : Occupant.IsFile (fs.occupant? ((Package.home fs.workingDirectory name).child
    Package.manifestName FetchedPackage.isName_manifestName))

namespace Package.Stands

variable {name : String} {entry : Path} {fs left : FileSystem}

theorem grow (stands : Stands name entry fs) {territory : Path → Prop}
    (growth : FileSystem.Growth territory fs left) : Stands name entry left where
  valid := stands.valid
  below := by
    rw [growth.workingDirectory]
    exact stands.below
  spellable := stands.spellable
  declarations := growth.file entry stands.declarations
  manifest := by
    rw [growth.workingDirectory]
    exact growth.file _ stands.manifest

/-- A package that has been materialized stands, even if its types are its manifest. -/
theorem of_materialize {package : FetchedPackage} (fits : PackageFetch.Fits name package)
    (spellable : fs.workingDirectory.IsSpellable)
    (placed : package.materialize.perform fs = (.ok entry, left)) : Stands name entry left := by
  obtain ⟨valid, rfl, isEntry⟩ := fits
  have growth := FetchedPackage.growth_materialize valid isEntry fs
  rw [placed] at growth
  rw [FetchedPackage.perform_materialize valid isEntry] at placed
  obtain ⟨rfl, _, manifest, declarations⟩ := FetchedPackage.files_of_fill placed
  obtain ⟨above, last, named, leads, walk_eq⟩ := Package.exists_entry_eq_child
    (Package.home fs.workingDirectory package.descriptor.name) isEntry
  refine ⟨valid, ?_, ?_, ?_, ?_⟩
  · rw [growth.workingDirectory, walk_eq]
    exact Path.lt_child_iff.mpr leads
  · exact Path.isSpellable_walk (FetchedPackage.spellable_home spellable valid) isEntry.plain
  · by_cases same : (Package.home fs.workingDirectory package.descriptor.name).walk
        package.descriptor.entry = (Package.home fs.workingDirectory package.descriptor.name).child
          Package.manifestName FetchedPackage.isName_manifestName
    · simp [same, manifest, Occupant.IsFile]
    · simp [declarations same, Occupant.IsFile]
  · rw [growth.workingDirectory]
    simp [manifest, Occupant.IsFile]

end Package.Stands

namespace Session

variable {config : Config} {session : Session}

/-- Every package that is recorded as ready stands. -/
structure Intact (config : Config) (session : Session) : Prop extends Situated config session where
  stands : ∀ {name entry version}, session.packages.get? name = some (.ready entry version) →
    Package.Stands name entry session.files

theorem intact_create {settings : Settings} {start : Session}
    (built : settings.build = .ok config) (created : create config = .ok start) :
    start.Intact config := by
  obtain ⟨fresh, start_eq, _⟩ := eq_of_create created
  refine ⟨situated_create built created, fun {_ _ _} recorded => ?_⟩
  rw [start_eq] at recorded
  exact nomatch recorded

theorem Intact.grow (intact : session.Intact config) {territory : Path → Prop} {files : FileSystem}
    (growth : FileSystem.Growth territory session.files files) :
    Intact config { session with files } where
  config_eq := intact.config_eq
  workingDirectory := growth.workingDirectory.trans intact.workingDirectory
  spellable := intact.spellable
  stands recorded := (intact.stands recorded).grow growth

theorem Intact.record (intact : session.Intact config) {files : FileSystem} {name : String}
    {state : PackageState} (added : FileSystem.Added session.files files)
    (stands : ∀ entry version, state = .ready entry version → Package.Stands name entry files) :
    Intact config { session with files, packages := session.packages.insert name state } := by
  have grown := intact.grow added.growth
  refine { grown with stands := fun {other entry version} recorded => ?_ }
  by_cases same : other = name
  · subst same
    rw [NameMap.get?_insert_self] at recorded
    exact stands entry version (Option.some.inj recorded)
  · rw [NameMap.get?_insert_of_ne _ same] at recorded
    exact grown.stands recorded

theorem Intact.settled (intact : session.Intact config) {name : String}
    {fetched : Except FetchError FetchedPackage} (fits : Invocation.Fetched name fetched) :
    (Invocation.settled name fetched session).Intact config := by
  have stored := Invocation.run_store fetched session
  cases fetched with
  | error cause =>
      refine intact.record (.refl session.files) fun _ _ same => ?_
      cases same
  | ok package =>
      have added := package.adds_materialize session.files
      rcases placed : package.materialize.perform session.files with ⟨cause | entry, left⟩
      · rw [placed] at added
        simp only [Invocation.settled, stored, placed]
        refine intact.record added fun _ _ same => ?_
        cases same
      · rw [placed] at added
        simp only [Invocation.settled, stored, placed]
        refine intact.record added fun other version same => ?_
        obtain ⟨rfl, _⟩ := PackageState.ready.inj same
        exact .of_materialize (fits package rfl) (intact.workingDirectory ▸ intact.spellable) placed

theorem Intact.install (intact : session.Intact config) (selection : LibrarySelection)
    (libraries : LibraryFiles) :
    ((Session.install selection libraries).run session).2.Intact config := by
  have growth := (libraries.adds_install session.config.libraryLocation session.files).growth
  rw [run_install]
  dsimp only
  split
  · exact intact.grow growth
  · exact { intact.grow growth with }

theorem enduring_intact (config : Config) : Enduring (fun _ => True) (Intact config) where
  settled fits intact := intact.settled fits
  installed _ intact := intact.install _ _
  begun intact := { intact with }
  added added intact := intact.grow added.growth
  install _ intact := intact.install _ _
  write _ success intact := intact.grow (FileSystem.growth_of_write success)

/-- Whatever has happened to a session, the types of every package that is recorded as ready are in
a file at a canonical path strictly below the directory of the package, and its manifest is a file
in that directory. -/
theorem ready_packages_stay {settings : Settings} {config : Config} {start : Session}
    (built : settings.build = .ok config) (created : create config = .ok start)
    (events : List Event) {name : String} {entry : Path} {version : Option String}
    (ready : (LiveSession.after start events).session.packages.get? name =
      some (.ready entry version)) :
    let files := (LiveSession.after start events).session.files
    let root := config.currentDirectory.directoryText ++ Package.directory ++ "/" ++ name
    ∃ home, config.currentDirectory.resolve? root = some home ∧ home < entry ∧
      (∀ base : Path, base.resolve? entry.text = some entry) ∧
      (∃ size, files.stat entry.text = .ok ⟨.file, size⟩) ∧
      ∃ size, files.stat (root ++ "/" ++ Package.manifestName) = .ok ⟨.file, size⟩ := by
  intro files root
  have orderly : (LiveSession.after start events).Orderly (Intact config) :=
    LiveSession.orderly_after (enduring_intact config) (intact_create built created)
      fun _ _ => trivial
  have intact := orderly.holds
  have stands := intact.stands ready
  have workingDirectory : files.workingDirectory = config.currentDirectory :=
    intact.workingDirectory
  have plain := Package.nul_not_mem_of_isName stands.valid
  have root_eq : root =
      config.currentDirectory.directoryText ++ (Package.directory ++ "/" ++ name) := by
    simp only [root, String.append_assoc]
  have root_plain : '\x00' ∉ (Package.directory ++ "/" ++ name).toList := by
    simp only [String.toList_append, List.mem_append, not_or]
    exact ⟨by decide, plain⟩
  have manifest_eq : root ++ "/" ++ Package.manifestName = config.currentDirectory.directoryText ++
      (Package.directory ++ "/" ++ name ++ "/" ++ Package.manifestName) := by
    simp only [root, String.append_assoc]
  have manifest_plain :
      '\x00' ∉ (Package.directory ++ "/" ++ name ++ "/" ++ Package.manifestName).toList := by
    rw [String.toList_append, String.toList_append, List.mem_append, List.mem_append, not_or,
      not_or]
    exact ⟨⟨root_plain, by decide⟩, by decide⟩
  have manifest := stands.manifest
  have below := stands.below
  rw [intact.workingDirectory] at below manifest
  refine ⟨Package.home config.currentDirectory name, ?_, below,
    fun base => Path.resolve?_text base stands.spellable,
    FileSystem.stat_of_isFile (Path.resolve?_text _ stands.spellable) stands.declarations,
    FileSystem.stat_of_isFile ?_ manifest⟩
  · rw [root_eq, Path.resolve?_directoryText _ intact.spellable, if_neg root_plain, Package.home]
  · rw [workingDirectory, manifest_eq, Path.resolve?_directoryText _ intact.spellable,
      if_neg manifest_plain, Path.walk_append, Path.walk_of_isName _
        FetchedPackage.isName_manifestName, Package.home]

end Session

namespace Sample

/-- A package comes, and then others try to put something else in the place of its files. -/
def pressure : List Event := [
  .start (.prepare { noLib := true } ["p"]),
  .resume 0 (.ok ⟨200, "\x7b\"types\":\"./index.d.ts\",\"version\":\"1.0.0\"\x7d"⟩),
  .resume 0 (.ok ⟨200, "export \x7b\x7d\n"⟩),
  .makeDirectory "node_modules/p/index.d.ts",
  .makeDirectories "node_modules/p/package.json/deep",
  .write "node_modules/p/index.d.ts" "caf\u00e9" .latin1,
  .install {} (NameMap.empty.insert "../node_modules/p" "in the way"),
  .ask (.putFile "/node_modules/p" "in the way")]

/-- The package in the end, the configuration and the session it began with. -/
def pressed : Option (Config × Session × Path) := do
  let config ← mirrors.build.toOption
  let start ← (Session.create config).toOption
  match (LiveSession.after start pressure).session.packages.get? "p" with
  | some (.ready entry (some "1.0.0")) =>
    if entry.text = "/node_modules/p/index.d.ts" then some (config, start, entry) else none
  | _ => none

/-- The types of the package are still a file. -/
theorem ready_packages_stay_pressed :
    ∃ config start entry, mirrors.build = .ok config ∧ Session.create config = .ok start ∧
      (LiveSession.after start pressure).session.packages.get? "p" =
        some (.ready entry (some "1.0.0")) ∧
      ∃ size, (LiveSession.after start pressure).session.files.stat "/node_modules/p/index.d.ts" =
        .ok ⟨.file, size⟩ := by
  have stands : pressed.isSome := by decide +kernel
  obtain ⟨found, found_eq⟩ := Option.isSome_iff_exists.mp stands
  simp only [pressed, bind, Option.bind_eq_some_iff] at found_eq
  obtain ⟨config, built, start, created, found_eq⟩ := found_eq
  have built := eq_ok_of_toOption_eq_some built
  have created := eq_ok_of_toOption_eq_some created
  split at found_eq
  next entry ready =>
    split at found_eq
    next entry_text =>
      obtain ⟨_, _, _, _, file, _⟩ := Session.ready_packages_stay built created pressure ready
      rw [entry_text] at file
      exact ⟨config, start, entry, built, created, ready, file⟩
    next => exact nomatch found_eq
  next => exact nomatch found_eq

end Sample
end Workbench
