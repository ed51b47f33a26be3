import Workbench.Proofs.Host.ModuleNames

/-!
# Two ways to resolve the name of a package

A resolver that goes by manifests falls back on the directory of the package. For a name that is a
single segment the two ways lead to the same module unless the manifest has something to say: a
version, or an entry where declarations are.
-/

namespace Workbench
namespace ModuleResolver

variable {bridge : Bridge} {name : String} {version : String}

/-- The file exists and holds type declarations. -/
def IsDeclarations (bridge : Bridge) (file : String) : Prop :=
  bridge.fileExists file = true ∧ ModuleExtension.ofFileName? file = some .dts

/-- If the package has a manifest that can be read, it tells no version, and no declarations are at
the entry that it declares. -/
def IsUntold (bridge : Bridge) (package : String) : Prop :=
  ∀ text manifest,
    bridge.fileText (Spelling.join (packageRoot bridge package) Package.manifestName) = .ok text →
    PackageManifest.read text = .ok manifest →
      manifest.version = none ∧
      ∀ given entry, manifest.typesEntry? = some given → Package.entryPath given = .ok entry →
        ¬IsDeclarations bridge (Spelling.join (packageRoot bridge package) entry)

instance (bridge : Bridge) : DecidablePred (IsDeclarations bridge) :=
  fun _ => inferInstanceAs (Decidable (_ ∧ _))

theorem isUntold_iff : IsUntold bridge name ↔
    ∀ manifest ∈ manifest? bridge (packageRoot bridge name), manifest.version = none ∧
      ∀ given ∈ manifest.typesEntry?, ∀ entry ∈ (Package.entryPath given).toOption,
        ¬IsDeclarations bridge (Spelling.join (packageRoot bridge name) entry) := by
  constructor
  · intro untold manifest found
    obtain ⟨text, present, read⟩ := Option.bind_eq_some_iff.mp found
    obtain ⟨unversioned, useless⟩ := untold text manifest (eq_ok_of_toOption_eq_some present)
      (eq_ok_of_toOption_eq_some read)
    exact ⟨unversioned, fun given declared entry accepted =>
      useless given entry declared (eq_ok_of_toOption_eq_some accepted)⟩
  · intro untold text manifest present read
    have found : manifest? bridge (packageRoot bridge name) = some manifest := by
      rw [manifest?, present]
      simp [Except.toOption, read]
    obtain ⟨unversioned, useless⟩ := untold manifest found
    refine ⟨unversioned, fun given entry declared accepted => useless given declared entry ?_⟩
    rw [accepted]
    exact Option.mem_some_self entry

instance (bridge : Bridge) : DecidablePred (IsUntold bridge) :=
  fun _ => decidable_of_iff _ isUntold_iff.symm

/-! ## Names that are single segments -/

theorem splitName_of_whole (whole : '/' ∉ name.toList) : splitName name = (name, "") := by
  rw [splitName, Text.pieces_of_not_mem whole]
  split <;> simp [List.intercalate]

theorem isName_of_whole (bare : isPathName name = false) (whole : '/' ∉ name.toList) :
    IsName name := by
  have named := isName_first bare (Text.pieces_of_not_mem whole)
  rwa [String.ofList_toList] at named

theorem packageRoot_of_isName (bridge : Bridge) (named : IsName name) : packageRoot bridge name =
    ((bridge.files.workingDirectory.child Package.directory Package.isName_directory).child
      name named).text := by
  rw [Path.text_child_eq, Path.directoryText_child, packageRoot, Bridge.currentDirectory]

theorem mem_entryNames_of_directoryExists (named : IsName name)
    (present : bridge.directoryExists (packageRoot bridge name) = true) :
    name ∈ bridge.entryNames Package.directory := by
  have listed : bridge.files.resolve Package.directory =
      .ok (bridge.files.workingDirectory.child Package.directory Package.isName_directory) := by
    rw [FileSystem.resolve_eq_ok_iff, Path.resolve?_of_relative _ (by decide) (by decide),
      Path.walk_of_isName _ Package.isName_directory]
  rw [Bridge.mem_entryNames listed named]
  obtain ⟨home, resolved, there⟩ := Bridge.directoryExists_iff.mp present
  have home_eq := (Path.eq_walk_of_resolve? (head?_packageRoot bridge name)
    (FileSystem.resolve_eq_ok_iff.mp resolved))
  rw [packageRoot_of_isName bridge named, Path.walk_text] at home_eq
  rw [← home_eq, there]
  exact Option.some_ne_none _

/-! ## The two ways -/

theorem join_packageRoot (bridge : Bridge) (named : IsName name) :
    Spelling.join (packageRoot bridge name) "index.d.ts" =
      packageRoot bridge name ++ "/index.d.ts" := by
  rw [packageRoot_of_isName bridge named, Spelling.join_text _ (by decide), Path.directoryText,
    if_neg (by simp), String.append_assoc]
  rfl

theorem shallow_of_listed {resolver : ModuleResolver} {listed : List String}
    (member : name ∈ listed) : resolver.shallow bridge listed name =
      some { file := packageRoot bridge name ++ "/index.d.ts", extension := .dts
             package := ⟨name, "", resolver.version⟩ } := by
  have declares : ModuleExtension.ofFileName? (packageRoot bridge name ++ "/index.d.ts") =
      some .dts := by
    refine ModuleExtension.ofFileName?_of_dts ?_
    rw [String.toList_append]
    exact (by decide : ".d.ts".toList <:+ "/index.d.ts".toList).trans (List.suffix_append _ _)
  rw [shallow, if_pos member]
  dsimp only
  rw [declares]
  rfl

/-- Of the places where an untold package is looked for, only its index can be of use. -/
theorem find?_candidates (untold : IsUntold bridge name) {usable : String → Bool}
    (usable_iff : ∀ file, usable file = true ↔ IsDeclarations bridge file) :
    ((candidates (manifest? bridge (packageRoot bridge name)) "").map
        (Spelling.join (packageRoot bridge name))).find? usable =
      [Spelling.join (packageRoot bridge name) "index.d.ts"].find? usable := by
  rw [candidates, if_pos rfl]
  dsimp only
  generalize declared_eq : ((manifest? bridge (packageRoot bridge name)).bind fun manifest =>
    manifest.typesEntry?.bind fun entry => (Package.entryPath entry).toOption) = declared
  cases declared with
  | none => rfl
  | some entry =>
      obtain ⟨manifest, found, declares⟩ := Option.bind_eq_some_iff.mp declared_eq
      obtain ⟨given, types, accepted⟩ := Option.bind_eq_some_iff.mp declares
      have useless : ¬usable (Spelling.join (packageRoot bridge name) entry) := by
        rw [usable_iff]
        exact (isUntold_iff.mp untold manifest found).2 given types entry accepted
      exact List.find?_cons_of_neg useless

/-- An untold package that resolves by its manifest resolves by its directory, and to the same
module. -/
theorem shallow_of_byManifest {resolver : ModuleResolver} {module : ResolvedModule}
    (bare : isPathName name = false) (whole : '/' ∉ name.toList) (untold : IsUntold bridge name)
    (resolved : resolver.byManifest bridge name = some module) :
    resolver.shallow bridge (bridge.entryNames Package.directory) name = some module := by
  have named := isName_of_whole bare whole
  rw [byManifest, splitName_of_whole whole] at resolved
  dsimp only at resolved
  split at resolved
  · cases resolved
  next fine =>
    have present : bridge.directoryExists (packageRoot bridge name) = true := by
      simp only [Bool.or_eq_true, Bool.not_eq_true', not_or, Bool.not_eq_false] at fine
      exact fine.2
    rw [find?_candidates untold (by simp [IsDeclarations])] at resolved
    obtain ⟨file, found, rfl⟩ := Option.map_eq_some_iff.mp resolved
    have file_eq := List.mem_singleton.mp (List.mem_of_find?_eq_some found)
    have unversioned : ((manifest? bridge (packageRoot bridge name)).bind (·.version)) = none := by
      refine Option.bind_eq_none_iff.mpr fun manifest there => ?_
      exact (isUntold_iff.mp untold manifest there).1
    rw [shallow_of_listed (mem_entryNames_of_directoryExists named present), unversioned, file_eq,
      join_packageRoot bridge named]
    rfl

/-- Names of untold packages that are single segments resolve alike in both ways. -/
theorem resolve_manifest_eq_shallow (version : String) {names : List String}
    (whole : ∀ name ∈ names, '/' ∉ name.toList) (untold : ∀ name ∈ names, IsUntold bridge name) :
    (⟨.manifest, version⟩ : ModuleResolver).resolve bridge names =
      (⟨.shallow, version⟩ : ModuleResolver).resolve bridge names := by
  refine List.map_congr_left fun name member => ?_
  rw [resolveName, resolveName]
  cases bare : isPathName name with
  | true => rw [if_pos rfl, if_pos rfl]
  | false =>
      have fallback : ∀ listed, (⟨.shallow, version⟩ : ModuleResolver).shallow bridge listed name =
          (⟨.manifest, version⟩ : ModuleResolver).shallow bridge listed name := fun _ => rfl
      simp only [Bool.false_eq_true, if_false]
      rw [fallback]
      cases resolved : (⟨.manifest, version⟩ : ModuleResolver).byManifest bridge name with
      | none => rfl
      | some module =>
          exact (shallow_of_byManifest bare (whole name member) (untold name member) resolved).symm

end ModuleResolver

namespace Sample

/-- A host with a package whose manifest is broken, and with one whose manifest declares types that
are not there. -/
def untoldBridge : Bridge where
  files := ((do
    discard (FileSystem.store "node_modules/bare/package.json" "\x7b broken")
    discard (FileSystem.store "node_modules/bare/index.d.ts" "export \x7b\x7d;")
    discard (FileSystem.store "node_modules/lost/package.json" "\x7b\"types\":\"lost.d.ts\"\x7d") :
      FileActivity Unit).perform workshop).2

/-- Both packages resolve alike in both ways, and so does one that is not there. -/
theorem resolve_manifest_eq_shallow_untold :
    (⟨.manifest, "1.0.0"⟩ : ModuleResolver).resolve untoldBridge ["bare", "lost", "absent"] =
        (⟨.shallow, "1.0.0"⟩ : ModuleResolver).resolve untoldBridge ["bare", "lost", "absent"] ∧
      (⟨.shallow, "1.0.0"⟩ : ModuleResolver).resolve untoldBridge ["bare", "lost", "absent"] =
        [some ⟨"/work/node_modules/bare/index.d.ts", .dts, ⟨"bare", "", "1.0.0"⟩, true⟩,
          some ⟨"/work/node_modules/lost/index.d.ts", .dts, ⟨"lost", "", "1.0.0"⟩, true⟩, none] :=
  ⟨ModuleResolver.resolve_manifest_eq_shallow "1.0.0" (by decide) (by decide +kernel),
    by decide +kernel⟩

end Sample
end Workbench
