import Workbench.Proofs.Package.Resolution

/-!
# Where names of modules lead

A module name is the name of a package and a path inside it. A resolver that goes by manifests looks
for the module below the directory of the package, and the path inside cannot lead out of it. The
name of the package is not looked at in the same way: the second segment of a name with a scope can
be `..`, and then the directory is that of all packages.
-/

namespace Workbench

namespace ModuleExtension

theorem suffix_of_ofFileName? {name : String} (declares : ofFileName? name = some .dts) :
    ".d.ts".toList <:+ name.toList := by
  have ends := List.find?_some declares
  exact List.isSuffixOf_iff_suffix.mp ends

end ModuleExtension

/-! ## Splitting module names -/

namespace ModuleResolver

variable {name : String}

/-- The number of segments that name a package. -/
def packageLength (name : String) : Nat := if name.toList.head? = some '@' then 2 else 1

/-- The package that a module name names has the first segment, or the first two after an at
sign. -/
theorem pieces_package (name : String) : Text.pieces '/' (splitName name).1.toList =
    (Text.pieces '/' name.toList).take (packageLength name) := by
  have joined : (splitName name).1.toList =
      ['/'].intercalate ((Text.pieces '/' name.toList).take (packageLength name)) :=
    String.toList_ofList
  rw [joined]
  refine Text.pieces_intercalate ?_ fun segment member =>
    Text.not_mem_of_mem_pieces (List.mem_of_mem_take member)
  obtain ⟨first, more, shape⟩ := List.exists_cons_of_ne_nil (Text.pieces_ne_nil '/' name.toList)
  rw [shape, packageLength]
  split <;> simp

theorem isName_first (bare : isPathName name = false) {first : List Char}
    {more : List (List Char)} (shape : Text.pieces '/' name.toList = first :: more) :
    IsName (String.ofList first) := by
  have joined := Text.intercalate_pieces '/' name.toList
  have whole : '/' ∉ first := Text.not_mem_of_mem_pieces (by rw [shape]; exact List.mem_cons_self)
  rw [shape] at joined
  have name_eq : name.toList = first ∨ ∃ rest, name.toList = first ++ '/' :: rest := by
    cases more with
    | nil => exact .inl (by simpa [List.intercalate] using joined.symm)
    | cons next more =>
        refine .inr ⟨['/'].intercalate (next :: more), ?_⟩
        rw [← joined]
        simp [List.intercalate]
  refine isName_ofList ?_ ?_ ?_ whole
  all_goals
    rintro rfl
    rcases name_eq with chars | ⟨rest, chars⟩ <;> simp [isPathName, chars] at bare

theorem ordinary_package_iff (bare : isPathName name = false) :
    (∀ segment ∈ Text.pieces '/' (splitName name).1.toList, IsName (String.ofList segment)) ↔
      (name.toList.head? = some '@' → ∀ second ∈ (Text.pieces '/' name.toList)[1]?,
        IsName (String.ofList second)) := by
  obtain ⟨first, more, shape⟩ := List.exists_cons_of_ne_nil (Text.pieces_ne_nil '/' name.toList)
  have firstNamed := isName_first bare shape
  rw [pieces_package, packageLength, shape]
  by_cases marked : name.toList.head? = some '@'
  · cases more with
    | nil => simpa [marked] using firstNamed
    | cons second more => simp [marked, firstNamed]
  · simp [marked, firstNamed]

/-- Whatever its second segment, a bare name leads to a directory in the directory of packages or to
that directory itself. -/
theorem directory_le_home (workingDirectory : Path) (bare : isPathName name = false) :
    workingDirectory.child Package.directory Package.isName_directory ≤
      Package.home workingDirectory (splitName name).1 := by
  obtain ⟨first, more, shape⟩ := List.exists_cons_of_ne_nil (Text.pieces_ne_nil '/' name.toList)
  have firstNamed := isName_first bare shape
  rw [Package.home_eq, Path.walk, pieces_package, packageLength, shape]
  generalize workingDirectory.child Package.directory Package.isName_directory = above
  have one : above ≤ above.step (String.ofList first) := by
    rw [Path.step_of_isName above firstNamed]
    exact Path.le_child above _ firstNamed
  split
  · cases more with
    | nil => exact one
    | cons second more =>
        -- The second segment can lead up again, but not beyond the step of the first.
        have two := Path.dropLast_le_step (above.child _ firstNamed) (String.ofList second)
        rw [Path.dropLast_child, ← Path.step_of_isName above firstNamed] at two
        exact two
  · exact one

/-! ## Places inside a package -/

theorem downward_of_mem_candidates {manifest : Option PackageManifest} {subModule candidate : String}
    (downward : ['.', '.'] ∉ Text.pieces '/' subModule.toList)
    (member : candidate ∈ candidates manifest subModule) :
    ['.', '.'] ∉ Text.pieces '/' candidate.toList := by
  rw [candidates] at member
  split at member
  · rcases List.mem_append.mp member with declared | standard
    · -- The declared path has been accepted, so that it is made of ordinary names.
      simp only [Option.mem_toList, Option.bind_eq_some_iff] at declared
      obtain ⟨_, _, entry, _, accepted⟩ := declared
      have isEntry := Package.isEntry_of_entryPath (eq_ok_of_toOption_eq_some accepted)
      exact isEntry.downward
    · rw [List.mem_singleton.mp standard]
      decide
  · have stem_downward : ['.', '.'] ∉ Text.pieces '/' (Spelling.trimEnd subModule.toList) :=
      fun dots => downward (Spelling.pieces_trimEnd_subset _ dots)
    generalize Spelling.trimEnd subModule.toList = stem at member stem_downward
    simp only [List.mem_cons, List.not_mem_nil, or_false] at member
    rcases member with rfl | rfl | rfl
    · rwa [String.toList_ofList]
    · -- The ending makes the last segment too long to lead upward.
      rw [String.toList_append, String.toList_ofList,
        Text.pieces_append_of_not_mem stem (by decide), List.mem_append, List.mem_singleton, not_or]
      refine ⟨fun dots => stem_downward (List.dropLast_subset _ dots), fun dots => ?_⟩
      have longer := congrArg List.length dots
      rw [List.length_append] at longer
      exact absurd longer (by simp)
    · have parted : (String.ofList stem ++ "/index.d.ts").toList =
          stem ++ '/' :: "index.d.ts".toList := by simp
      rw [parted, Text.pieces_append, List.mem_append, not_or]
      exact ⟨stem_downward, by decide⟩

/-! ## Directories of packages -/

section

variable (bridge : Bridge) (package : String)

theorem walk_packageRoot : Path.root.walk (packageRoot bridge package) =
    Package.home bridge.files.workingDirectory package := by
  rw [packageRoot, Bridge.currentDirectory, String.append_assoc, String.append_assoc,
    Path.walk_directoryText, Package.home, String.append_assoc]

theorem head?_packageRoot : (packageRoot bridge package).toList.head? = some '/' := by
  rw [packageRoot, Bridge.currentDirectory, String.append_assoc, String.append_assoc,
    String.toList_append, List.head?_append, Path.head?_directoryText, Option.some_or]

end

theorem exists_of_byManifest {resolver : ModuleResolver} {bridge : Bridge}
    {module : ResolvedModule} (resolved : resolver.byManifest bridge name = some module) :
    ['.', '.'] ∉ Text.pieces '/' (splitName name).2.toList ∧
      bridge.directoryExists (packageRoot bridge (splitName name).1) = true ∧
      ∃ manifest, ∃ candidate ∈ candidates manifest (splitName name).2,
        module.file = Spelling.join (packageRoot bridge (splitName name).1) candidate ∧
        bridge.fileExists module.file = true ∧
        ModuleExtension.ofFileName? module.file = some .dts := by
  rw [byManifest] at resolved
  generalize splitName name = parts at resolved ⊢
  obtain ⟨package, subModule⟩ := parts
  dsimp only at resolved ⊢
  split at resolved
  · cases resolved
  next fine =>
    simp only [Bool.or_eq_true, List.contains_iff_mem, Bool.not_eq_true', not_or,
      Bool.not_eq_false] at fine
    obtain ⟨file, found, rfl⟩ := Option.map_eq_some_iff.mp resolved
    obtain ⟨candidate, member, rfl⟩ := List.mem_map.mp (List.mem_of_find?_eq_some found)
    have usable := List.find?_some found
    simp only [Bool.and_eq_true, decide_eq_true_eq] at usable
    exact ⟨fine.1, fine.2, _, candidate, member, rfl, usable⟩

/-- A module that resolves by a manifest is in a declaration file that exists below the directory of
the package, and that directory is in the directory of packages or is that directory itself. The
package has an ordinary name unless the module name has a scope and its second segment is no ordinary
name. -/
theorem byManifest_keeps_to_package {resolver : ModuleResolver} {bridge : Bridge}
    {module : ResolvedModule} (bare : isPathName name = false)
    (resolved : resolver.byManifest bridge name = some module) :
    ∃ path, bridge.files.resolve module.file = .ok path ∧
      Occupant.IsFile (bridge.files.occupant? path) ∧
      ".d.ts".toList <:+ path.text.toList ∧
      Package.home bridge.files.workingDirectory (splitName name).1 < path ∧
      bridge.files.workingDirectory.child Package.directory Package.isName_directory ≤
        Package.home bridge.files.workingDirectory (splitName name).1 ∧
      ((∀ segment ∈ Text.pieces '/' (splitName name).1.toList, IsName (String.ofList segment)) ↔
        (name.toList.head? = some '@' → ∀ second ∈ (Text.pieces '/' name.toList)[1]?,
          IsName (String.ofList second))) := by
  obtain ⟨downward, present, manifest, candidate, member, file_eq, exists_file, declares⟩ :=
    exists_of_byManifest resolved
  have rooted := head?_packageRoot bridge (splitName name).1
  obtain ⟨home, home_resolved, home_directory⟩ := Bridge.directoryExists_iff.mp present
  obtain rfl := (Path.eq_walk_of_resolve? rooted
    (FileSystem.resolve_eq_ok_iff.mp home_resolved)).trans (walk_packageRoot bridge _)
  obtain ⟨path, path_resolved, isFile⟩ := Bridge.fileExists_iff.mp exists_file
  have path_eq : path = Path.root.walk module.file :=
    Path.eq_walk_of_resolve? (by rw [file_eq]; exact Spelling.head?_join rooted candidate)
      (FileSystem.resolve_eq_ok_iff.mp path_resolved)
  have below : Package.home bridge.files.workingDirectory (splitName name).1 ≤ path := by
    rw [path_eq, file_eq, Spelling.walk_join, walk_packageRoot]
    exact Path.le_walk _ (downward_of_mem_candidates downward member)
  refine ⟨path, path_resolved, isFile, ?_, lt_of_le_of_ne below ?_,
    directory_le_home bridge.files.workingDirectory bare, ordinary_package_iff bare⟩
  · rw [path_eq]
    exact Path.suffix_text_walk Path.root (by decide) (by decide)
      (ModuleExtension.suffix_of_ofFileName? declares)
  · -- A directory is at home, and no file.
    intro same
    rw [← same, home_directory] at isFile
    exact isFile

end ModuleResolver

namespace Sample

/-- A host with the scoped package and the plain one. -/
def stockedBridge : Bridge where
  files := FetchedPackage.materializeAll [scopedPackage, plainPackage] workshop

/-- A path inside the scoped package stays inside it. -/
theorem byManifest_keeps_to_package_scoped :
    ModuleResolver.byManifest ⟨.manifest, "0.0.0"⟩ stockedBridge "@types/pad/lib/pad" =
        some ⟨"/work/node_modules/@types/pad/lib/pad.d.ts", .dts,
          ⟨"@types/pad", "lib/pad", "1.2.0"⟩, true⟩ ∧
      ∃ path, stockedBridge.files.resolve "/work/node_modules/@types/pad/lib/pad.d.ts" = .ok path ∧
        Package.home stockedBridge.files.workingDirectory "@types/pad" < path := by
  have resolved : ModuleResolver.byManifest ⟨.manifest, "0.0.0"⟩ stockedBridge
      "@types/pad/lib/pad" = some ⟨"/work/node_modules/@types/pad/lib/pad.d.ts", .dts,
        ⟨"@types/pad", "lib/pad", "1.2.0"⟩, true⟩ := by
    decide +kernel
  obtain ⟨path, path_resolved, _, _, below, _⟩ :=
    ModuleResolver.byManifest_keeps_to_package (by decide +kernel) resolved
  have package_eq : (ModuleResolver.splitName "@types/pad/lib/pad").1 = "@types/pad" := by
    decide +kernel
  rw [package_eq] at below
  exact ⟨resolved, path, path_resolved, below⟩

/-- A name whose second segment leads upward resolves to a file of the plain package. -/
theorem byManifest_leaves_scope :
    ModuleResolver.isPathName "@types/../pad" = false ∧
      ModuleResolver.byManifest ⟨.manifest, "0.0.0"⟩ stockedBridge "@types/../pad" =
        some ⟨"/work/node_modules/@types/../pad/index.d.ts", .dts, ⟨"@types/..", "pad", "0.0.0"⟩,
          true⟩ ∧
      (stockedBridge.files.resolve "/work/node_modules/@types/../pad/index.d.ts").toOption =
        some ((Package.home workshop.workingDirectory "pad").walk "index.d.ts") ∧
      ¬∀ segment ∈ Text.pieces '/' (ModuleResolver.splitName "@types/../pad").1.toList,
        IsName (String.ofList segment) := by
  decide +kernel

end Sample
end Workbench
