import Workbench.Host.Resolver
import Workbench.Proofs.Host.Bridge
import Workbench.Proofs.Package.Fetching

/-!
# Placed packages resolve

Fetching, materializing and resolving a package spell its paths in three ways. They mean the same
paths: a resolver that goes by manifests leads the name of a package to the very file in which its
declarations were put, and no other package gets in between.
-/

namespace Workbench

/-! ## Names of packages as module names -/

namespace Package

variable {name : String}

theorem isPathName_of_isName (valid : isName name = true) :
    ModuleResolver.isPathName name = false := by
  have segment : ∀ piece ∈ Text.pieces '/' name.toList, isNameSegment piece = true :=
    fun _ member => isNameSegment_of_isName valid member
  rw [ModuleResolver.isPathName]
  split
  next chars => exact absurd (segment [] (by simp [chars, Text.pieces])) (by decide)
  next chars => exact absurd (segment [] (by simp [chars, Text.pieces])) (by decide)
  next chars => exact absurd (segment ['.'] (by simp [chars, Text.pieces])) (by decide)
  next chars => exact absurd (segment ['.', '.'] (by simp [chars, Text.pieces])) (by decide)
  next chars => exact absurd (segment ['.'] (by simp [chars, Text.pieces])) (by decide)
  next chars => exact absurd (segment ['.', '.'] (by simp [chars, Text.pieces])) (by decide)
  next => rfl

theorem splitName_of_isName (valid : isName name = true) :
    ModuleResolver.splitName name = (name, "") := by
  have joined := Text.intercalate_pieces '/' name.toList
  rw [isName, Bool.and_eq_true] at valid
  have shape := valid.1
  rw [ModuleResolver.splitName]
  generalize Text.pieces '/' name.toList = segments at joined shape
  rcases segments with _ | ⟨front, _ | ⟨rest, _ | _⟩⟩
  · cases shape
  · have whole : front = name.toList := by simpa [List.intercalate] using joined
    subst whole
    have plain : name.toList.head? ≠ some '@' := by simpa using shape
    simp [plain, List.intercalate]
  · have marked : front.head? = some '@' := by
      simp only [Bool.and_eq_true, decide_eq_true_eq] at shape
      exact shape.1
    have head : name.toList.head? = some '@' := by
      obtain ⟨more, rfl⟩ := List.head?_eq_some_iff.mp marked
      rw [← joined]
      simp [List.intercalate]
    have name_eq : String.ofList (['/'].intercalate [front, rest]) = name := by
      rw [joined, String.ofList_toList]
    rw [if_pos head]
    exact Prod.ext name_eq rfl
  · cases shape

end Package

theorem ModuleExtension.ofFileName?_of_dts {name : String}
    (declares : ".d.ts".toList <:+ name.toList) : ofFileName? name = some .dts := by
  have ends : dts.text.toList.isSuffixOf name.toList = true :=
    List.isSuffixOf_iff_suffix.mpr declares
  exact List.find?_cons_of_pos ends

/-! ## Packages in place -/

namespace FetchedPackage

variable {package : FetchedPackage} {fs left : FileSystem} {entry : Path}

/-- The package's manifest and declarations are where they belong. -/
structure InPlace (package : FetchedPackage) (fs : FileSystem) : Prop where
  home : fs.occupant? (Package.home fs.workingDirectory package.descriptor.name) = some .directory
  manifest : fs.occupant? ((Package.home fs.workingDirectory package.descriptor.name).child
    Package.manifestName isName_manifestName) = some (.file package.manifest.toUTF8)
  declarations : fs.occupant? ((Package.home fs.workingDirectory package.descriptor.name).walk
    package.descriptor.entry) = some (.file package.declarations.toUTF8)

theorem resolve_root (valid : Package.isName package.descriptor.name = true) (fs : FileSystem) :
    fs.resolve package.descriptor.root =
      .ok (Package.home fs.workingDirectory package.descriptor.name) := by
  rw [FileSystem.resolve, PackageDescriptor.root, Package.resolve?_root _ valid]

theorem resolve_entryFile (valid : Package.isName package.descriptor.name = true)
    (isEntry : Package.IsEntry package.descriptor.entry) (fs : FileSystem) :
    fs.resolve package.descriptor.entryFile =
      .ok ((Package.home fs.workingDirectory package.descriptor.name).walk
        package.descriptor.entry) := by
  rw [FileSystem.resolve, PackageDescriptor.entryFile, PackageDescriptor.root,
    Package.resolve?_entryFile _ valid isEntry]

theorem home_le_walk (home : Path) {entry : String} (isEntry : Package.IsEntry entry) :
    home ≤ home.walk entry := home.le_walk isEntry.downward

/-- Puts the two files of a package into a directory. -/
def fill (package : FetchedPackage) (home : Path) : FileActivity Path := do
  FileSystem.makeDirectoriesAt ((home.walk package.descriptor.entry).parent?.getD .root)
  FileSystem.makeDirectoriesAt home
  FileActivity.ofOperation
    (·.writeAt (home.walk package.descriptor.entry) package.declarations .utf8)
  FileActivity.ofOperation
    (·.writeAt (home.child Package.manifestName isName_manifestName) package.manifest .utf8)
  return home.walk package.descriptor.entry

theorem perform_materialize (valid : Package.isName package.descriptor.name = true)
    (isEntry : Package.IsEntry package.descriptor.entry) (fs : FileSystem) :
    package.materialize.perform fs =
      (package.fill (Package.home fs.workingDirectory package.descriptor.name)).perform fs := by
  rw [materialize, FileActivity.perform_bind_of_ok
    (by rw [FileActivity.perform_ofQuery, resolve_root valid]), FileActivity.perform_bind_of_ok
    (by rw [FileActivity.perform_ofQuery, resolve_entryFile valid isEntry]),
    Path.step_of_isName _ isName_manifestName]
  rfl

theorem growth_fill (home : Path) (isEntry : Package.IsEntry package.descriptor.entry)
    (fs : FileSystem) :
    FileSystem.Growth (home ≤ ·) fs ((package.fill home).perform fs).2 := by
  refine .bind (FileSystem.growth_makeDirectoriesAt _ fs).anywhere fun _ chain _ => ?_
  refine .bind (FileSystem.growth_makeDirectoriesAt _ chain).anywhere fun _ rooted _ => ?_
  refine .bind (FileSystem.growth_writeAt (home_le_walk home isEntry) .utf8 rooted)
    fun _ written _ => ?_
  refine .bind (FileSystem.growth_writeAt (Path.le_child home _ _) .utf8 written) fun _ last _ => ?_
  exact .refl _ last

/-- A home that has been filled holds both files, or the manifest alone when it is also meant to be
the declarations. -/
theorem files_of_fill {home : Path} (filled : (package.fill home).perform fs = (.ok entry, left)) :
    entry = home.walk package.descriptor.entry ∧ left.occupant? home = some .directory ∧
      left.occupant? (home.child Package.manifestName isName_manifestName) =
        some (.file package.manifest.toUTF8) ∧
      (entry ≠ home.child Package.manifestName isName_manifestName →
        left.occupant? entry = some (.file package.declarations.toUTF8)) := by
  obtain ⟨_, chain, _, filled⟩ := FileActivity.exists_of_perform_bind filled
  obtain ⟨_, rooted, made, filled⟩ := FileActivity.exists_of_perform_bind filled
  obtain ⟨_, written, write, filled⟩ := FileActivity.exists_of_perform_bind filled
  obtain ⟨_, last, write', filled⟩ := FileActivity.exists_of_perform_bind filled
  obtain ⟨same, rfl⟩ := Prod.mk.inj filled
  obtain rfl := Except.ok.inj same
  have success := FileActivity.eq_ok_of_perform_ofOperation write
  have success' := FileActivity.eq_ok_of_perform_ofOperation write'
  have earlier := FileSystem.growth_of_writeAt rfl success
  have later := FileSystem.growth_of_writeAt rfl success'
  refine ⟨rfl, ?_, FileSystem.occupant?_of_writeAt success', fun apart => ?_⟩
  · exact later.directory _ (earlier.directory _ (FileSystem.occupant?_of_makeDirectoriesAt made))
  · exact later.content _ _ apart.symm (FileSystem.occupant?_of_writeAt success)

theorem growth_materialize (valid : Package.isName package.descriptor.name = true)
    (isEntry : Package.IsEntry package.descriptor.entry) (fs : FileSystem) :
    FileSystem.Growth (Package.home fs.workingDirectory package.descriptor.name ≤ ·) fs
      (package.materialize.perform fs).2 := by
  rw [perform_materialize valid isEntry]
  exact growth_fill _ isEntry fs

theorem inPlace_of_materialize (valid : Package.isName package.descriptor.name = true)
    (isEntry : Package.IsEntry package.descriptor.entry)
    (placed : package.materialize.perform fs = (.ok entry, left)) :
    entry = (Package.home fs.workingDirectory package.descriptor.name).walk
        package.descriptor.entry ∧
      (entry ≠ (Package.home fs.workingDirectory package.descriptor.name).child
        Package.manifestName isName_manifestName → package.InPlace left) := by
  have growth := growth_materialize valid isEntry fs
  rw [placed] at growth
  have workingDirectory : left.workingDirectory = fs.workingDirectory := growth.workingDirectory
  rw [perform_materialize valid isEntry] at placed
  obtain ⟨rfl, home, manifest, declarations⟩ := files_of_fill placed
  refine ⟨rfl, fun apart => ?_⟩
  constructor
  all_goals rw [workingDirectory]
  · exact home
  · exact manifest
  · exact declarations apart

theorem InPlace.grow (inPlace : package.InPlace fs) {territory : Path → Prop}
    (growth : FileSystem.Growth territory fs left)
    (isEntry : Package.IsEntry package.descriptor.entry)
    (outside : ∀ path, Package.home fs.workingDirectory package.descriptor.name ≤ path →
      ¬territory path) : package.InPlace left := by
  constructor
  all_goals rw [growth.workingDirectory]
  · exact growth.directory _ inPlace.home
  · exact growth.content _ _ (outside _ (Path.le_child _ _ _)) inPlace.manifest
  · exact growth.content _ _ (outside _ (home_le_walk _ isEntry)) inPlace.declarations

theorem packageRoot_eq (bridge : Bridge) (valid : Package.isName package.descriptor.name = true) :
    ModuleResolver.packageRoot bridge package.descriptor.name =
      (Package.home bridge.files.workingDirectory package.descriptor.name).text := by
  have above : bridge.files.workingDirectory.directoryText ++ Package.directory ++ "/" =
      (bridge.files.workingDirectory.child Package.directory
        Package.isName_directory).directoryText := by
    rw [Path.directoryText_child]
  rw [Package.home_eq, Path.text_walk _ fun _ => Package.ordinary_of_isName valid, ← above]
  rfl

theorem spellable_home {workingDirectory : Path} (spellable : workingDirectory.IsSpellable)
    (valid : Package.isName package.descriptor.name = true) :
    (Package.home workingDirectory package.descriptor.name).IsSpellable := by
  rw [Package.home_eq]
  exact Path.isSpellable_walk (spellable.child Package.isName_directory (by decide))
    (Package.nul_not_mem_of_isName valid)

theorem InPlace.resolveName {bridge : Bridge} (inPlace : package.InPlace bridge.files)
    (spellable : bridge.files.workingDirectory.IsSpellable)
    (valid : Package.isName package.descriptor.name = true) {entry : Path}
    (entry_eq : entry = (Package.home bridge.files.workingDirectory package.descriptor.name).walk
      package.descriptor.entry)
    (isEntry : Package.IsEntry package.descriptor.entry)
    (declares : PackageFetch.Declares package.manifest package.version package.descriptor.entry)
    (ends : ".d.ts".toList <:+ entry.text.toList) (version : String) (listed : List String) :
    (⟨.manifest, version⟩ : ModuleResolver).resolveName bridge listed package.descriptor.name =
      some {
        file := entry.text
        extension := .dts
        package := ⟨package.descriptor.name, "", package.version.getD version⟩
        isExternal := true } := by
  obtain ⟨declared, given, read, version_eq, types, accepted⟩ := declares
  obtain ⟨home, manifest, declarations⟩ := inPlace
  rw [← entry_eq] at declarations
  have root_eq := packageRoot_eq bridge valid
  have home_spellable := spellable_home spellable valid
  generalize Package.home bridge.files.workingDirectory package.descriptor.name = root at *
  have entry_spellable : entry.IsSpellable := by
    rw [entry_eq]
    exact Path.isSpellable_walk home_spellable isEntry.plain
  have there : bridge.directoryExists root.text = true := by
    rw [Bridge.directoryExists, Bridge.kind?_text home_spellable, home]
    rfl
  have manifest_eq : ModuleResolver.manifest? bridge root.text = some declared := by
    have text := Bridge.fileText_of_occupant?
      (home_spellable.child isName_manifestName (by decide)) manifest
    rw [Path.text_child_eq, ← Spelling.join_text root isName_manifestName] at text
    rw [ModuleResolver.manifest?, text]
    simp [Except.toOption, read]
  have entry_text : Spelling.join root.text package.descriptor.entry = entry.text := by
    rw [Spelling.join_text_of_ordinary root isEntry.ordinary, ← entry_eq]
  have usable : bridge.fileExists entry.text = true := by
    rw [Bridge.fileExists, Bridge.kind?_text entry_spellable, declarations]
    rfl
  have first : ModuleResolver.byManifest ⟨.manifest, version⟩ bridge package.descriptor.name =
      some {
        file := entry.text
        extension := .dts
        package := ⟨package.descriptor.name, "", package.version.getD version⟩ } := by
    rw [ModuleResolver.byManifest, Package.splitName_of_isName valid]
    simp only [root_eq, there, manifest_eq]
    simp [ModuleResolver.candidates, types, accepted, Except.toOption, entry_text, usable,
      ModuleExtension.ofFileName?_of_dts ends, version_eq, Text.pieces]
  rw [ModuleResolver.resolveName, Package.isPathName_of_isName valid]
  simp [first]

/-! ## Many packages -/

/-- The files after packages have been materialized one by one, as far as that succeeds. -/
def materializeAll (packages : List FetchedPackage) (fs : FileSystem) : FileSystem :=
  packages.foldl (fun files package => (package.materialize.perform files).2) fs

theorem InPlace.materializeAll {name : String} (inPlace : package.InPlace fs)
    (fits : PackageFetch.Fits name package) {others : List FetchedPackage}
    (otherFits : ∀ other ∈ others, ∃ otherName ≠ name, PackageFetch.Fits otherName other) :
    (materializeAll others fs).workingDirectory = fs.workingDirectory ∧
      package.InPlace (materializeAll others fs) := by
  induction others generalizing fs with
  | nil => exact ⟨rfl, inPlace⟩
  | cons other others induction =>
      obtain ⟨valid, rfl, isEntry⟩ := fits
      obtain ⟨_, distinct, otherValid, rfl, otherEntry⟩ := otherFits other List.mem_cons_self
      have growth := growth_materialize otherValid otherEntry fs
      have apart := Package.home_apart fs.workingDirectory otherValid valid distinct
      have outside : ∀ path, Package.home fs.workingDirectory package.descriptor.name ≤ path →
          ¬Package.home fs.workingDirectory other.descriptor.name ≤ path :=
        fun path leads leads' => (Path.le_total_of_le leads' leads).elim apart.1 apart.2
      obtain ⟨workingDirectory, rest⟩ := induction (inPlace.grow growth isEntry outside)
        fun another member => otherFits another (List.mem_cons_of_mem other member)
      exact ⟨workingDirectory.trans growth.workingDirectory, rest⟩

theorem isEntry_manifestName : Package.IsEntry Package.manifestName := by
  constructor
  · rw [Text.pieces_of_not_mem isName_manifestName.2.2.2]
    intro piece member
    rw [List.mem_singleton.mp member, String.ofList_toList]
    exact isName_manifestName
  · decide

theorem ne_manifest_of_dts {home : Path} (ends : ".d.ts".toList <:+ entry.text.toList) :
    entry ≠ home.child Package.manifestName isName_manifestName := by
  rintro rfl
  rw [Path.text_child_eq, String.toList_append] at ends
  have short := List.suffix_of_suffix_length_le ends
    (List.suffix_append home.directoryText.toList Package.manifestName.toList) (by decide)
  exact absurd short (by decide)

/-- A package that was fetched and materialized with a `.d.ts` file is resolved by its manifest to
that very file, both of its files read as they were fetched, and packages of other names that are
materialized later change nothing of it. -/
theorem resolves_where_materialized {registry : PackageRegistry} {name : String}
    (brings : PackageFetch.Brings registry name package)
    (spellable : fs.workingDirectory.IsSpellable)
    (placed : package.materialize.perform fs = (.ok entry, left))
    (ends : ".d.ts".toList <:+ entry.text.toList) {others : List FetchedPackage}
    (others_brought : ∀ other ∈ others, ∃ otherRegistry, ∃ otherName ≠ name,
      PackageFetch.Brings otherRegistry otherName other) :
    (∃ declared, PackageManifest.read package.manifest = .ok declared ∧
      ∀ (bridge : Bridge) (version : String) (names : List String) (index : Nat),
        bridge.files = FetchedPackage.materializeAll others left → names[index]? = some name →
        (ModuleResolver.resolve ⟨.manifest, version⟩ bridge names)[index]? = some (some {
          file := entry.text
          extension := .dts
          package := ⟨name, "", declared.version.getD version⟩
          isExternal := true })) ∧
    (FetchedPackage.materializeAll others left).read entry.text .utf8 =
      .ok package.declarations ∧
    (FetchedPackage.materializeAll others left).read
      (package.descriptor.root ++ "/" ++ Package.manifestName) .utf8 = .ok package.manifest := by
  have fits := brings.fits
  obtain ⟨valid, rfl, isEntry⟩ := fits
  have growth := growth_materialize valid isEntry fs
  rw [placed] at growth
  obtain ⟨entry_eq, inPlace⟩ := inPlace_of_materialize valid isEntry placed
  have otherFits : ∀ other ∈ others, ∃ otherName ≠ package.descriptor.name,
      PackageFetch.Fits otherName other := by
    intro other member
    obtain ⟨_, otherName, distinct, brought⟩ := others_brought other member
    exact ⟨otherName, distinct, brought.fits⟩
  obtain ⟨workingDirectory, still⟩ :=
    (inPlace (ne_manifest_of_dts ends)).materializeAll ⟨valid, rfl, isEntry⟩ otherFits
  have same : (FetchedPackage.materializeAll others left).workingDirectory =
      fs.workingDirectory := workingDirectory.trans growth.workingDirectory
  generalize FetchedPackage.materializeAll others left = after at same still ⊢
  rw [← same] at spellable entry_eq
  have home_spellable := spellable_home spellable valid
  refine ⟨?_, ?_, ?_⟩
  · obtain ⟨declared, given, read, version_eq, rest⟩ := brings.declares
    refine ⟨declared, read, fun bridge version names index files found => ?_⟩
    subst files
    have resolved := still.resolveName spellable valid entry_eq isEntry
      ⟨declared, given, read, version_eq, rest⟩ ends version (bridge.entryNames Package.directory)
    rw [ModuleResolver.resolve, List.getElem?_map, found, Option.map_some, resolved, version_eq]
  · have entry_spellable : entry.IsSpellable := by
      rw [entry_eq]
      exact Path.isSpellable_walk home_spellable isEntry.plain
    have declarations := still.declarations
    rw [← entry_eq] at declarations
    have resolved : after.resolve entry.text = .ok entry := by
      rw [FileSystem.resolve, Path.resolve?_text _ entry_spellable]
    rw [FileSystem.read, resolved]
    exact FileSystem.readAt_of_occupant? declarations
  · have resolved : after.resolve (package.descriptor.root ++ "/" ++ Package.manifestName) =
        .ok ((Package.home after.workingDirectory package.descriptor.name).child
          Package.manifestName isName_manifestName) := by
      rw [FileSystem.resolve, PackageDescriptor.root,
        Package.resolve?_entryFile _ valid isEntry_manifestName,
        Path.walk_of_isName _ isName_manifestName]
    rw [FileSystem.read, resolved]
    exact FileSystem.readAt_of_occupant? still.manifest

end FetchedPackage
namespace Sample

/-- A registry of packages without scope and with one. -/
def mirror : PackageRegistry :=
  ⟨⟨"https", some { host := .domain "registry.test" }, .segments [""], none, none⟩⟩

/-- A package with a scope, whose types are not in its root. -/
def scopedPackage : FetchedPackage where
  descriptor := ⟨"@types/pad", "lib/pad.d.ts"⟩
  version := some "1.2.0"
  manifest := "\x7b\"version\":\"1.2.0\",\"types\":\"./lib//pad.d.ts\"\x7d"
  declarations := "export declare function pad(text: string): string;\n"

/-- A package that does not tell its version. -/
def plainPackage : FetchedPackage where
  descriptor := ⟨"pad", "index.d.ts"⟩
  version := none
  manifest := "\x7b\"typings\":\"index.d.ts\"\x7d"
  declarations := "export declare const width: number;\n"

theorem brings_scopedPackage : PackageFetch.Brings mirror "@types/pad" scopedPackage :=
  ⟨[.ok ⟨200, scopedPackage.manifest⟩, .ok ⟨201, scopedPackage.declarations⟩],
    Progress.value?_eq_some_iff.mp (by decide +kernel)⟩

theorem brings_plainPackage : PackageFetch.Brings mirror "pad" plainPackage :=
  ⟨[.ok ⟨200, plainPackage.manifest⟩, .ok ⟨200, plainPackage.declarations⟩],
    Progress.value?_eq_some_iff.mp (by decide +kernel)⟩

/-- A working directory below the root. -/
def workshop : FileSystem := .bare (Path.root.child "work" (by decide))

/-- The scoped package after the plain one has come as well. -/
theorem resolves_where_materialized_scopedPackage :
    ∃ entry left, scopedPackage.materialize.perform workshop = (.ok entry, left) ∧
      (ModuleResolver.resolve ⟨.manifest, "0.0.0"⟩
        { files := FetchedPackage.materializeAll [plainPackage] left } ["pad", "@types/pad"])[1]? =
          some (some ⟨"/work/node_modules/@types/pad/lib/pad.d.ts", .dts,
            ⟨"@types/pad", "", "1.2.0"⟩, true⟩) := by
  have placed : (scopedPackage.materialize.perform workshop).1 =
      .ok (workshop.workingDirectory.walk "node_modules/@types/pad/lib/pad.d.ts") := by
    decide +kernel
  have placed' : scopedPackage.materialize.perform workshop =
      (.ok (workshop.workingDirectory.walk "node_modules/@types/pad/lib/pad.d.ts"),
        (scopedPackage.materialize.perform workshop).2) := by
    rw [← placed]
  generalize (scopedPackage.materialize.perform workshop).2 = left at placed'
  have made : FileSystem.ofWorkingDirectory "/work" = .ok workshop := by
    rw [FileSystem.ofWorkingDirectory, FileSystem.resolve]
    have resolved : Path.root.resolve? "/work" = some (Path.root.child "work" (by decide)) := by
      decide +kernel
    rw [show (FileSystem.bare .root).workingDirectory = Path.root from rfl, resolved]
    rfl
  have spellable := FileSystem.isSpellable_of_ofWorkingDirectory made
  have others : ∀ other ∈ [plainPackage], ∃ registry, ∃ otherName ≠ "@types/pad",
      PackageFetch.Brings registry otherName other := by
    intro other member
    rw [List.mem_singleton.mp member]
    exact ⟨mirror, "pad", by decide, brings_plainPackage⟩
  obtain ⟨⟨declared, read, resolves⟩, _, _⟩ := FetchedPackage.resolves_where_materialized
    brings_scopedPackage spellable placed' (by decide +kernel) others
  have version : (PackageManifest.read scopedPackage.manifest).toOption.map (·.version) =
      some (some "1.2.0") := by
    decide +kernel
  rw [read] at version
  have version' : declared.version = some "1.2.0" := Option.some.inj version
  have entry_text : (workshop.workingDirectory.walk "node_modules/@types/pad/lib/pad.d.ts").text =
      "/work/node_modules/@types/pad/lib/pad.d.ts" := by
    decide +kernel
  have resolved := resolves { files := FetchedPackage.materializeAll [plainPackage] left } "0.0.0"
    ["pad", "@types/pad"] 1 rfl rfl
  rw [version', entry_text] at resolved
  exact ⟨_, left, placed', resolved⟩

end Sample
end Workbench
