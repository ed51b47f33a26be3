import Workbench.Host.Bridge
import Workbench.Proofs.FileSystem.Storing

/-!
# What the bridge answers and makes

The bridge tells what exists at a path, and it makes single directories. Where the directory above
exists, making one leaves the same files as making the whole chain. But the bridge takes whatever is
in the place of the new directory for that directory, so that it reports success where a file is and
the chain is refused.
-/

namespace Workbench
namespace Bridge

variable {bridge : Bridge} {path : Path} {text : String}

/-! ## Asking what exists -/

theorem fileText_of_occupant? (spellable : path.IsSpellable) {text : String}
    (there : bridge.files.occupant? path = some (.file text.toUTF8)) :
    bridge.fileText path.text = .ok text := by
  have resolved : bridge.files.resolve path.text = .ok path := by
    rw [FileSystem.resolve, Path.resolve?_text _ spellable]
  rw [fileText, FileSystem.read, resolved]
  exact FileSystem.readAt_of_occupant? there

theorem kind?_of_resolve (resolved : bridge.files.resolve text = .ok path) :
    bridge.kind? text = (bridge.files.occupant? path).map (·.stat.kind) := by
  have stat : bridge.files.stat text = bridge.files.statAt path := by
    rw [FileSystem.stat, resolved]
    rfl
  rw [kind?, stat, FileSystem.statAt_eq]
  cases bridge.files.occupant? path <;> rfl

theorem kind?_text (spellable : path.IsSpellable) :
    bridge.kind? path.text = (bridge.files.occupant? path).map (·.stat.kind) :=
  kind?_of_resolve (by rw [FileSystem.resolve, Path.resolve?_text _ spellable])

theorem kind?_eq_some_iff {kind : NodeKind} : bridge.kind? text = some kind ↔
    ∃ path, bridge.files.resolve text = .ok path ∧
      (bridge.files.occupant? path).map (·.stat.kind) = some kind := by
  cases resolved : bridge.files.resolve text with
  | error cause =>
      rw [kind?, FileSystem.stat, resolved]
      refine iff_of_false ?_ ?_
      · rintro ⟨⟩
      · rintro ⟨_, ⟨⟩, _⟩
  | ok path =>
      rw [kind?_of_resolve resolved]
      constructor
      · exact fun there => ⟨path, rfl, there⟩
      · rintro ⟨_, ⟨rfl⟩, there⟩
        exact there

theorem fileExists_iff : bridge.fileExists text = true ↔
    ∃ path, bridge.files.resolve text = .ok path ∧
      Occupant.IsFile (bridge.files.occupant? path) := by
  have isFile_iff : ∀ occupant : Option Occupant,
      occupant.map (·.stat.kind) = some .file ↔ Occupant.IsFile occupant := by
    rintro (_ | _ | _) <;> simp [Occupant.IsFile, Occupant.stat]
  rw [fileExists, decide_eq_true_iff, kind?_eq_some_iff]
  simp only [isFile_iff]

theorem directoryExists_iff : bridge.directoryExists text = true ↔
    ∃ path, bridge.files.resolve text = .ok path ∧
      bridge.files.occupant? path = some .directory := by
  have isDirectory_iff : ∀ occupant : Option Occupant,
      occupant.map (·.stat.kind) = some .directory ↔ occupant = some .directory := by
    rintro (_ | _ | _) <;> simp [Occupant.stat]
  rw [directoryExists, decide_eq_true_iff, kind?_eq_some_iff]
  simp only [isDirectory_iff]

theorem directoryExists_of_resolve (resolved : bridge.files.resolve text = .ok path) :
    bridge.directoryExists text = true ↔ bridge.files.occupant? path = some .directory := by
  rw [directoryExists_iff, resolved]
  constructor
  · rintro ⟨_, ⟨rfl⟩, there⟩
    exact there
  · exact fun there => ⟨path, rfl, there⟩

theorem mem_entryNames {name : String} (resolved : bridge.files.resolve text = .ok path)
    (named : IsName name) :
    name ∈ bridge.entryNames text ↔ bridge.files.occupant? (path.child name named) ≠ none := by
  rw [entryNames, FileSystem.list, resolved]
  by_cases there : bridge.files.occupant? path = some .directory
  · obtain ⟨entries, found⟩ := FileSystem.occupant?_eq_directory_iff.mp there
    have child_eq : bridge.files.node? (path.child name named) = Entries.find? name entries :=
      FileSystem.node?_child_of_directory found
    have listed : name ∈ entries.map (·.1) ↔
        bridge.files.occupant? (path.child name named) ≠ none := by
      rw [Entries.mem_names_iff, Ne, Ne, FileSystem.occupant?_eq_none_iff, child_eq]
    rw [← listed]
    simp [Except.toOption, Bind.bind, Except.bind, found]
  · -- Nothing is in what is no directory.
    have empty : bridge.files.occupant? (path.child name named) = none := by
      by_contra occupied
      exact there (FileSystem.directory_of_occupied occupied)
    refine iff_of_false ?_ (not_not_intro empty)
    cases found : bridge.files.node? path with
    | none => simp [Except.toOption, Bind.bind, Except.bind, found]
    | some node =>
        cases node with
        | file content => simp [Except.toOption, Bind.bind, Except.bind, found]
        | directory entries =>
            exact absurd (FileSystem.occupant?_eq_directory_iff.mpr ⟨entries, found⟩) there

/-! ## Making one directory -/

theorem createDirectory_of_directory (resolved : bridge.files.resolve text = .ok path)
    (there : bridge.files.occupant? path = some .directory) :
    bridge.createDirectory text = (.ok (), bridge) := by
  rw [createDirectory, if_pos ((directoryExists_of_resolve resolved).mpr there)]

section

variable (resolved : bridge.files.resolve text = .ok path)
  (free : bridge.files.occupant? path ≠ some .directory)
include resolved free

theorem createDirectory_of_ok {left : FileSystem}
    (made : bridge.files.makeDirectoryAt path = .ok left) :
    bridge.createDirectory text = (.ok (), { bridge with files := left }) := by
  have made' : bridge.files.makeDirectory text = .ok left := by
    rw [FileSystem.makeDirectory, resolved]
    exact made
  rw [createDirectory, if_neg (mt (directoryExists_of_resolve resolved).mp free), update, made']

theorem createDirectory_of_alreadyExists {other : Path}
    (refused : bridge.files.makeDirectoryAt path = .error (.alreadyExists other)) :
    bridge.createDirectory text = (.ok (), bridge) := by
  have refused' : bridge.files.makeDirectory text = .error (.alreadyExists other) := by
    rw [FileSystem.makeDirectory, resolved]
    exact refused
  rw [createDirectory, if_neg (mt (directoryExists_of_resolve resolved).mp free), update, refused']

end

/-- Where the directory above exists and nothing is in the place, making the chain of directories is
making the last one. -/
theorem perform_makeDirectoriesAt_child {fs : FileSystem} {directory : Path} {name : String}
    {named : IsName name} (lead : fs.occupant? directory = some .directory)
    (free : fs.occupant? (directory.child name named) = none) :
    ∃ left, fs.makeDirectoryAt (directory.child name named) = .ok left ∧
      (FileSystem.makeDirectoriesAt (directory.child name named)).perform fs = (.ok (), left) ∧
      left.occupant? (directory.child name named) = some .directory := by
  have leads : ∀ upper < directory.child name named, fs.occupant? upper = some .directory := by
    intro upper above
    rcases (Path.lt_child_iff.mp above).eq_or_lt with rfl | further
    · exact lead
    · exact fs.coherent.directory_of_lt further (by simp [lead])
  have clear : ∀ upper ≤ directory.child name named, ¬Occupant.IsFile (fs.occupant? upper) := by
    intro upper way
    rcases way.eq_or_lt with rfl | above
    · simp [free, Occupant.IsFile]
    · simp [leads upper above, Occupant.IsFile]
  obtain ⟨left, made, workingDirectory, view⟩ := FileSystem.makeDirectoryAt_ok lead free
  obtain ⟨chain, opens, opened, _⟩ := FileSystem.exists_opened clear
  obtain rfl : chain = left := by
    refine FileSystem.ext_of_occupant?
      (opened.workingDirectory.trans workingDirectory.symm) fun other => ?_
    rw [view, opened.view]
    by_cases here : other = directory.child name named
    · rw [if_pos here, if_pos ⟨here.le, here ▸ free⟩]
    · rw [if_neg here, if_neg]
      rintro ⟨way, empty⟩
      simp [leads other (lt_of_le_of_ne way here)] at empty
  exact ⟨chain, made, opens, opened.directory _ le_rfl⟩

/-- Where the directory above exists, the bridge always reports success and leaves the files that
making the chain of directories leaves. The chain succeeds, and a directory is there afterwards,
exactly if no file is in its place. -/
theorem createDirectory_eq_makeDirectories (resolved : bridge.files.resolve text = .ok path)
    (lead : ∀ directory ∈ path.parent?, bridge.files.occupant? directory = some .directory) :
    ∃ outcome left, (FileSystem.makeDirectories text).perform bridge.files = (outcome, left) ∧
      bridge.createDirectory text = (.ok (), { bridge with files := left }) ∧
      (outcome = .ok () ↔ ¬Occupant.IsFile (bridge.files.occupant? path)) ∧
      (left.occupant? path = some .directory ↔
        ¬Occupant.IsFile (bridge.files.occupant? path)) := by
  rw [FileSystem.perform_makeDirectories, resolved]
  dsimp only
  by_cases there : bridge.files.occupant? path = some .directory
  · have no_file : ¬Occupant.IsFile (bridge.files.occupant? path) := by
      simp [there, Occupant.IsFile]
    exact ⟨_, _, FileSystem.makeDirectoriesAt_of_directory there,
      createDirectory_of_directory resolved there, iff_of_true rfl no_file,
      iff_of_true there no_file⟩
  · rcases path.eq_root_or_child with rfl | ⟨directory, name, named, rfl⟩
    · exact absurd (FileSystem.occupant?_root _) there
    · by_cases isFile : Occupant.IsFile (bridge.files.occupant? (directory.child name named))
      · -- Something exists in the place, but it is no directory.
        have occupied : bridge.files.occupant? (directory.child name named) ≠ none := by
          intro empty
          simp [empty, Occupant.IsFile] at isFile
        exact ⟨_, _, FileSystem.makeDirectoriesAt_of_file le_rfl isFile,
          createDirectory_of_alreadyExists resolved there
            (FileSystem.makeDirectoryAt_of_occupied occupied),
          iff_of_false (by simp) (not_not_intro isFile), iff_of_false there (not_not_intro isFile)⟩
      · have empty := Occupant.eq_none_of isFile there
        have above := lead directory (by simp [Path.parent?])
        obtain ⟨left, made, opens, opened⟩ := perform_makeDirectoriesAt_child above empty
        exact ⟨_, left, opens, createDirectory_of_ok resolved there made, iff_of_true rfl isFile,
          iff_of_true opened isFile⟩

end Bridge

namespace Sample

/-- A host with a single file. -/
def singleFile : Bridge where
  files := ((FileSystem.store "/index.ts" "export \x7b\x7d;").perform (.bare .root)).2

/-- A new directory at the root is made either way. -/
theorem createDirectory_eq_makeDirectories_new : ∃ left,
    (FileSystem.makeDirectories "/dist").perform singleFile.files = (.ok (), left) ∧
      singleFile.createDirectory "/dist" = (.ok (), { singleFile with files := left }) ∧
      left.occupant? (Path.root.child "dist" (by decide)) = some .directory := by
  have resolved : singleFile.files.resolve "/dist" = .ok (Path.root.child "dist" (by decide)) := by
    rw [FileSystem.resolve_eq_ok_iff]
    decide +kernel
  have free : ¬Occupant.IsFile
      (singleFile.files.occupant? (Path.root.child "dist" (by decide))) := by
    have empty : singleFile.files.occupant? (Path.root.child "dist" (by decide)) = none := by
      decide +kernel
    simp [empty, Occupant.IsFile]
  obtain ⟨outcome, left, opens, made, success, there⟩ :=
    Bridge.createDirectory_eq_makeDirectories resolved (by decide +kernel)
  obtain rfl := success.mpr free
  exact ⟨left, opens, made, there.mpr free⟩

/-- The bridge reports success where a file is, and the chain of directories is refused. -/
theorem createDirectory_reports_file :
    (singleFile.files.resolve "/index.ts").toOption = some (Path.root.child "index.ts" (by decide)) ∧
      singleFile.files.occupant? .root = some .directory ∧
      (singleFile.createDirectory "/index.ts").1.toOption = some () ∧
      ((FileSystem.makeDirectories "/index.ts").perform singleFile.files).1.toOption = none ∧
      ¬(singleFile.createDirectory "/index.ts").2.directoryExists "/index.ts" := by
  decide +kernel

end Sample
end Workbench
