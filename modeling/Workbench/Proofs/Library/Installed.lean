import Workbench.Library.Load
import Workbench.Proofs.FileSystem.Locality
import Workbench.Proofs.Remote.Settlement

/-!
# Installed libraries

Library files are written in the order of their names, each to where its name leads from the
directory. A file replaces any before it that led to the same place, and a name that leads upward is
followed out of the directory. So the files can all be read as they were given, from below the
directory, exactly if their names lead apart and downward.
-/

namespace Workbench

namespace LibraryFiles

variable {directory path : Path} {fs left : FileSystem} {files : List (String × String)}
  {paths : List String} {name : String}

theorem eq_walk_of_resolve_join
    (resolved : fs.resolve (Spelling.join directory.text name) = .ok path) :
    path = directory.walk name := by
  have rooted := Spelling.head?_join directory.head?_text name
  rw [Path.eq_walk_of_resolve? rooted (FileSystem.resolve_eq_ok_iff.mp resolved),
    Spelling.walk_join, Path.walk_text]

/-- Of the files whose names lead to the path, the last. -/
def lastAt? (directory : Path) (files : List (String × String)) (path : Path) :
    Option (String × String) :=
  files.reverse.find? fun file => directory.walk file.1 = path

theorem lastAt?_cons (directory : Path) (file : String × String) (files : List (String × String))
    (path : Path) : lastAt? directory (file :: files) path =
      (lastAt? directory files path).or
        (if directory.walk file.1 = path then some file else none) := by
  rw [lastAt?, List.reverse_cons, List.find?_append, List.find?_singleton]
  simp only [decide_eq_true_eq, lastAt?]

theorem mem_of_lastAt? {file : String × String} (last : lastAt? directory files path = some file) :
    file ∈ files ∧ directory.walk file.1 = path :=
  ⟨List.mem_reverse.mp (List.mem_of_find?_eq_some last), by simpa using List.find?_some last⟩

theorem exists_lastAt? (directory : Path) {file : String × String} (member : file ∈ files) :
    ∃ last, lastAt? directory files (directory.walk file.1) = some last := by
  refine Option.isSome_iff_exists.mp (List.find?_isSome.mpr ⟨file, List.mem_reverse.mpr member, ?_⟩)
  exact decide_eq_true rfl

/-- What writing files leaves: at every path, the last file that leads there. -/
structure Written (directory : Path) (files : List (String × String)) (before after : FileSystem) :
    Prop where
  workingDirectory : after.workingDirectory = before.workingDirectory
  /-- The path given for a file leads where its name leads from the directory. -/
  resolved : ∀ file ∈ files,
    before.workingDirectory.resolve? (Spelling.join directory.text file.1) =
      some (directory.walk file.1)
  view : ∀ path, after.occupant? path = match lastAt? directory files path with
    | some file => some (.file file.2.toUTF8)
    | none => before.occupant? path

/-- Files that were written are where their names lead, the last of each place. -/
theorem written_of_writeAll
    (done : (writeAll directory.text files).perform fs = (.ok paths, left)) :
    paths = files.map (fun file => Spelling.join directory.text file.1) ∧
      Written directory files fs left := by
  induction files generalizing fs paths with
  | nil =>
      obtain ⟨same, rfl⟩ := Prod.mk.inj done
      obtain rfl := Except.ok.inj same
      exact ⟨rfl, rfl, fun file member => absurd member List.not_mem_nil, fun path => rfl⟩
  | cons file files induction =>
      obtain ⟨name, text⟩ := file
      rw [writeAll] at done
      obtain ⟨_, middle, put, done⟩ := FileActivity.exists_of_perform_bind done
      obtain ⟨more, _, rest, finish⟩ := FileActivity.exists_of_perform_bind done
      obtain ⟨same, rfl⟩ := Prod.mk.inj finish
      obtain rfl := Except.ok.inj same
      have success := FileActivity.eq_ok_of_perform_ofOperation put
      rw [FileSystem.write] at success
      obtain ⟨target, resolved, success⟩ := exists_of_bind_eq_ok success
      obtain rfl := eq_walk_of_resolve_join resolved
      obtain ⟨_, _, _, content, _, encoded, _, _, workingDirectory, view⟩ :=
        FileSystem.view_of_writeAt success
      obtain rfl := Option.some.inj ((FileSystem.encode?_utf8 text).symm.trans encoded)
      obtain ⟨rfl, written⟩ := induction rest
      refine ⟨rfl, written.workingDirectory.trans workingDirectory, ?_, fun path => ?_⟩
      · refine List.forall_mem_cons.mpr ⟨FileSystem.resolve_eq_ok_iff.mp resolved, ?_⟩
        rw [← workingDirectory]
        exact written.resolved
      · -- What the later files leave alone is as the first one left it.
        rw [written.view, lastAt?_cons]
        cases lastAt? directory files path with
        | some last => rfl
        | none =>
            rw [view, Option.none_or]
            by_cases here : directory.walk name = path
            · rw [if_pos here, if_pos here.symm]
            · rw [if_neg here, if_neg (Ne.symm here)]

theorem Written.resolve (written : Written directory files fs left) {file : String × String}
    (member : file ∈ files) :
    left.resolve (Spelling.join directory.text file.1) = .ok (directory.walk file.1) := by
  rw [FileSystem.resolve_eq_ok_iff, written.workingDirectory]
  exact written.resolved file member

theorem Written.read (written : Written directory files fs left) {file last : String × String}
    (member : file ∈ files) (found : lastAt? directory files (directory.walk file.1) = some last) :
    left.read (Spelling.join directory.text file.1) .utf8 = .ok last.2 := by
  have there := written.view (directory.walk file.1)
  rw [found] at there
  rw [FileSystem.read, written.resolve member]
  exact FileSystem.readAt_of_occupant? there

/-! ## Files that fit -/

/-- The path given for a file lies below the directory and reads as the file was given. -/
def Keeps (fs : FileSystem) (directory : Path) (file : String × String) : Prop :=
  ∃ path, fs.resolve (Spelling.join directory.text file.1) = .ok path ∧ directory < path ∧
    fs.read (Spelling.join directory.text file.1) .utf8 = .ok file.2

/-- All names lead downward from the directory, and only files with the same text lead to one
place. -/
structure Fits (directory : Path) (files : List (String × String)) : Prop where
  below : ∀ file ∈ files, directory < directory.walk file.1
  apart : ∀ file ∈ files, ∀ other ∈ files,
    directory.walk file.1 = directory.walk other.1 → file.2 = other.2

theorem fits_of_isName (ascending : Entries.Ascending files)
    (named : ∀ file ∈ files, IsName file.1) (directory : Path) : Fits directory files where
  below file member := by
    rw [Path.walk_of_isName directory (named file member), Path.lt_child_iff]
  apart file member other member' same := by
    rw [Path.walk_of_isName directory (named file member),
      Path.walk_of_isName directory (named other member'), Path.child_inj] at same
    have found := Entries.find?_of_mem ascending member
    rw [same.2, Entries.find?_of_mem ascending member'] at found
    exact (Option.some.inj found).symm

theorem Written.keeps_iff (written : Written directory files fs left) :
    (∀ file ∈ files, Keeps left directory file) ↔ Fits directory files := by
  constructor
  · intro kept
    refine ⟨fun file member => ?_, fun file member other member' same => ?_⟩
    · obtain ⟨path, resolved, below, _⟩ := kept file member
      rwa [Except.ok.inj ((written.resolve member).symm.trans resolved)]
    · -- Both are read as the last file at their place.
      obtain ⟨last, found⟩ := exists_lastAt? directory member
      obtain ⟨_, _, _, read⟩ := kept file member
      obtain ⟨_, _, _, read'⟩ := kept other member'
      rw [written.read member found] at read
      rw [written.read member' (same ▸ found)] at read'
      exact (Except.ok.inj read).symm.trans (Except.ok.inj read')
  · intro fits file member
    obtain ⟨last, found⟩ := exists_lastAt? directory member
    obtain ⟨member', place⟩ := mem_of_lastAt? found
    refine ⟨_, written.resolve member, fits.below file member, ?_⟩
    rw [written.read member found, fits.apart last member' file member place]

/-- An installation that succeeds gives a path for each file, in the order of the names. It leads
where the name leads from the directory and reads as the last file that leads there. Every file is
kept below the directory exactly if the files fit into it, which they do if their names are
ordinary. -/
theorem install_keeps_iff {files : LibraryFiles} {location : String}
    (installed : (files.install location).perform fs = (.ok paths, left)) :
    ∃ directory, fs.resolve location = .ok directory ∧
      paths = files.entries.map (fun file => Spelling.join directory.text file.1) ∧
      (∀ file ∈ files.entries, ∃ last,
        lastAt? directory files.entries (directory.walk file.1) = some last ∧
        left.resolve (Spelling.join directory.text file.1) = .ok (directory.walk file.1) ∧
        left.read (Spelling.join directory.text file.1) .utf8 = .ok last.2) ∧
      ((∀ file ∈ files.entries, Keeps left directory file) ↔ Fits directory files.entries) ∧
      ((∀ file ∈ files.entries, IsName file.1) → Fits directory files.entries) := by
  rw [install] at installed
  obtain ⟨directory, start, resolved, installed⟩ :=
    FileActivity.exists_of_perform_bind installed
  rw [FileActivity.perform_ofQuery] at resolved
  obtain ⟨leads, rfl⟩ := Prod.mk.inj resolved
  obtain ⟨_, made, _, done⟩ := FileActivity.exists_of_perform_bind installed
  obtain ⟨paths_eq, written⟩ := written_of_writeAll done
  refine ⟨directory, leads, paths_eq, fun file member => ?_, written.keeps_iff,
    fun named => fits_of_isName files.ascending named directory⟩
  obtain ⟨last, found⟩ := exists_lastAt? directory member
  exact ⟨last, found, written.resolve member, written.read member found⟩

end LibraryFiles

namespace Sample

/-- An empty file system with its working directory below the root. -/
def emptyStore : FileSystem := .bare ⟨["work"], by decide⟩

/-- Libraries whose names are spelled in different ways, and lead to different files. -/
def spacedLibraries : LibraryFiles :=
  NameMap.ofList [("lib.es5.d.ts", "declare var es: 5;"), (".//lib.dom.d.ts", "declare var dom: 1;")]

/-- What installing libraries at the location leaves in the empty store. -/
def storeWith (files : LibraryFiles) (location : String) : FileSystem :=
  ((files.install location).perform emptyStore).2

/-- All the libraries can be read from below the directory that is made for them. -/
theorem install_keeps_spacedLibraries :
    (spacedLibraries.install "libs/").perform emptyStore =
        (.ok ["/work/libs/.//lib.dom.d.ts", "/work/libs/lib.es5.d.ts"],
          storeWith spacedLibraries "libs/") ∧
      ∀ file ∈ spacedLibraries.entries, LibraryFiles.Keeps (storeWith spacedLibraries "libs/")
        ⟨["work", "libs"], by decide⟩ file := by
  have done : ((spacedLibraries.install "libs/").perform emptyStore).1 =
      .ok ["/work/libs/.//lib.dom.d.ts", "/work/libs/lib.es5.d.ts"] := by
    decide +kernel
  have installed : (spacedLibraries.install "libs/").perform emptyStore =
      (.ok ["/work/libs/.//lib.dom.d.ts", "/work/libs/lib.es5.d.ts"],
        storeWith spacedLibraries "libs/") := by
    rw [storeWith, ← done]
  obtain ⟨directory, resolved, _, _, keeps_iff, _⟩ := LibraryFiles.install_keeps_iff installed
  have place : emptyStore.resolve "libs/" = .ok ⟨["work", "libs"], by decide⟩ := by
    decide +kernel
  obtain rfl := Except.ok.inj (place.symm.trans resolved)
  exact ⟨installed, keeps_iff.mpr ⟨by decide +kernel, by decide +kernel⟩⟩

/-- Libraries of which one leads out of the directory, and two lead to one place in it. -/
def crossedLibraries : LibraryFiles :=
  NameMap.ofList [("../lib.d.ts", "1"), ("./lib.es5.d.ts", "2"), ("lib.es5.d.ts", "3")]

/-- One of the libraries is replaced by another, and one is put beside the directory. -/
theorem install_leaves_directory :
    ((crossedLibraries.install "/libs").perform emptyStore).1 =
        .ok ["/libs/../lib.d.ts", "/libs/./lib.es5.d.ts", "/libs/lib.es5.d.ts"] ∧
      crossedLibraries.get? "./lib.es5.d.ts" = some "2" ∧
      (storeWith crossedLibraries "/libs").read "/libs/./lib.es5.d.ts" .utf8 = .ok "3" ∧
      (storeWith crossedLibraries "/libs").resolve "/libs" = .ok ⟨["libs"], by decide⟩ ∧
      (storeWith crossedLibraries "/libs").resolve "/libs/../lib.d.ts" =
        .ok ⟨["lib.d.ts"], by decide⟩ ∧
      (storeWith crossedLibraries "/libs").read "/lib.d.ts" .utf8 = .ok "1" :=
  ⟨by decide +kernel, by decide +kernel, by decide +kernel, by decide +kernel, by decide +kernel,
    by decide +kernel⟩

end Sample
end Workbench
