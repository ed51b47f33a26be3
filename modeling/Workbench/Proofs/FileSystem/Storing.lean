import Workbench.Proofs.FileSystem.Locality

/-!
# All or nothing

A chain of directories is made only after the whole way has been found free of files, and a file is
written only after its directory has been made. What is refused then is refused for something that
was there before, so that either everything has been done or nothing has changed.
-/

namespace Workbench
namespace FileSystem

variable {fs left : FileSystem} {path : Path} {text : String}

/-! ## Chains of directories -/

theorem makeDirectoriesAt_of_directory (there : fs.occupant? path = some .directory) :
    (makeDirectoriesAt path).perform fs = (.ok (), fs) := by
  have lead : ∀ upper ≤ path, fs.occupant? upper = some .directory := by
    intro upper leads
    rcases leads.eq_or_lt with rfl | above
    · exact there
    · exact fs.coherent.directory_of_lt above (by simp [there])
  have clear : ∀ upper ≤ path, ¬Occupant.IsFile (fs.occupant? upper) := by
    intro upper leads
    simp [lead upper leads, Occupant.IsFile]
  obtain ⟨left, made, workingDirectory, view⟩ := makeDirectoriesAt_ok clear
  obtain rfl : left = fs := by
    refine ext_of_occupant? workingDirectory fun other => ?_
    rw [view]
    split
    next leads => exact (lead other leads).symm
    next => rfl
  exact made

/-- Every directory on the way to the path is there, and those that were missing are all that is
new. -/
structure Opened (path : Path) (before after : FileSystem) : Prop where
  workingDirectory : after.workingDirectory = before.workingDirectory
  /-- The way is there. -/
  directory : ∀ upper ≤ path, after.occupant? upper = some .directory
  /-- Directories are where nothing was on the way, and everything else is as it was. -/
  view : ∀ other, after.occupant? other =
    if other ≤ path ∧ before.occupant? other = none then some .directory
    else before.occupant? other

theorem Opened.not_isFile {directory : Path} (opened : Opened directory fs left) (absent : ¬Occupant.IsFile (fs.occupant? path)) :
    ¬Occupant.IsFile (left.occupant? path) := by
  rw [opened.view]
  split
  next => exact id
  next => exact absent

/-- Where no file is on the way, it is opened, and opening it again changes nothing. -/
theorem exists_opened (clear : ∀ upper ≤ path, ¬Occupant.IsFile (fs.occupant? upper)) :
    ∃ left, (makeDirectoriesAt path).perform fs = (.ok (), left) ∧ Opened path fs left ∧
      (makeDirectoriesAt path).perform left = (.ok (), left) := by
  obtain ⟨left, made, workingDirectory, view⟩ := makeDirectoriesAt_ok clear
  have directory : ∀ upper ≤ path, left.occupant? upper = some .directory := by
    intro upper leads
    rw [view, if_pos leads]
  refine ⟨left, made, ⟨workingDirectory, directory, fun other => ?_⟩,
    makeDirectoriesAt_of_directory (directory path le_rfl)⟩
  rw [view]
  by_cases leads : other ≤ path
  · by_cases absent : fs.occupant? other = none
    · rw [if_pos leads, if_pos ⟨leads, absent⟩]
    · have there : fs.occupant? other = some .directory := by
        by_contra no_directory
        exact absent (Occupant.eq_none_of (clear other leads) no_directory)
      rw [if_pos leads, there, ite_self]
  · rw [if_neg leads, if_neg fun both => leads both.1]

theorem perform_makeDirectories (text : String) (fs : FileSystem) :
    (makeDirectories text).perform fs = match fs.resolve text with
      | .error cause => (.error cause, fs)
      | .ok path => (makeDirectoriesAt path).perform fs := by
  rw [makeDirectories, FileActivity.perform_bind, FileActivity.perform_ofQuery]
  cases fs.resolve text <;> rfl

theorem resolve_of_not_readable (unreadable : ¬Path.IsReadable text) :
    fs.resolve text = .error (.invalidPath text) := by
  rw [resolve, Path.resolve?, if_neg unreadable]

theorem exists_resolve (readable : Path.IsReadable text) : ∃ path, fs.resolve text = .ok path := by
  rw [resolve, Path.resolve?, if_pos readable]
  exact ⟨_, rfl⟩

/-- What making directories comes to: text that is no path is refused, a file on the way is refused,
and else the way is opened. -/
theorem makeDirectories_cases (text : String) (fs : FileSystem) :
    (¬Path.IsReadable text ∧
      (makeDirectories text).perform fs = (.error (.invalidPath text), fs)) ∨
    ∃ path, fs.resolve text = .ok path ∧ Path.IsReadable text ∧
      ((∃ file ≤ path, Occupant.IsFile (fs.occupant? file) ∧
        (makeDirectories text).perform fs = (.error (.typeConflict file .directory), fs)) ∨
      (∀ upper ≤ path, ¬Occupant.IsFile (fs.occupant? upper)) ∧
        ∃ left, (makeDirectories text).perform fs = (.ok (), left) ∧ Opened path fs left ∧
          (makeDirectories text).perform left = (.ok (), left)) := by
  by_cases readable : Path.IsReadable text
  · obtain ⟨path, resolved⟩ := fs.exists_resolve readable
    refine .inr ⟨path, resolved, readable, ?_⟩
    by_cases blocked : ∃ file ≤ path, Occupant.IsFile (fs.occupant? file)
    · obtain ⟨file, way, isFile⟩ := blocked
      refine .inl ⟨file, way, isFile, ?_⟩
      rw [perform_makeDirectories, resolved]
      exact makeDirectoriesAt_of_file way isFile
    · push Not at blocked
      obtain ⟨left, made, opened, again⟩ := exists_opened blocked
      have resolved' : left.resolve text = .ok path := by
        rw [resolve, opened.workingDirectory]
        exact resolved
      refine .inr ⟨blocked, left, ?_, opened, ?_⟩
      · rw [perform_makeDirectories, resolved]
        exact made
      · rw [perform_makeDirectories, resolved']
        exact again
  · refine .inl ⟨readable, ?_⟩
    rw [perform_makeDirectories, resolve_of_not_readable readable]

/-- Making directories is refused for text that is no path and for the one file on the way, and
otherwise succeeds. A refusal leaves everything as it was. A success makes exactly the directories
that were missing, and there is nothing left to do the second time. -/
theorem makeDirectories_exact (fs : FileSystem) (text : String) :
    ∃ outcome left, (makeDirectories text).perform fs = (outcome, left) ∧
      (outcome = .error (.invalidPath text) ↔ text = "" ∨ '\x00' ∈ text.toList) ∧
      (∀ file, outcome = .error (.typeConflict file .directory) ↔
        ∃ path, fs.resolve text = .ok path ∧ file ≤ path ∧
          Occupant.IsFile (fs.occupant? file)) ∧
      (∀ path, fs.resolve text = .ok path → ∀ file ≤ path, ∀ other ≤ path,
        Occupant.IsFile (fs.occupant? file) → Occupant.IsFile (fs.occupant? other) →
          file = other) ∧
      (∀ cause, outcome = .error cause → left = fs ∧
        (cause = .invalidPath text ∨ ∃ file, cause = .typeConflict file .directory)) ∧
      (outcome = .ok () → ∃ path, fs.resolve text = .ok path ∧ Opened path fs left ∧
        (makeDirectories text).perform left = (.ok (), left)) := by
  have readable_iff : ¬Path.IsReadable text ↔ text = "" ∨ '\x00' ∈ text.toList := by
    rw [Path.IsReadable, not_and_or, not_not, not_not]
  have unique : ∀ path, fs.resolve text = .ok path → ∀ file ≤ path, ∀ other ≤ path,
      Occupant.IsFile (fs.occupant? file) → Occupant.IsFile (fs.occupant? other) →
        file = other :=
    fun _ _ _ way _ way' => fs.coherent.file_unique way way'
  rw [← readable_iff]
  obtain ⟨unreadable, refused⟩ | ⟨path, resolved, readable, ⟨file, way, isFile, refused⟩ |
    ⟨clear, left, made, opened, again⟩⟩ := makeDirectories_cases text fs
  · refine ⟨_, fs, refused, iff_of_true rfl unreadable, fun file => ?_, unique, ?_,
      by simp⟩
    · refine iff_of_false (by simp) ?_
      rintro ⟨path, resolved, _⟩
      simp [resolve_of_not_readable unreadable] at resolved
    · rintro cause ⟨rfl⟩
      exact ⟨rfl, .inl rfl⟩
  · refine ⟨_, fs, refused, iff_of_false (by simp) (not_not_intro readable), fun other => ?_,
      unique, ?_, by simp⟩
    · constructor
      · rintro ⟨rfl⟩
        exact ⟨path, resolved, way, isFile⟩
      · rintro ⟨path', resolved', way', isFile'⟩
        obtain rfl := Except.ok.inj (resolved.symm.trans resolved')
        rw [unique path resolved file way other way' isFile isFile']
    · rintro cause ⟨rfl⟩
      exact ⟨rfl, .inr ⟨file, rfl⟩⟩
  · refine ⟨_, left, made, iff_of_false (by simp) (not_not_intro readable), fun file => ?_,
      unique, by simp, fun _ => ⟨path, resolved, opened, again⟩⟩
    refine iff_of_false (by simp) ?_
    rintro ⟨path', resolved', way, isFile⟩
    obtain rfl := Except.ok.inj (resolved.symm.trans resolved')
    exact clear file way isFile

/-! ## Storing a text -/

/-- A file can be put at the path: no directory is there, and no file is on the way. -/
structure Admits (fs : FileSystem) (path : Path) : Prop where
  free : fs.occupant? path ≠ some .directory
  clear : ∀ upper < path, ¬Occupant.IsFile (fs.occupant? upper)

/-- The text is in a file at the path, and directories on the way that were missing are all else
that is new. -/
structure Stored (path : Path) (text : String) (before after : FileSystem) : Prop where
  workingDirectory : after.workingDirectory = before.workingDirectory
  file : after.occupant? path = some (.file text.toUTF8)
  elsewhere : ∀ other ≠ path, after.occupant? other =
    if other < path ∧ before.occupant? other = none then some .directory
    else before.occupant? other

theorem Stored.lead (stored : Stored path text fs left) {upper : Path} (above : upper < path) :
    left.occupant? upper = some .directory :=
  left.coherent.directory_of_lt above (by simp [stored.file])

theorem Stored.read (stored : Stored path text fs left) {name : String}
    (resolved : fs.resolve name = .ok path) : left.read name .utf8 = .ok text := by
  have resolved' : left.resolve name = .ok path := by
    rw [resolve, stored.workingDirectory]
    exact resolved
  rw [FileSystem.read, resolved']
  exact readAt_of_occupant? stored.file

theorem Stored.eq_of_file (stored : Stored path text fs left)
    (there : fs.occupant? path = some (.file text.toUTF8)) : left = fs := by
  refine ext_of_occupant? stored.workingDirectory fun other => ?_
  by_cases here : other = path
  · rw [here, stored.file, there]
  · rw [stored.elsewhere other here]
    split
    next missing =>
      have lead := fs.coherent.directory_of_lt missing.1 (by simp [there])
      exact lead.symm
    next => rfl

theorem exists_stored (admits : fs.Admits path) (text : String) :
    ∃ left, (storeAt path text).perform fs = (.ok (), left) ∧ Stored path text fs left := by
  rcases path.eq_root_or_child with rfl | ⟨directory, name, named, rfl⟩
  · exact absurd (occupant?_root fs) admits.free
  · have clear : ∀ upper ≤ directory, ¬Occupant.IsFile (fs.occupant? upper) :=
      fun upper leads => admits.clear upper (Path.lt_child_iff.mpr leads)
    obtain ⟨chain, made, opened, _⟩ := exists_opened clear
    have free : chain.occupant? (directory.child name named) ≠ some .directory := by
      rw [opened.view, if_neg fun both => Path.not_child_le directory name named both.1]
      exact admits.free
    obtain ⟨left, written, workingDirectory, view⟩ :=
      writeAt_ok (encode?_utf8 text) (opened.directory directory le_rfl) free
    refine ⟨left, ?_, workingDirectory.trans opened.workingDirectory, ?_, fun other distinct => ?_⟩
    · rw [storeAt_child, FileActivity.perform_bind_of_ok made, FileActivity.perform_ofOperation,
        written]
    · rw [view, if_pos rfl]
    · rw [view, if_neg distinct, opened.view]
      simp only [Path.lt_child_iff]

theorem storeAt_of_not_admits (refused : ¬fs.Admits path) (text : String) :
    ∃ cause, (storeAt path text).perform fs = (.error cause, fs) := by
  rcases path.eq_root_or_child with rfl | ⟨directory, name, named, rfl⟩
  · exact ⟨_, rfl⟩
  · rw [storeAt_child]
    by_cases blocked : ∃ file ≤ directory, Occupant.IsFile (fs.occupant? file)
    · obtain ⟨file, way, isFile⟩ := blocked
      exact ⟨_, FileActivity.perform_bind_of_error (makeDirectoriesAt_of_file way isFile)⟩
    · push Not at blocked
      have taken : fs.occupant? (directory.child name named) = some .directory := by
        by_contra free
        exact refused ⟨free, fun upper above => blocked upper (Path.lt_child_iff.mp above)⟩
      -- The directory in the way stands in a directory, so that no chain had to be made.
      have lead : fs.occupant? directory = some .directory :=
        directory_of_occupied (by rw [taken]; exact nofun)
      have made := makeDirectoriesAt_of_directory lead
      refine ⟨.typeConflict (directory.child name named) .file, ?_⟩
      rw [FileActivity.perform_bind_of_ok made, FileActivity.perform_ofOperation,
        writeAt_of_directory (encode?_utf8 text) taken]

theorem store_of_admits {name : String} (resolved : fs.resolve name = .ok path)
    (admits : fs.Admits path) (text : String) :
    ∃ left, (store name text).perform fs = (.ok path, left) ∧ Stored path text fs left := by
  obtain ⟨left, done, stored⟩ := exists_stored admits text
  refine ⟨left, ?_, stored⟩
  rw [store, FileActivity.perform_bind_of_ok (by rw [FileActivity.perform_ofQuery, resolved]),
    FileActivity.perform_bind_of_ok done]
  rfl

theorem store_of_not_admits {name : String}
    (refused : ∀ path, fs.resolve name = .ok path → ¬fs.Admits path) (text : String) :
    ∃ cause, (store name text).perform fs = (.error cause, fs) := by
  rw [store]
  cases resolved : fs.resolve name with
  | error cause =>
      exact ⟨cause, FileActivity.perform_bind_of_error
        (by rw [FileActivity.perform_ofQuery, resolved])⟩
  | ok path =>
      obtain ⟨cause, failed⟩ := storeAt_of_not_admits (refused path resolved) text
      refine ⟨cause, ?_⟩
      rw [FileActivity.perform_bind_of_ok (by rw [FileActivity.perform_ofQuery, resolved]),
        FileActivity.perform_bind_of_error failed]

end FileSystem
end Workbench
