import Workbench.Library.Load
import Workbench.Proofs.FileSystem.Growth
import Workbench.Proofs.Path.Resolution

/-!
# Where libraries are placed

Library files are put side by side into one directory. Where no directory is among them and no file
on the way, they are put there with a result that depends on nothing but their names and the
directory, and nothing else in the file system changes.
-/

namespace Workbench

/-- Files can be put into the directory under any name. -/
structure FileSystem.Shelf (fs : FileSystem) (directory : Path) : Prop where
  /-- The directory is there or can be made. -/
  clear : ∀ path ≤ directory, ¬Occupant.IsFile (fs.occupant? path)
  /-- No name in it is taken by a directory. -/
  free : ∀ (name : String) (named : IsName name),
    fs.occupant? (directory.child name named) ≠ some .directory

theorem FileSystem.Shelf.put {before after : FileSystem} {directory : Path} {name : String}
    {named : IsName name} {content : ByteArray} (shelf : before.Shelf directory)
    (view : ∀ other, after.occupant? other =
      if other = directory.child name named then some (.file content) else before.occupant? other) :
    after.Shelf directory where
  clear path leads := by
    have elsewhere : path ≠ directory.child name named :=
      (Path.lt_child_iff.mpr leads).ne
    rw [view, if_neg elsewhere]
    exact shelf.clear path leads
  free other otherNamed := by
    rw [view]
    split
    · exact nofun
    · exact shelf.free other otherNamed

namespace LibraryFiles

variable {directory : Path} {fs : FileSystem}

/-- What putting files into a directory comes to: their paths, unless a name cannot be read. -/
def placed (directory : Path) : List (String × String) → Except FileError (List String)
  | [] => .ok []
  | (name, _) :: more =>
    if '\x00' ∈ name.toList then .error (.invalidPath (directory.directoryText ++ name))
    else (placed directory more).map ((directory.directoryText ++ name) :: ·)

/-- The text of a file in the directory leads to it, unless the name cannot be read. -/
theorem resolve_join (fs : FileSystem) (spellable : directory.IsSpellable) {name : String}
    (named : IsName name) : fs.resolve (Spelling.join directory.text name) =
      if '\x00' ∈ name.toList then .error (.invalidPath (directory.directoryText ++ name))
      else .ok (directory.child name named) := by
  rw [Spelling.join_text directory named, FileSystem.resolve,
    Path.resolve?_directoryText _ spellable]
  by_cases odd : '\x00' ∈ name.toList
  · rw [if_pos odd, if_pos odd]
  · rw [if_neg odd, if_neg odd, Path.walk_of_isName directory named]

theorem writeAll_of_shelf (spellable : directory.IsSpellable) (files : List (String × String))
    (named : ∀ file ∈ files, IsName file.1) (fs : FileSystem)
    (lead : fs.occupant? directory = some .directory) (shelf : fs.Shelf directory) :
    ∃ left, (writeAll directory.text files).perform fs = (placed directory files, left) ∧
      FileSystem.Confined directory fs left ∧ left.Shelf directory := by
  induction files generalizing fs with
  | nil => exact ⟨fs, rfl, .refl directory fs, shelf⟩
  | cons file files induction =>
      obtain ⟨name, text⟩ := file
      have nameNamed := named (name, text) List.mem_cons_self
      have resolve := resolve_join fs spellable nameNamed
      rw [writeAll, placed]
      by_cases odd : '\x00' ∈ name.toList
      · rw [if_pos odd] at resolve
        have refused : fs.write (Spelling.join directory.text name) text .utf8 =
            .error (.invalidPath (directory.directoryText ++ name)) := by
          rw [FileSystem.write, resolve]
          rfl
        refine ⟨fs, ?_, .refl directory fs, shelf⟩
        rw [FileActivity.perform_bind_of_error
          (by rw [FileActivity.perform_ofOperation, refused]), if_pos odd]
      · rw [if_neg odd] at resolve
        obtain ⟨written, success, written_at, view⟩ := FileSystem.writeAt_ok
          (show Encoding.utf8.encode? text = some text.toUTF8 from rfl) lead
          (shelf.free name nameNamed)
        have accepted : fs.write (Spelling.join directory.text name) text .utf8 = .ok written := by
          rw [FileSystem.write, resolve]
          exact success
        have confined : FileSystem.Confined directory fs written :=
          .of_put (Path.le_child directory name nameNamed) written_at view
        have lead' : written.occupant? directory = some .directory := by
          rw [view, if_neg (Path.lt_child_iff.mpr le_rfl).ne, lead]
        obtain ⟨left, rest, confined', shelf'⟩ :=
          induction (fun other member => named other (List.mem_cons_of_mem _ member)) written lead'
            (shelf.put view)
        refine ⟨left, ?_, confined.trans confined', shelf'⟩
        rw [FileActivity.perform_bind_of_ok (by rw [FileActivity.perform_ofOperation, accepted]),
          FileActivity.perform_bind, rest, if_neg odd, Spelling.join_text directory nameNamed]
        cases placed directory files <;> rfl

theorem install_of_shelf {location : String} {files : LibraryFiles}
    (resolved : fs.resolve location = .ok directory) (spellable : directory.IsSpellable)
    (named : ∀ file ∈ files.entries, IsName file.1) (shelf : fs.Shelf directory) :
    ∃ left, (files.install location).perform fs = (placed directory files.entries, left) ∧
      FileSystem.Confined directory fs left ∧ left.Shelf directory := by
  obtain ⟨made, success, made_at, view⟩ := FileSystem.makeDirectoriesAt_ok shelf.clear
  have lead : made.occupant? directory = some .directory := by rw [view, if_pos le_rfl]
  have shelf' : made.Shelf directory := by
    constructor
    · intro path leads
      rw [view, if_pos leads]
      exact id
    · intro name nameNamed
      rw [view, if_neg (Path.not_child_le directory name nameNamed)]
      exact shelf.free name nameNamed
  obtain ⟨left, written, confined, shelf''⟩ :=
    writeAll_of_shelf spellable files.entries named made lead shelf'
  refine ⟨left, ?_, (FileSystem.Confined.of_chain le_rfl made_at view).trans confined, shelf''⟩
  rw [install, FileActivity.perform_bind_of_ok
    (by rw [FileActivity.perform_ofQuery, resolved]), FileActivity.perform_bind_of_ok success,
    written]

/-! ## Files of any kind -/

theorem growth_writeAll (spellable : directory.IsSpellable) (files : List (String × String))
    (named : ∀ file ∈ files, IsName file.1) (fs : FileSystem) :
    FileSystem.Growth (directory ≤ ·) fs ((writeAll directory.text files).perform fs).2 := by
  induction files generalizing fs with
  | nil => exact .refl _ fs
  | cons file files induction =>
      obtain ⟨name, text⟩ := file
      have nameNamed := named (name, text) List.mem_cons_self
      have resolve := resolve_join fs spellable nameNamed
      have put : FileSystem.Growth (directory ≤ ·) fs ((FileActivity.ofOperation
          (·.write (Spelling.join directory.text name) text .utf8)).perform fs).2 := by
        rw [FileActivity.perform_ofOperation]
        cases success : fs.write (Spelling.join directory.text name) text .utf8 with
        | error cause => exact .refl _ fs
        | ok left =>
            rw [FileSystem.write, resolve] at success
            split at success
            · cases success
            · have written : fs.writeAt (directory.child name nameNamed) text .utf8 = .ok left :=
                success
              exact FileSystem.growth_of_writeAt (Path.le_child directory name nameNamed) written
      rw [writeAll]
      refine .bind put fun _ written _ => ?_
      refine .bind (induction (fun other member => named other (List.mem_cons_of_mem _ member))
        written) fun _ left _ => ?_
      exact .refl _ left

theorem growth_install {location : String} {files : LibraryFiles}
    (spellable : fs.workingDirectory.IsSpellable) (named : ∀ file ∈ files.entries, IsName file.1) :
    FileSystem.Growth
      (fun path => ∃ directory, fs.resolve location = .ok directory ∧ directory ≤ path) fs
      ((files.install location).perform fs).2 := by
  rw [install]
  refine .bind ?_ fun directory same found => ?_
  · rw [FileActivity.perform_ofQuery]
    exact .refl _ fs
  · rw [FileActivity.perform_ofQuery] at found
    obtain ⟨resolved, rfl⟩ := Prod.mk.inj found
    have directory_spellable := FileSystem.isSpellable_of_resolve spellable resolved
    refine .bind (FileSystem.growth_makeDirectoriesAt directory fs).anywhere fun _ made _ => ?_
    exact (growth_writeAll directory_spellable files.entries named made).mono
      fun path inside => ⟨directory, resolved, inside⟩

/-- Files that could all be written are there, and their names can be read. -/
theorem files_of_writeAll (spellable : directory.IsSpellable) {files : List (String × String)}
    (named : ∀ file ∈ files, IsName file.1) {left : FileSystem} {paths : List String}
    (written : (writeAll directory.text files).perform fs = (.ok paths, left)) :
    ∀ file ∈ files, '\x00' ∉ file.1.toList ∧
      ∃ fileNamed, Occupant.IsFile (left.occupant? (directory.child file.1 fileNamed)) := by
  induction files generalizing fs paths with
  | nil => exact fun _ member => absurd member List.not_mem_nil
  | cons file files induction =>
      have fileNamed := named file List.mem_cons_self
      have others : ∀ other ∈ files, IsName other.1 :=
        fun other member => named other (List.mem_cons_of_mem file member)
      rw [writeAll] at written
      obtain ⟨_, middle, put, written⟩ := FileActivity.exists_of_perform_bind written
      obtain ⟨more, after, rest, written⟩ := FileActivity.exists_of_perform_bind written
      obtain rfl : after = left := (Prod.mk.inj written).2
      have success := FileActivity.eq_ok_of_perform_ofOperation put
      rw [FileSystem.write, resolve_join fs spellable fileNamed] at success
      have later := growth_writeAll spellable files others middle
      rw [rest] at later
      intro other member
      rcases List.mem_cons.mp member with rfl | further
      · split at success
        · cases success
        · rename_i plain
          have stored : fs.writeAt (directory.child other.1 fileNamed) other.2 .utf8 = .ok middle :=
            success
          refine ⟨plain, fileNamed, later.file _ ?_⟩
          simp [FileSystem.occupant?_of_writeAt stored, Occupant.IsFile]
      · exact induction others rest other further

theorem files_of_install {location : String} {files : LibraryFiles}
    (spellable : fs.workingDirectory.IsSpellable) (named : ∀ file ∈ files.entries, IsName file.1)
    {left : FileSystem} {paths : List String}
    (installed : (files.install location).perform fs = (.ok paths, left)) :
    ∃ directory, fs.resolve location = .ok directory ∧
      ∀ file ∈ files.entries, '\x00' ∉ file.1.toList ∧
        ∃ fileNamed, Occupant.IsFile (left.occupant? (directory.child file.1 fileNamed)) := by
  rw [install] at installed
  obtain ⟨directory, same, found, installed⟩ := FileActivity.exists_of_perform_bind installed
  rw [FileActivity.perform_ofQuery] at found
  obtain ⟨resolved, rfl⟩ := Prod.mk.inj found
  obtain ⟨_, made, _, written⟩ := FileActivity.exists_of_perform_bind installed
  exact ⟨directory, resolved, files_of_writeAll
    (FileSystem.isSpellable_of_resolve spellable resolved) named written⟩

end LibraryFiles
end Workbench
