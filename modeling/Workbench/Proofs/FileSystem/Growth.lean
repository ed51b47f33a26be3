import Workbench.Proofs.FileSystem.Confinement
import Workbench.Proofs.Path.Resolution

/-!
# Files that only grow

No activity on files ever removes anything or turns a file into a directory, and each writes in a
territory of its own only. So whoever finds a file outside of the territories of others finds the
same content later, and a directory is there for good.
-/

namespace Workbench
namespace FileSystem

/-- Whatever was there is still there, and files outside the territory have kept their content. -/
structure Growth (territory : Path → Prop) (before after : FileSystem) : Prop where
  workingDirectory : after.workingDirectory = before.workingDirectory
  directory : ∀ path, before.occupant? path = some .directory →
    after.occupant? path = some .directory
  file : ∀ path, Occupant.IsFile (before.occupant? path) → Occupant.IsFile (after.occupant? path)
  content : ∀ path content, ¬territory path → before.occupant? path = some (.file content) →
    after.occupant? path = some (.file content)

/-- Nothing is written at any path. -/
abbrev Nowhere : Path → Prop := fun _ => False

namespace Growth

variable {territory wider : Path → Prop} {before middle after : FileSystem}

theorem refl (territory : Path → Prop) (fs : FileSystem) : Growth territory fs fs :=
  ⟨rfl, fun _ => id, fun _ => id, fun _ _ _ => id⟩

theorem trans (first : Growth territory before middle) (second : Growth territory middle after) :
    Growth territory before after where
  workingDirectory := second.workingDirectory.trans first.workingDirectory
  directory path there := second.directory path (first.directory path there)
  file path there := second.file path (first.file path there)
  content path content outside there :=
    second.content path content outside (first.content path content outside there)

theorem mono (growth : Growth territory before after)
    (widens : ∀ path, territory path → wider path) : Growth wider before after :=
  { growth with content := fun path content outside =>
      growth.content path content fun inside => outside (widens path inside) }

theorem anywhere (growth : Growth Nowhere before after) : Growth territory before after :=
  growth.mono fun _ => False.elim

theorem occupied (growth : Growth territory before after) {path : Path}
    (occupied : before.occupant? path ≠ none) : after.occupant? path ≠ none := by
  cases there : before.occupant? path with
  | none => exact absurd there occupied
  | some occupant =>
      cases occupant with
      | file content =>
          have isFile := growth.file path (by simp [there, Occupant.IsFile])
          obtain ⟨_, still⟩ := Occupant.isFile_iff.mp isFile
          simp [still]
      | directory => simp [growth.directory path there]

theorem bind {α β : Type} {activity : FileActivity α} {next : α → FileActivity β}
    (first : Growth territory before (activity.perform before).2)
    (rest : ∀ answer middle, activity.perform before = (.ok answer, middle) →
      Growth territory middle ((next answer).perform middle).2) :
    Growth territory before ((activity >>= next).perform before).2 := by
  rw [FileActivity.perform_bind]
  rcases done : activity.perform before with ⟨outcome, middle⟩
  rw [done] at first
  cases outcome with
  | error cause => exact first
  | ok answer => exact first.trans (rest answer middle done)

theorem of_put {target : Path} {content : ByteArray} (inside : territory target)
    (free : before.occupant? target ≠ some .directory)
    (workingDirectory : after.workingDirectory = before.workingDirectory)
    (view : ∀ other, after.occupant? other =
      if other = target then some (.file content) else before.occupant? other) :
    Growth territory before after where
  workingDirectory := workingDirectory
  directory path there := by
    have elsewhere : path ≠ target := fun same => free (same ▸ there)
    rw [view, if_neg elsewhere, there]
  file path there := by
    rw [view]
    split
    · exact trivial
    · exact there
  content path content outside there := by
    have elsewhere : path ≠ target := fun same => outside (same ▸ inside)
    rw [view, if_neg elsewhere, there]

theorem of_chain {target : Path}
    (clear : ∀ path ≤ target, ¬Occupant.IsFile (before.occupant? path))
    (workingDirectory : after.workingDirectory = before.workingDirectory)
    (view : ∀ other, after.occupant? other =
      if other ≤ target then some .directory else before.occupant? other) :
    Growth Nowhere before after where
  workingDirectory := workingDirectory
  directory path there := by
    rw [view, there, ite_self]
  file path there := by
    rw [view, if_neg fun leads => clear path leads there]
    exact there
  content path content _ there := by
    have leads : ¬path ≤ target := fun leads => clear path leads (by simp [there, Occupant.IsFile])
    rw [view, if_neg leads, there]

theorem of_made {target : Path} (free : before.occupant? target = none)
    (workingDirectory : after.workingDirectory = before.workingDirectory)
    (view : ∀ other, after.occupant? other =
      if other = target then some .directory else before.occupant? other) :
    Growth Nowhere before after where
  workingDirectory := workingDirectory
  directory path there := by rw [view, there, ite_self]
  file path there := by
    have elsewhere : path ≠ target := by
      rintro rfl
      simp [free, Occupant.IsFile] at there
    rwa [view, if_neg elsewhere]
  content path content _ there := by
    have elsewhere : path ≠ target := by
      rintro rfl
      rw [free] at there
      cases there
    rwa [view, if_neg elsewhere]

end Growth

/-! ## Writing -/

variable {fs left : FileSystem} {path : Path} {text name : String}

theorem encode?_utf8 (text : String) : Encoding.utf8.encode? text = some text.toUTF8 := rfl

/-- Text that was written is there, in a directory, and nothing else has changed. -/
theorem view_of_writeAt {encoding : Encoding} (success : fs.writeAt path text encoding = .ok left) :
    ∃ directory name, ∃ named : IsName name, ∃ content,
      path = directory.child name named ∧ encoding.encode? text = some content ∧
      fs.occupant? directory = some .directory ∧ fs.occupant? path ≠ some .directory ∧
      left.workingDirectory = fs.workingDirectory ∧
      ∀ other, left.occupant? other =
        if other = path then some (.file content) else fs.occupant? other := by
  rcases path.eq_root_or_child with rfl | ⟨directory, name, named, rfl⟩
  · exact nomatch success
  · cases encoded : encoding.encode? text with
    | none => exact nomatch (writeAt_of_unencodable encoded).symm.trans success
    | some content =>
        have lead : fs.occupant? directory = some .directory := by
          by_contra absent
          exact nomatch (writeAt_of_no_directory encoded absent).symm.trans success
        have free : fs.occupant? (directory.child name named) ≠ some .directory := by
          intro taken
          exact nomatch (writeAt_of_directory encoded taken).symm.trans success
        obtain ⟨written, success', written_at, view⟩ := writeAt_ok encoded lead free
        obtain rfl := Except.ok.inj (success'.symm.trans success)
        exact ⟨directory, name, named, content, rfl, rfl, lead, free, written_at, view⟩

theorem view_of_makeDirectoryAt (success : fs.makeDirectoryAt path = .ok left) :
    fs.occupant? path = none ∧ left.workingDirectory = fs.workingDirectory ∧
      ∀ other, left.occupant? other =
        if other = path then some .directory else fs.occupant? other := by
  rcases path.eq_root_or_child with rfl | ⟨directory, name, named, rfl⟩
  · exact nomatch success
  · have lead : fs.occupant? directory = some .directory := by
      by_contra absent
      exact nomatch (makeDirectoryAt_of_no_directory absent).symm.trans success
    have free : fs.occupant? (directory.child name named) = none := by
      by_contra occupied
      exact nomatch (makeDirectoryAt_of_occupied occupied).symm.trans success
    obtain ⟨made, success', workingDirectory, view⟩ := makeDirectoryAt_ok lead free
    obtain rfl := Except.ok.inj (success'.symm.trans success)
    exact ⟨free, workingDirectory, view⟩

theorem exists_writeAt_of_write {encoding : Encoding}
    (success : fs.write name text encoding = .ok left) :
    ∃ path, fs.resolve name = .ok path ∧ fs.writeAt path text encoding = .ok left := by
  rw [write] at success
  cases resolved : fs.resolve name with
  | error cause =>
      rw [resolved] at success
      exact nomatch success
  | ok path =>
      rw [resolved] at success
      exact ⟨path, rfl, success⟩

theorem exists_makeDirectoryAt_of_makeDirectory (success : fs.makeDirectory name = .ok left) :
    ∃ path, fs.resolve name = .ok path ∧ fs.makeDirectoryAt path = .ok left := by
  rw [makeDirectory] at success
  cases resolved : fs.resolve name with
  | error cause =>
      rw [resolved] at success
      exact nomatch success
  | ok path =>
      rw [resolved] at success
      exact ⟨path, rfl, success⟩

theorem occupant?_of_writeAt (success : fs.writeAt path text .utf8 = .ok left) :
    left.occupant? path = some (.file text.toUTF8) := by
  obtain ⟨_, _, _, content, _, encoded, _, _, _, view⟩ := view_of_writeAt success
  rw [encode?_utf8] at encoded
  rw [view, if_pos rfl, Option.some.inj encoded]

theorem growth_of_writeAt {territory : Path → Prop} (inside : territory path) {encoding : Encoding}
    (success : fs.writeAt path text encoding = .ok left) : Growth territory fs left := by
  obtain ⟨_, _, _, _, _, _, _, free, workingDirectory, view⟩ := view_of_writeAt success
  exact .of_put inside free workingDirectory view

theorem growth_writeAt {territory : Path → Prop} (inside : territory path) (encoding : Encoding)
    (fs : FileSystem) :
    Growth territory fs
      ((FileActivity.ofOperation (·.writeAt path text encoding)).perform fs).2 := by
  rw [FileActivity.perform_ofOperation]
  cases success : fs.writeAt path text encoding with
  | error cause => exact .refl territory fs
  | ok left => exact growth_of_writeAt inside success

/-! ## Making directories -/

/-- Directories are found missing only where no file is in the way. -/
theorem clear_of_missing {absent : List Path} (found : fs.missing path.upward = .ok absent) :
    ∀ upper ≤ path, ¬Occupant.IsFile (fs.occupant? upper) := by
  induction path using Path.induction generalizing absent with
  | root =>
      intro upper leads
      simp [Path.le_root_iff.mp leads, Occupant.IsFile]
  | child directory name named induction =>
      rw [Path.upward_child] at found
      intro upper leads
      cases here : fs.occupant? (directory.child name named) with
      | none =>
          rw [missing_of_none here] at found
          cases above : fs.missing directory.upward with
          | error cause =>
              rw [above] at found
              cases found
          | ok more =>
              rcases Path.le_child_iff.mp leads with rfl | leads
              · simp [here, Occupant.IsFile]
              · exact induction above upper leads
      | some occupant =>
          cases occupant with
          | file content =>
              rw [missing, occupant?_eq_file_iff.mp here] at found
              cases found
          | directory =>
              have lead : fs.occupant? upper = some .directory := by
                rcases leads.eq_or_lt with rfl | strictly
                · exact here
                · exact fs.coherent.directory_of_lt strictly (by simp [here])
              simp [lead, Occupant.IsFile]

/-- Making a chain of directories, whether a file is in the way or not. -/
theorem growth_makeDirectoriesAt (path : Path) (fs : FileSystem) :
    Growth Nowhere fs ((makeDirectoriesAt path).perform fs).2 := by
  cases found : fs.missing path.upward with
  | error cause =>
      have failed : (FileActivity.ofQuery (·.missing path.upward)).perform fs =
          (.error cause, fs) := by
        rw [FileActivity.perform_ofQuery, found]
      rw [makeDirectoriesAt, FileActivity.perform_bind_of_error failed]
      exact .refl Nowhere fs
  | ok absent =>
      have clear := clear_of_missing found
      obtain ⟨left, made, workingDirectory, view⟩ := makeDirectoriesAt_ok clear
      rw [made]
      exact .of_chain clear workingDirectory view

theorem occupant?_of_makeDirectoriesAt
    (made : (makeDirectoriesAt path).perform fs = (.ok (), left)) :
    left.occupant? path = some .directory := by
  cases found : fs.missing path.upward with
  | error cause =>
      have failed : (FileActivity.ofQuery (·.missing path.upward)).perform fs =
          (.error cause, fs) := by
        rw [FileActivity.perform_ofQuery, found]
      rw [makeDirectoriesAt, FileActivity.perform_bind_of_error failed] at made
      cases made
  | ok absent =>
      obtain ⟨left', made', _, view⟩ := makeDirectoriesAt_ok (clear_of_missing found)
      obtain rfl := (Prod.mk.inj (made'.symm.trans made)).2
      rw [view, if_pos le_rfl]

/-! ## Storing -/

theorem resolve_eq_ok_iff :
    fs.resolve text = .ok path ↔ fs.workingDirectory.resolve? text = some path := by
  rw [resolve]
  split
  next other found =>
    rw [found]
    exact ⟨fun same => congrArg some (Except.ok.inj same),
      fun same => congrArg _ (Option.some.inj same)⟩
  next missing =>
    rw [missing]
    exact ⟨nofun, nofun⟩

theorem isSpellable_of_resolve (spellable : fs.workingDirectory.IsSpellable)
    (resolved : fs.resolve text = .ok path) : path.IsSpellable :=
  spellable.resolve? (resolve_eq_ok_iff.mp resolved)

theorem isSpellable_of_ofWorkingDirectory {text : String}
    (made : ofWorkingDirectory text = .ok fs) : fs.workingDirectory.IsSpellable := by
  rw [ofWorkingDirectory] at made
  cases resolved : (bare .root).resolve text with
  | error cause =>
      rw [resolved] at made
      exact nomatch made
  | ok directory =>
      rw [resolved] at made
      obtain rfl := Except.ok.inj made
      exact isSpellable_of_resolve Path.isSpellable_root resolved

theorem storeAt_child (directory : Path) (name : String) (named : IsName name) (text : String) :
    storeAt (directory.child name named) text = (do
      makeDirectoriesAt directory
      FileActivity.ofOperation (·.writeAt (directory.child name named) text .utf8)) := by
  simp [storeAt, Path.parent?]

/-- What storing text at a path leaves: the text, or else no file that was not there. -/
theorem perform_storeAt (path : Path) (text : String) (fs : FileSystem) :
    ∃ left, ((storeAt path text).perform fs = (.ok (), left) ∧
        left.occupant? path = some (.file text.toUTF8) ∧ Growth (· = path) fs left) ∨
      ∃ cause, (storeAt path text).perform fs = (.error cause, left) ∧ Growth Nowhere fs left := by
  rcases path.eq_root_or_child with rfl | ⟨directory, name, named, rfl⟩
  · exact ⟨fs, .inr ⟨_, rfl, .refl Nowhere fs⟩⟩
  · have grown := growth_makeDirectoriesAt directory fs
    rw [storeAt_child]
    rcases made : (makeDirectoriesAt directory).perform fs with ⟨cause | _, middle⟩
    · rw [made] at grown
      exact ⟨middle, .inr ⟨cause, FileActivity.perform_bind_of_error made, grown⟩⟩
    · rw [made] at grown
      rw [FileActivity.perform_bind_of_ok made, FileActivity.perform_ofOperation]
      cases success : middle.writeAt (directory.child name named) text .utf8 with
      | error cause => exact ⟨middle, .inr ⟨cause, rfl, grown⟩⟩
      | ok left =>
          have written : Growth (· = directory.child name named) middle left :=
            growth_of_writeAt rfl success
          exact ⟨left, .inl ⟨rfl, occupant?_of_writeAt success, grown.anywhere.trans written⟩⟩

theorem perform_store (name text : String) (fs : FileSystem) :
    ∃ left, (∃ root, fs.resolve name = .ok root ∧
        (store name text).perform fs = (.ok root, left) ∧
        left.occupant? root = some (.file text.toUTF8) ∧ Growth (· = root) fs left) ∨
      ∃ cause, (store name text).perform fs = (.error cause, left) ∧ Growth Nowhere fs left := by
  have query : (FileActivity.ofQuery (·.resolve name)).perform fs = (fs.resolve name, fs) :=
    FileActivity.perform_ofQuery _ fs
  rw [store]
  cases resolved : fs.resolve name with
  | error cause =>
      rw [resolved] at query
      exact ⟨fs, .inr ⟨cause, FileActivity.perform_bind_of_error query, .refl Nowhere fs⟩⟩
  | ok root =>
      rw [resolved] at query
      rw [FileActivity.perform_bind_of_ok query]
      obtain ⟨left, ⟨stored, there, growth⟩ | ⟨cause, failed, growth⟩⟩ :=
        perform_storeAt root text fs
      · exact ⟨left, .inl ⟨root, rfl, FileActivity.perform_bind_of_ok stored, there, growth⟩⟩
      · exact ⟨left, .inr ⟨cause, FileActivity.perform_bind_of_error failed, growth⟩⟩

/-! ## Reading -/

theorem decode?_toUTF8 (text : String) : Encoding.utf8.decode? text.toUTF8 = some text :=
  dif_pos text.isValidUTF8

theorem readAt_of_occupant? (there : fs.occupant? path = some (.file text.toUTF8)) :
    fs.readAt path .utf8 = .ok text := by
  rw [readAt_eq, there]
  simp only [decode?_toUTF8]

theorem stat_of_isFile (resolved : fs.workingDirectory.resolve? text = some path)
    (isFile : Occupant.IsFile (fs.occupant? path)) : ∃ size, fs.stat text = .ok ⟨.file, size⟩ := by
  obtain ⟨content, there⟩ := Occupant.isFile_iff.mp isFile
  refine ⟨content.size, ?_⟩
  rw [stat, resolve_eq_ok_iff.mpr resolved]
  simp only [bind, Except.bind]
  rw [statAt_eq, there]
  rfl

end FileSystem
end Workbench
