import Workbench.FileSystem.Directories
import Workbench.Proofs.FileSystem.View

/-!
# Activities that stay in one place

Making a chain of directories where no file is in the way always succeeds. An activity that works at
or below one path leaves everything else alone, except that directories above the path may appear.
What goes on at two paths of which neither leads to the other is therefore independent.
-/

namespace Workbench
namespace FileActivity

variable {α β : Type}

@[simp] theorem perform_ofQuery (query : FileSystem → Except FileError α) (fs : FileSystem) :
    (ofQuery query).perform fs = (query fs, fs) := by
  simp only [perform, ofQuery, EStateM.run]
  cases query fs <;> rfl

theorem perform_ofOperation (operation : FileSystem → Except FileError FileSystem)
    (fs : FileSystem) : (ofOperation operation).perform fs = match operation fs with
      | .ok changed => (.ok (), changed)
      | .error cause => (.error cause, fs) := by
  simp only [perform, ofOperation, EStateM.run]
  cases operation fs <;> rfl

theorem eq_ok_of_perform_ofOperation {operation : FileSystem → Except FileError FileSystem}
    {fs left : FileSystem} {answer : Unit}
    (done : (ofOperation operation).perform fs = (.ok answer, left)) : operation fs = .ok left := by
  rw [perform_ofOperation] at done
  cases success : operation fs with
  | error cause =>
      rw [success] at done
      exact nomatch (Prod.mk.inj done).1
  | ok changed =>
      rw [success] at done
      exact congrArg Except.ok (Prod.mk.inj done).2

theorem perform_bind (activity : FileActivity α) (next : α → FileActivity β) (fs : FileSystem) :
    (activity >>= next).perform fs = match activity.perform fs with
      | (.ok answer, left) => (next answer).perform left
      | (.error cause, left) => (.error cause, left) := by
  simp only [perform, EStateM.run_bind]
  cases activity.run fs <;> rfl

theorem perform_bind_of_ok {activity : FileActivity α} {next : α → FileActivity β}
    {fs left : FileSystem} {answer : α} (done : activity.perform fs = (.ok answer, left)) :
    (activity >>= next).perform fs = (next answer).perform left := by
  rw [perform_bind, done]

theorem perform_bind_of_error {activity : FileActivity α} {next : α → FileActivity β}
    {fs left : FileSystem} {cause : FileError} (failed : activity.perform fs = (.error cause, left)) :
    (activity >>= next).perform fs = (.error cause, left) := by
  rw [perform_bind, failed]

theorem exists_of_perform_bind {activity : FileActivity α} {next : α → FileActivity β}
    {fs left : FileSystem} {answer : β} (done : (activity >>= next).perform fs = (.ok answer, left)) :
    ∃ first middle, activity.perform fs = (.ok first, middle) ∧
      (next first).perform middle = (.ok answer, left) := by
  rw [perform_bind] at done
  rcases first_eq : activity.perform fs with ⟨cause | first, middle⟩
  · rw [first_eq] at done
    exact nomatch (Prod.mk.inj done).1
  · rw [first_eq] at done
    exact ⟨first, middle, rfl, done⟩

end FileActivity

namespace FileSystem

variable {fs : FileSystem}

/-! ## Chains of directories -/

theorem missing_of_directory {path : Path} {above : List Path}
    (there : fs.occupant? path = some .directory) : fs.missing (path :: above) = .ok [] := by
  obtain ⟨entries, found⟩ := occupant?_eq_directory_iff.mp there
  rw [missing, found]

theorem missing_of_none {path : Path} {above : List Path} (absent : fs.occupant? path = none) :
    fs.missing (path :: above) = (fs.missing above).map (path :: ·) := by
  rw [missing, occupant?_eq_none_iff.mp absent]

theorem perform_ensureDirectoryAt {path : Path} {left : FileSystem}
    (made : fs.makeDirectoryAt path = .ok left) :
    (ensureDirectoryAt path).perform fs = (.ok (), left) := by
  simp only [FileActivity.perform, ensureDirectoryAt, EStateM.run, made]

/-- The directories that are missing on the way to a path can be made where no file is. -/
theorem exists_missing (path : Path) (clear : ∀ upper ≤ path, ¬Occupant.IsFile (fs.occupant? upper)) :
    ∃ absent, fs.missing path.upward = .ok absent ∧
      ∃ left, (forM absent.reverse ensureDirectoryAt).perform fs = (.ok (), left) ∧
        left.workingDirectory = fs.workingDirectory ∧
        ∀ other, left.occupant? other =
          if other ≤ path then some .directory else fs.occupant? other := by
  induction path using Path.induction with
  | root =>
      refine ⟨[], missing_of_directory (occupant?_root fs), fs, rfl, rfl, fun other => ?_⟩
      split
      next at_root =>
        rw [Path.le_root_iff.mp at_root]
        exact occupant?_root fs
      next => rfl
  | child directory name named induction =>
      rw [Path.upward_child]
      by_cases there : fs.occupant? (directory.child name named) = some .directory
      · refine ⟨[], missing_of_directory there, fs, rfl, rfl, fun other => ?_⟩
        split
        next leads =>
          rcases leads.eq_or_lt with rfl | above
          · exact there
          · exact fs.coherent.directory_of_lt above (by simp [there])
        next => rfl
      · have absent_here := Occupant.eq_none_of (clear _ le_rfl) there
        obtain ⟨absent, missing_eq, middle, made, workingDirectory, view⟩ :=
          induction fun upper leads => clear upper (leads.trans (Path.le_child directory name named))
        have lead : middle.occupant? directory = some .directory := by
          rw [view, if_pos le_rfl]
        have free : middle.occupant? (directory.child name named) = none := by
          rw [view, if_neg (Path.not_child_le directory name named), absent_here]
        obtain ⟨left, success, workingDirectory', view'⟩ := makeDirectoryAt_ok lead free
        refine ⟨directory.child name named :: absent, ?_, left, ?_, ?_, fun other => ?_⟩
        · rw [missing_of_none absent_here, missing_eq]
          rfl
        · rw [List.reverse_cons, List.forM_append, FileActivity.perform_bind_of_ok made]
          simp only [List.forM_cons, List.forM_nil]
          rw [FileActivity.perform_bind_of_ok (perform_ensureDirectoryAt success)]
          rfl
        · exact workingDirectory'.trans workingDirectory
        · rw [view', view]
          simp only [Path.le_child_iff]
          by_cases same : other = directory.child name named
          · simp [same]
          · simp [same]

/-- Making a chain of directories succeeds where no file is, and changes nothing else. -/
theorem makeDirectoriesAt_ok {path : Path}
    (clear : ∀ upper ≤ path, ¬Occupant.IsFile (fs.occupant? upper)) :
    ∃ left, (makeDirectoriesAt path).perform fs = (.ok (), left) ∧
      left.workingDirectory = fs.workingDirectory ∧
      ∀ other, left.occupant? other =
        if other ≤ path then some .directory else fs.occupant? other := by
  obtain ⟨absent, missing_eq, left, made, rest⟩ := exists_missing path clear
  refine ⟨left, ?_, rest⟩
  rw [makeDirectoriesAt, FileActivity.perform_bind_of_ok (by rw [FileActivity.perform_ofQuery, missing_eq])]
  exact made

/-! ## Confinement -/

/-- All that changed is at or below the path, but for directories that appeared above it. -/
structure Confined (region : Path) (before after : FileSystem) : Prop where
  /-- The working directory stays. -/
  workingDirectory : after.workingDirectory = before.workingDirectory
  /-- Above the path at most a directory appeared. -/
  above : ∀ path < region, after.occupant? path = before.occupant? path ∨
    after.occupant? path = some .directory
  /-- Elsewhere nothing changed. -/
  elsewhere : ∀ path, ¬region ≤ path → ¬path < region →
    after.occupant? path = before.occupant? path

namespace Confined

variable {region other path : Path} {before middle after : FileSystem}

theorem refl (region : Path) (fs : FileSystem) : Confined region fs fs :=
  ⟨rfl, fun _ _ => .inl rfl, fun _ _ _ => rfl⟩

theorem trans (first : Confined region before middle) (second : Confined region middle after) :
    Confined region before after where
  workingDirectory := second.workingDirectory.trans first.workingDirectory
  above path leads := by
    rcases second.above path leads with kept | made
    · rw [kept]
      exact first.above path leads
    · exact .inr made
  elsewhere path outside not_above :=
    (second.elsewhere path outside not_above).trans (first.elsewhere path outside not_above)

theorem occupant?_eq (confined : Confined region before after) (apart : region.Apart other)
    (leads : other ≤ path) : after.occupant? path = before.occupant? path := by
  have apart' := apart.mono le_rfl leads
  exact confined.elsewhere path apart'.1 fun above => apart'.2 above.le

theorem clear (confined : Confined region before after) (outside : ¬region ≤ path)
    (no_file : ¬Occupant.IsFile (before.occupant? path)) :
    ¬Occupant.IsFile (after.occupant? path) := by
  by_cases above : path < region
  · rcases confined.above path above with kept | made
    · rwa [kept]
    · rw [made]
      exact id
  · rwa [confined.elsewhere path outside above]

theorem of_put {target : Path} {occupant : Occupant} (leads : region ≤ target)
    (workingDirectory : after.workingDirectory = before.workingDirectory)
    (view : ∀ other, after.occupant? other =
      if other = target then some occupant else before.occupant? other) :
    Confined region before after where
  workingDirectory := workingDirectory
  above path above := by
    have other : path ≠ target := (above.trans_le leads).ne
    rw [view, if_neg other]
    exact .inl rfl
  elsewhere path outside _ := by
    have other : path ≠ target := fun same => outside (leads.trans same.ge)
    rw [view, if_neg other]

theorem of_chain {target : Path} (leads : region ≤ target)
    (workingDirectory : after.workingDirectory = before.workingDirectory)
    (view : ∀ other, after.occupant? other =
      if other ≤ target then some .directory else before.occupant? other) :
    Confined region before after where
  workingDirectory := workingDirectory
  above path above := by
    rw [view, if_pos (above.le.trans leads)]
    exact .inr rfl
  elsewhere path outside not_above := by
    have apart : ¬path ≤ target := by
      intro on_the_way
      rcases Path.le_total_of_le on_the_way leads with upper | lower
      · rcases upper.eq_or_lt with same | strictly
        · exact outside same.ge
        · exact not_above strictly
      · exact outside lower
    rw [view, if_neg apart]

end Confined
end FileSystem
end Workbench
