import Mathlib.Data.List.Nodup
import Workbench.Proofs.FileSystem.Growth

/-!
# Activities that keep to one region

The region of a path is all that is at or below it. An activity that keeps to a region notices of
everything else only whether a file is in the way above; it makes every directory above the region
or none, and changes nothing else outside. Activities that keep to regions apart therefore come to
the same whichever of them goes first.
-/

namespace Workbench

/-! ## File systems are what they look like -/

namespace Entries

variable {α : Type} {left right : List (String × α)}

theorem Ascending.nodup (ascending : Ascending left) : left.Nodup := by
  refine ascending.imp fun {first second} less same => ?_
  rw [same] at less
  exact String.lt_irrefl second.1 less

theorem Ascending.ext (ascending : Ascending left) (ascending' : Ascending right)
    (same : ∀ name, find? name left = find? name right) : left = right := by
  have mem_iff : ∀ entry, entry ∈ left ↔ entry ∈ right := by
    intro entry
    constructor
    · intro member
      exact mem_of_find? ((same entry.1).symm.trans (find?_of_mem ascending member))
    · intro member
      exact mem_of_find? ((same entry.1).trans (find?_of_mem ascending' member))
  have perm := (List.perm_ext_iff_of_nodup ascending.nodup ascending'.nodup).mpr mem_iff
  refine perm.eq_of_pairwise (fun first second _ _ down up => ?_) ascending ascending'
  exact absurd (String.lt_trans down up) (String.lt_irrefl first.1)

end Entries

theorem Node.Sound.ext {left right : Node} (sound : left.Sound) (sound' : right.Sound)
    (same : ∀ path : Path, (left.at? path.names).map occupant =
      (right.at? path.names).map occupant) : left = right := by
  induction sound generalizing right with
  | file content =>
      have here := same .root
      cases right with
      | file other => simpa [occupant] using here
      | directory entries => simp [occupant] at here
  | directory entries ascending named below induction =>
      have here := same .root
      cases sound' with
      | file other => simp [occupant] at here
      | directory entries' ascending' named' below' =>
          refine congrArg Node.directory (ascending.ext ascending' fun name => ?_)
          by_cases ordinary : IsName name
          · have deeper : ∀ path : Path,
                ((Entries.find? name entries).bind (·.at? path.names)).map occupant =
                  ((Entries.find? name entries').bind (·.at? path.names)).map occupant := by
              intro path
              have there := same ⟨name :: path.names, by
                intro other member
                rcases List.mem_cons.mp member with rfl | later
                · exact ordinary
                · exact path.ordinary other later⟩
              rwa [at?_directory_cons, at?_directory_cons] at there
            cases found : Entries.find? name entries with
            | none =>
                cases found' : Entries.find? name entries' with
                | none => rfl
                | some child' => simpa [found, found'] using deeper .root
            | some child =>
                cases found' : Entries.find? name entries' with
                | none => simpa [found, found'] using deeper .root
                | some child' =>
                    refine congrArg some (induction _ (Entries.mem_of_find? found)
                      (below' _ (Entries.mem_of_find? found')) fun path => ?_)
                    simpa [found, found'] using deeper path
          · have absent : ∀ {table : List (String × Node)}, (∀ entry ∈ table, IsName entry.1) →
                Entries.find? name table = none := by
              intro table names
              by_contra occupied
              obtain ⟨node, found⟩ := Option.ne_none_iff_exists'.mp occupied
              exact ordinary (names _ (Entries.mem_of_find? found))
            rw [absent named, absent named']

namespace FileSystem

theorem ext_of_occupant? {left right : FileSystem}
    (workingDirectory : left.workingDirectory = right.workingDirectory)
    (view : ∀ path, left.occupant? path = right.occupant? path) : left = right := by
  have tree : left.tree = right.tree := left.sound.ext right.sound view
  cases left
  cases right
  congr

/-! ## What an activity leaves of its region's surroundings -/

/-- What was there has stayed, what is outside of the region has not changed, and of the directories
above it all or none have been made. -/
structure Footprint (region : Path) (before after : FileSystem) : Prop
    extends Growth (region ≤ ·) before after, Confined region before after where
  /-- Nothing is made above as long as nothing is in the region. -/
  unmade : after.occupant? region = none →
    ∀ path < region, after.occupant? path = before.occupant? path

namespace Footprint

variable {region other path : Path} {before middle after : FileSystem}

theorem refl (region : Path) (fs : FileSystem) : Footprint region fs fs where
  toGrowth := .refl _ fs
  above := (Confined.refl region fs).above
  elsewhere := (Confined.refl region fs).elsewhere
  unmade _ _ _ := rfl

theorem trans (first : Footprint region before middle) (second : Footprint region middle after) :
    Footprint region before after where
  toGrowth := first.toGrowth.trans second.toGrowth
  above := (first.toConfined.trans second.toConfined).above
  elsewhere := (first.toConfined.trans second.toConfined).elsewhere
  unmade absent path above := by
    have absent' : middle.occupant? region = none := by
      by_contra occupied
      exact second.occupied occupied absent
    exact (second.unmade absent path above).trans (first.unmade absent' path above)

theorem of_put {target : Path} {content : ByteArray} (leads : region ≤ target)
    (free : before.occupant? target ≠ some .directory)
    (workingDirectory : after.workingDirectory = before.workingDirectory)
    (view : ∀ other, after.occupant? other =
      if other = target then some (.file content) else before.occupant? other) :
    Footprint region before after where
  toGrowth := .of_put leads free workingDirectory view
  above := (Confined.of_put leads workingDirectory view).above
  elsewhere := (Confined.of_put leads workingDirectory view).elsewhere
  unmade _ path above := by
    have distinct : path ≠ target := (above.trans_le leads).ne
    rw [view, if_neg distinct]

theorem of_chain {target : Path} (leads : region ≤ target)
    (clear : ∀ path ≤ target, ¬Occupant.IsFile (before.occupant? path))
    (workingDirectory : after.workingDirectory = before.workingDirectory)
    (view : ∀ other, after.occupant? other =
      if other ≤ target then some .directory else before.occupant? other) :
    Footprint region before after where
  toGrowth := (Growth.of_chain clear workingDirectory view).anywhere
  above := (Confined.of_chain leads workingDirectory view).above
  elsewhere := (Confined.of_chain leads workingDirectory view).elsewhere
  unmade absent := by
    rw [view, if_pos leads] at absent
    exact nomatch absent

theorem isFile_iff (footprint : Footprint region before after) (outside : ¬region ≤ path) :
    Occupant.IsFile (after.occupant? path) ↔ Occupant.IsFile (before.occupant? path) :=
  ⟨fun isFile => not_not.mp fun no_file => footprint.clear outside no_file isFile,
    footprint.file path⟩

/-- What is outside of the region in the end can be told from the beginning and from whether there
is something in the region. -/
theorem occupant?_outside (footprint : Footprint region before after) (outside : ¬region ≤ path) :
    after.occupant? path =
      if path < region ∧ after.occupant? region ≠ none then some .directory
      else before.occupant? path := by
  split
  next made => exact after.coherent.directory_of_lt made.1 made.2
  next unmade =>
    by_cases above : path < region
    · exact footprint.unmade (not_not.mp fun occupied => unmade ⟨above, occupied⟩) path above
    · exact footprint.elsewhere path outside above

/-- Outside of the region at most a directory above it was made where nothing was. -/
theorem kept_or_made (footprint : Footprint region before after) (outside : ¬region ≤ path) :
    after.occupant? path = before.occupant? path ∨
      path < region ∧ before.occupant? path = none ∧ after.occupant? path = some .directory := by
  have view := footprint.occupant?_outside outside
  split at view
  next made =>
    by_cases there : before.occupant? path = some .directory
    · exact .inl (view.trans there.symm)
    · have no_file : ¬Occupant.IsFile (before.occupant? path) := by
        rw [← footprint.isFile_iff outside, view]
        exact id
      exact .inr ⟨made.1, Occupant.eq_none_of no_file there, view⟩
  next => exact .inl view

end Footprint

/-! ## What an activity can tell apart -/

/-- The same is in the region, and the same files are in the way above it. -/
structure Alike (region : Path) (left right : FileSystem) : Prop where
  /-- The region looks the same. -/
  within : ∀ path, region ≤ path → left.occupant? path = right.occupant? path
  /-- The same files are in the way. -/
  above : ∀ path < region,
    Occupant.IsFile (left.occupant? path) ↔ Occupant.IsFile (right.occupant? path)

namespace Alike

variable {region other path : Path} {left right before after : FileSystem}

theorem isFile_iff (alike : Alike region left right) (leads : region ≤ path) {upper : Path}
    (way : upper ≤ path) :
    Occupant.IsFile (left.occupant? upper) ↔ Occupant.IsFile (right.occupant? upper) := by
  rcases Path.le_total_of_le leads way with inside | above
  · rw [alike.within upper inside]
  · rcases above.eq_or_lt with rfl | strictly
    · rw [alike.within upper le_rfl]
    · exact alike.above upper strictly

theorem obstruction_eq (alike : Alike region left right) (leads : region ≤ path) :
    left.occupant?.obstruction path = right.occupant?.obstruction path := by
  by_cases blocked : ∃ file ≤ path, Occupant.IsFile (left.occupant? file)
  · obtain ⟨file, way, isFile⟩ := blocked
    rw [left.coherent.obstruction_of_file way isFile,
      right.coherent.obstruction_of_file way ((alike.isFile_iff leads way).mp isFile)]
  · push Not at blocked
    rw [FileView.obstruction_of_passable blocked, FileView.obstruction_of_passable fun upper way =>
      (alike.isFile_iff leads way).not.mp (blocked upper way)]

theorem refl (region : Path) (fs : FileSystem) : Alike region fs fs :=
  ⟨fun _ _ => rfl, fun _ _ => .rfl⟩

/-- What goes on in one region cannot be told in a region apart. -/
theorem of_footprint (footprint : Footprint region before after) (apart : region.Apart other) :
    Alike other before after where
  within _ inside := (footprint.occupant?_eq apart inside).symm
  above _ above := (footprint.isFile_iff fun leads => apart.1 (leads.trans above.le)).symm

end Alike

/-- Two file systems have changed in the region only, and it has become the same in both. -/
structure Abreast (region : Path) (left left' right right' : FileSystem) : Prop where
  /-- What one has kept. -/
  first : Footprint region left left'
  /-- What the other has kept. -/
  second : Footprint region right right'
  /-- What both have become. -/
  within : ∀ path, region ≤ path → left'.occupant? path = right'.occupant? path

namespace Abreast

variable {region : Path} {left left' left'' right right' right'' : FileSystem}

theorem refl (alike : Alike region left right) : Abreast region left left right right :=
  ⟨.refl region left, .refl region right, alike.within⟩

theorem trans (before : Abreast region left left' right right')
    (after : Abreast region left' left'' right' right'') :
    Abreast region left left'' right right'' :=
  ⟨before.first.trans after.first, before.second.trans after.second, after.within⟩

theorem alike (abreast : Abreast region left left' right right')
    (alike : Alike region left right) : Alike region left' right' where
  within := abreast.within
  above path above := by
    have outside : ¬region ≤ path := not_le_of_gt above
    rw [abreast.first.isFile_iff outside, abreast.second.isFile_iff outside]
    exact alike.above path above

end Abreast
end FileSystem

/-! ## Activities in one region -/

namespace FileActivity

open FileSystem

variable {α β : Type} {region other : Path}

/-- The activity goes by what is in its region, and by whether a file is in the way, and works there
only. -/
def Local (region : Path) (activity : FileActivity α) : Prop :=
  ∀ left right, Alike region left right → ∃ outcome left' right',
    activity.perform left = (outcome, left') ∧ activity.perform right = (outcome, right') ∧
      Abreast region left left' right right'

namespace Local

variable {activity : FileActivity α}

theorem footprint (isLocal : Local region activity) (fs : FileSystem) :
    Footprint region fs (activity.perform fs).2 := by
  obtain ⟨outcome, left, _, performed, _, abreast⟩ := isLocal fs fs (.refl region fs)
  rw [performed]
  exact abreast.first

protected theorem pure (value : α) : Local region (Pure.pure value : FileActivity α) :=
  fun left right alike => ⟨.ok value, left, right, rfl, rfl, .refl alike⟩

theorem bind {next : α → FileActivity β} (first : Local region activity)
    (rest : ∀ answer, Local region (next answer)) : Local region (activity >>= next) := by
  intro left right alike
  obtain ⟨outcome, left', right', performed, performed', abreast⟩ := first left right alike
  cases outcome with
  | error cause =>
      exact ⟨.error cause, left', right', perform_bind_of_error performed,
        perform_bind_of_error performed', abreast⟩
  | ok answer =>
      obtain ⟨outcome, left'', right'', last, last', abreast'⟩ :=
        rest answer left' right' (abreast.alike alike)
      exact ⟨outcome, left'', right'', (perform_bind_of_ok performed).trans last,
        (perform_bind_of_ok performed').trans last', abreast.trans abreast'⟩

/-- Activities in regions apart come to the same whichever goes first, and leave the same files. -/
theorem commute {another : FileActivity β} (isLocal : Local region activity)
    (isLocal' : Local other another) (apart : region.Apart other) (fs : FileSystem) :
    (activity.perform (another.perform fs).2).1 = (activity.perform fs).1 ∧
      (another.perform (activity.perform fs).2).1 = (another.perform fs).1 ∧
      (another.perform (activity.perform fs).2).2 =
        (activity.perform (another.perform fs).2).2 := by
  have alike : Alike region fs (another.perform fs).2 :=
    .of_footprint (isLocal'.footprint fs) apart.symm
  have alike' : Alike other fs (activity.perform fs).2 :=
    .of_footprint (isLocal.footprint fs) apart
  obtain ⟨outcome, middle, right, performed, performed', abreast⟩ := isLocal _ _ alike
  obtain ⟨outcome', middle', left, other_performed, other_performed', abreast'⟩ :=
    isLocal' _ _ alike'
  rw [performed] at other_performed' abreast' ⊢
  rw [other_performed] at performed' abreast ⊢
  rw [performed', other_performed']
  refine ⟨rfl, rfl, ext_of_occupant? ?_ fun path => ?_⟩
  · calc
      left.workingDirectory = middle.workingDirectory := abreast'.second.toGrowth.workingDirectory
      _ = fs.workingDirectory := abreast.first.toGrowth.workingDirectory
      _ = middle'.workingDirectory := abreast'.first.toGrowth.workingDirectory.symm
      _ = right.workingDirectory := abreast.second.toGrowth.workingDirectory.symm
  · by_cases inside : region ≤ path
    · exact (abreast'.second.occupant?_eq apart.symm inside).trans (abreast.within path inside)
    · by_cases inside' : other ≤ path
      · exact (abreast'.within path inside').symm.trans
          (abreast.second.occupant?_eq apart inside').symm
      · rw [abreast'.second.occupant?_outside inside', abreast.first.occupant?_outside inside,
          abreast.second.occupant?_outside inside, abreast'.first.occupant?_outside inside',
          abreast.within region le_rfl, abreast'.within other le_rfl]
        -- Directories above both regions are made by whichever makes any.
        split <;> split <;> rfl

end Local
end FileActivity

namespace FileSystem

variable {region path : Path} {fs : FileSystem}

/-! ## Making directories and writing -/

theorem missing_of_file {file : Path} (way : file ≤ path)
    (isFile : Occupant.IsFile (fs.occupant? file)) :
    fs.missing path.upward = .error (.typeConflict file .directory) := by
  induction path using Path.induction with
  | root =>
      obtain rfl := Path.le_root_iff.mp way
      simp [Occupant.IsFile] at isFile
  | child directory name named induction =>
      rw [Path.upward_child]
      rcases Path.le_child_iff.mp way with rfl | further
      · obtain ⟨content, there⟩ := Occupant.isFile_iff.mp isFile
        rw [missing, occupant?_eq_file_iff.mp there]
      · have no_directory : fs.occupant? file ≠ some .directory := by
          intro there
          simp [there, Occupant.IsFile] at isFile
        have below : file < directory.child name named := Path.lt_child_iff.mpr further
        rw [missing_of_none (fs.coherent.eq_none_of_lt below no_directory), induction further]
        rfl

theorem makeDirectoriesAt_of_file {file : Path} (way : file ≤ path)
    (isFile : Occupant.IsFile (fs.occupant? file)) :
    (makeDirectoriesAt path).perform fs = (.error (.typeConflict file .directory), fs) :=
  FileActivity.perform_bind_of_error
    (by rw [FileActivity.perform_ofQuery, missing_of_file way isFile])

theorem local_makeDirectoriesAt (leads : region ≤ path) :
    FileActivity.Local region (makeDirectoriesAt path) := by
  intro left right alike
  by_cases clear : ∀ upper ≤ path, ¬Occupant.IsFile (left.occupant? upper)
  · have clear' : ∀ upper ≤ path, ¬Occupant.IsFile (right.occupant? upper) :=
      fun upper way => (alike.isFile_iff leads way).not.mp (clear upper way)
    obtain ⟨left', made, workingDirectory, view⟩ := makeDirectoriesAt_ok clear
    obtain ⟨right', made', workingDirectory', view'⟩ := makeDirectoriesAt_ok clear'
    refine ⟨_, left', right', made, made', .of_chain leads clear workingDirectory view,
      .of_chain leads clear' workingDirectory' view', fun other inside => ?_⟩
    rw [view, view', alike.within other inside]
  · push Not at clear
    obtain ⟨file, way, isFile⟩ := clear
    have isFile' := (alike.isFile_iff leads way).mp isFile
    exact ⟨_, left, right, makeDirectoriesAt_of_file way isFile,
      makeDirectoriesAt_of_file way isFile', .refl alike⟩

theorem local_writeAt {directory : Path} (leads : region ≤ directory) {name : String}
    (named : IsName name) (text : String) (encoding : Encoding) :
    FileActivity.Local region
      (FileActivity.ofOperation (·.writeAt (directory.child name named) text encoding)) := by
  intro left right alike
  have inside : region ≤ directory.child name named :=
    leads.trans (Path.le_child directory name named)
  have refused : ∀ {cause}, left.writeAt (directory.child name named) text encoding =
      .error cause → right.writeAt (directory.child name named) text encoding = .error cause →
      ∃ outcome left' right', (FileActivity.ofOperation
          (·.writeAt (directory.child name named) text encoding)).perform left =
            (outcome, left') ∧
        (FileActivity.ofOperation
          (·.writeAt (directory.child name named) text encoding)).perform right =
            (outcome, right') ∧ Abreast region left left' right right' := by
    intro cause failed failed'
    refine ⟨.error cause, left, right, ?_, ?_, .refl alike⟩
    · rw [FileActivity.perform_ofOperation, failed]
    · rw [FileActivity.perform_ofOperation, failed']
  cases encoded : encoding.encode? text with
  | none => exact refused (writeAt_of_unencodable encoded) (writeAt_of_unencodable encoded)
  | some content =>
      by_cases lead : left.occupant? directory = some .directory
      · have lead' : right.occupant? directory = some .directory :=
          (alike.within directory leads).symm.trans lead
        by_cases taken : left.occupant? (directory.child name named) = some .directory
        · have taken' : right.occupant? (directory.child name named) = some .directory :=
            (alike.within _ inside).symm.trans taken
          exact refused (writeAt_of_directory encoded taken) (writeAt_of_directory encoded taken')
        · have free' : right.occupant? (directory.child name named) ≠ some .directory :=
            fun there => taken ((alike.within _ inside).trans there)
          obtain ⟨left', written, workingDirectory, view⟩ := writeAt_ok encoded lead taken
          obtain ⟨right', written', workingDirectory', view'⟩ := writeAt_ok encoded lead' free'
          refine ⟨.ok (), left', right', ?_, ?_, .of_put inside taken workingDirectory view,
            .of_put inside free' workingDirectory' view', fun other within => ?_⟩
          · rw [FileActivity.perform_ofOperation, written]
          · rw [FileActivity.perform_ofOperation, written']
          · rw [view, view', alike.within other within]
      · have absent' : right.occupant? directory ≠ some .directory :=
          fun there => lead ((alike.within directory leads).trans there)
        refine refused (writeAt_of_no_directory encoded lead) ?_
        rw [writeAt_of_no_directory encoded absent', alike.obstruction_eq leads]

end FileSystem
end Workbench
