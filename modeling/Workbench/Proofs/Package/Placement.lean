import Workbench.Package.Fetch
import Workbench.Proofs.FileSystem.Confinement
import Workbench.Proofs.Path.Resolution

/-!
# Where packages are placed

Every package has a home below the directory of packages, and no home of one package leads to the
home of another. A package whose home is vacant is placed with a result that depends on nothing but
the package and the working directory, and nothing else in the file system changes.
-/

namespace Workbench
namespace Package

variable {name other entry : String} {workingDirectory : Path}

/-! ## Names -/

theorem isNameSegment_of_isName (valid : isName name = true) {piece : List Char}
    (member : piece ∈ Text.pieces '/' name.toList) : isNameSegment piece = true := by
  rw [isName, Bool.and_eq_true] at valid
  exact List.all_eq_true.mp valid.2 piece member

theorem ordinary_of_isName (valid : isName name = true) {piece : List Char}
    (member : piece ∈ Text.pieces '/' name.toList) : IsName (String.ofList piece) := by
  have segment := isNameSegment_of_isName valid member
  have whole := Text.not_mem_of_mem_pieces member
  simp only [isNameSegment, Bool.and_eq_true, Bool.not_eq_true', decide_eq_true_eq] at segment
  obtain ⟨⟨⟨nonempty, not_dot⟩, not_dots⟩, _⟩ := segment
  exact isName_ofList (by simpa using nonempty) not_dot not_dots whole

theorem harmless_of_isName (valid : isName name = true) {c : Char} (member : c ∈ name.toList)
    (distinct : c ≠ '/') : Text.isBlank c = false ∧ Text.isControl c = false ∧ c ≠ '\\' := by
  obtain ⟨piece, found, inside⟩ := Text.exists_piece_of_mem member distinct
  have segment := isNameSegment_of_isName valid found
  rw [isNameSegment, Bool.and_eq_true] at segment
  have harmless := List.all_eq_true.mp segment.2 c inside
  simpa [and_assoc] using harmless

theorem nul_not_mem_of_isName (valid : isName name = true) : '\x00' ∉ name.toList := fun member =>
  absurd (harmless_of_isName valid member (by decide)).2.1 (by decide)

/-- The segments of a package name do not come first among those of another. -/
theorem eq_of_pieces_le (valid : isName name = true) (otherValid : isName other = true)
    (leads : Text.pieces '/' name.toList <+: Text.pieces '/' other.toList) : name = other := by
  have same : Text.pieces '/' name.toList = Text.pieces '/' other.toList := by
    rw [isName, Bool.and_eq_true] at valid otherValid
    have shape := valid.1
    have otherShape := otherValid.1
    generalize Text.pieces '/' name.toList = left at leads shape
    generalize Text.pieces '/' other.toList = right at leads otherShape
    refine leads.eq_of_length ?_
    match left, right with
    | [_], [_] => rfl
    | [_, _], [_, _] => rfl
    | [single], [scope, _] =>
        obtain rfl : single = scope := by simpa using leads
        simp_all
    | [_, _], [_] => simpa using leads.length_le
  have joined := congrArg (List.intercalate ['/']) same
  rw [Text.intercalate_pieces, Text.intercalate_pieces] at joined
  exact String.toList_inj.mp joined

/-- The declared path of the types, once it has been accepted. -/
structure IsEntry (entry : String) : Prop where
  /-- It leads down along ordinary names. -/
  ordinary : ∀ piece ∈ Text.pieces '/' entry.toList, IsName (String.ofList piece)
  /-- It is readable. -/
  plain : '\x00' ∉ entry.toList

theorem IsEntry.downward (isEntry : IsEntry entry) :
    ['.', '.'] ∉ Text.pieces '/' entry.toList := fun dots =>
  (isEntry.ordinary _ dots).2.2.1 rfl

theorem isEntry_of_entryPath {given : String} (accepted : entryPath given = .ok entry) :
    IsEntry entry := by
  simp only [entryPath] at accepted
  split at accepted
  next => exact nomatch accepted
  next fine =>
    obtain rfl := Except.ok.inj accepted
    simp only [Bool.or_eq_true, not_or] at fine
    obtain ⟨⟨⟨⟨_, plain⟩, _⟩, no_dots⟩, some_name⟩ := fine
    generalize names_eq : (Text.pieces '/' (Text.trim given.toList)).filter
      (fun segment => !segment.isEmpty && segment ≠ ['.']) = names at *
    have kept : ∀ piece ∈ names, piece ∈ Text.pieces '/' (Text.trim given.toList) ∧
        piece ≠ [] ∧ piece ≠ ['.'] := by
      intro piece member
      rw [← names_eq, List.mem_filter] at member
      simpa using member
    have whole : ∀ piece ∈ names, '/' ∉ piece :=
      fun piece member => Text.not_mem_of_mem_pieces (kept piece member).1
    have cut : Text.pieces '/' (String.ofList (['/'].intercalate names)).toList = names := by
      rw [String.toList_ofList]
      exact Text.pieces_intercalate (by simpa using some_name) whole
    constructor
    · rw [cut]
      intro piece member
      obtain ⟨_, nonempty, not_dot⟩ := kept piece member
      have not_dots : piece ≠ ['.', '.'] := by
        rintro rfl
        exact no_dots (by simpa using member)
      exact isName_ofList nonempty not_dot not_dots (whole piece member)
    · intro inside
      obtain ⟨piece, found, inside⟩ := Text.exists_piece_of_mem inside (by decide : '\x00' ≠ '/')
      rw [cut] at found
      have somewhere := Text.mem_of_mem_pieces (kept piece found).1 inside
      exact plain (by simpa using somewhere)

/-! ## Homes -/

/-- The directory of a package. -/
def home (workingDirectory : Path) (name : String) : Path :=
  workingDirectory.walk (directory ++ "/" ++ name)

theorem isName_directory : IsName directory := by decide

theorem home_eq (workingDirectory : Path) (name : String) :
    home workingDirectory name = (workingDirectory.child directory isName_directory).walk name := by
  rw [home, Path.walk_append, Path.walk_of_isName workingDirectory isName_directory]

theorem names_home (workingDirectory : Path) (valid : isName name = true) :
    (home workingDirectory name).names = workingDirectory.names ++ [directory] ++
      (Text.pieces '/' name.toList).map String.ofList := by
  rw [home_eq, Path.names_walk _ fun piece => ordinary_of_isName valid, Path.names_child]

theorem directory_le_home (workingDirectory : Path) (valid : isName name = true) :
    workingDirectory.child directory isName_directory ≤ home workingDirectory name := by
  rw [Path.le_def, names_home workingDirectory valid]
  exact List.prefix_append _ _

/-- No home leads to another. -/
theorem home_apart (workingDirectory : Path) (valid : isName name = true)
    (otherValid : isName other = true) (distinct : name ≠ other) :
    (home workingDirectory name).Apart (home workingDirectory other) := by
  have not_le : ∀ {name other : String}, isName name = true → isName other = true →
      name ≠ other → ¬home workingDirectory name ≤ home workingDirectory other := by
    intro name other valid otherValid distinct leads
    rw [Path.le_def, names_home _ valid, names_home _ otherValid,
      List.prefix_append_right_inj] at leads
    have cut := leads.map String.toList
    simp only [List.map_map, Function.comp_def, String.toList_ofList, List.map_id'] at cut
    exact distinct (eq_of_pieces_le valid otherValid cut)
  exact ⟨not_le valid otherValid distinct, not_le otherValid valid distinct.symm⟩

theorem resolve?_root (base : Path) (valid : isName name = true) :
    base.resolve? (directory ++ "/" ++ name) = some (home base name) := by
  refine Path.resolve?_of_relative base ⟨?_, ?_⟩ ?_
  · intro empty
    have chars := congrArg String.toList empty
    simp at chars
  · rw [String.toList_append, List.mem_append, not_or]
    exact ⟨by decide, nul_not_mem_of_isName valid⟩
  · rw [String.toList_append, List.head?_append]
    exact fun slash => nomatch slash

theorem resolve?_entryFile (base : Path) (valid : isName name = true) (isEntry : IsEntry entry) :
    base.resolve? (directory ++ "/" ++ name ++ "/" ++ entry) =
      some ((home base name).walk entry) := by
  rw [home, ← Path.walk_append]
  refine Path.resolve?_of_relative base ⟨?_, ?_⟩ ?_
  · intro empty
    have chars := congrArg String.toList empty
    simp at chars
  · simp only [String.toList_append, List.mem_append, not_or]
    exact ⟨⟨⟨by decide, nul_not_mem_of_isName valid⟩, by decide⟩, isEntry.plain⟩
  · simp only [String.toList_append, List.append_assoc]
    rw [List.head?_append]
    exact fun slash => nomatch slash

theorem exists_entry_eq_child (home : Path) (isEntry : IsEntry entry) :
    ∃ above last, ∃ named : IsName last, home ≤ above ∧ home.walk entry = above.child last named := by
  have names := Path.names_walk home isEntry.ordinary
  have below : home < home.walk entry := by
    refine lt_of_le_of_ne (Path.le_def.mpr (names ▸ List.prefix_append _ _)) fun same => ?_
    have nothing : (Text.pieces '/' entry.toList).map String.ofList = [] := by
      rw [← same] at names
      exact List.self_eq_append_right.mp names
    exact Text.pieces_ne_nil '/' entry.toList (List.map_eq_nil_iff.mp nothing)
  rcases (home.walk entry).eq_root_or_child with at_root | ⟨above, last, named, eq⟩
  · rw [at_root] at below
    exact absurd below (not_lt_of_ge (Path.root_le home))
  · exact ⟨above, last, named, Path.lt_child_iff.mp (eq ▸ below), eq⟩

end Package

/-- There is nothing at the path or below, and no file above. -/
structure FileSystem.Vacant (fs : FileSystem) (region : Path) : Prop where
  /-- Nothing is there. -/
  empty : ∀ path, region ≤ path → fs.occupant? path = none
  /-- Directories can be made on the way. -/
  clear : ∀ path < region, ¬Occupant.IsFile (fs.occupant? path)

namespace FetchedPackage

theorem isName_manifestName : IsName Package.manifestName := by decide

/-- The two files of a package, when nothing but a chain of directories is in its home. -/
theorem write_files {fs : FileSystem} {home above : Path} {last : String} (named : IsName last)
    (home_le : home ≤ above)
    (view : ∀ other, home ≤ other → fs.occupant? other =
      if other ≤ above then some .directory else none) (declarations manifest : String) :
    ∃ left, (do
      FileActivity.ofOperation (·.writeAt (above.child last named) declarations .utf8)
      FileActivity.ofOperation
        (·.writeAt (home.child Package.manifestName isName_manifestName) manifest .utf8)
      return above.child last named : FileActivity Path).perform fs =
        (if home.child Package.manifestName isName_manifestName ≤ above then
          .error (.typeConflict (home.child Package.manifestName isName_manifestName) .file)
        else .ok (above.child last named), left) ∧
      FileSystem.Confined home fs left := by
  have below : ¬above.child last named ≤ above := Path.not_child_le above last named
  have entry_le : home ≤ above.child last named := home_le.trans (Path.le_child above last named)
  have manifest_le : home ≤ home.child Package.manifestName isName_manifestName :=
    Path.le_child home _ _
  have encoded : ∀ text, Encoding.utf8.encode? text = some text.toUTF8 := fun _ => rfl
  have lead : fs.occupant? above = some .directory := by rw [view above home_le, if_pos le_rfl]
  have free : fs.occupant? (above.child last named) ≠ some .directory := by
    rw [view _ entry_le, if_neg below]
    exact nofun
  obtain ⟨written, success, written_at, written_view⟩ :=
    FileSystem.writeAt_ok (encoded declarations) lead free
  have confined : FileSystem.Confined home fs written := .of_put entry_le written_at written_view
  rw [FileActivity.perform_bind_of_ok (by rw [FileActivity.perform_ofOperation, success])]
  by_cases taken : home.child Package.manifestName isName_manifestName ≤ above
  · have conflict : written.occupant? (home.child Package.manifestName isName_manifestName) =
        some .directory := by
      have other : home.child Package.manifestName isName_manifestName ≠ above.child last named :=
        fun same => below (same ▸ taken)
      rw [written_view, if_neg other, view _ manifest_le, if_pos taken]
    have refused := @FileSystem.writeAt_of_directory written _ _ isName_manifestName manifest .utf8 _
      (encoded manifest) conflict
    refine ⟨written, ?_, confined⟩
    rw [FileActivity.perform_bind_of_error (by rw [FileActivity.perform_ofOperation, refused]),
      if_pos taken]
  · have lead' : written.occupant? home = some .directory := by
      have other : home ≠ above.child last named := fun same => below (same ▸ home_le)
      rw [written_view, if_neg other, view home le_rfl, if_pos home_le]
    have free' : written.occupant? (home.child Package.manifestName isName_manifestName) ≠
        some .directory := by
      rw [written_view, view _ manifest_le, if_neg taken]
      split <;> exact nofun
    obtain ⟨left, success', left_at, left_view⟩ :=
      FileSystem.writeAt_ok (encoded manifest) lead' free'
    refine ⟨left, ?_, confined.trans (.of_put manifest_le left_at left_view)⟩
    rw [FileActivity.perform_bind_of_ok (by rw [FileActivity.perform_ofOperation, success']),
      if_neg taken]
    rfl

/-- What placing a package comes to: it fails when its types are to be below its manifest. -/
def placed (workingDirectory : Path) (package : FetchedPackage) : Except FileError Path :=
  let home := Package.home workingDirectory package.descriptor.name
  let entry := home.walk package.descriptor.entry
  let manifest := home.child Package.manifestName isName_manifestName
  if manifest ≤ entry.dropLast then .error (.typeConflict manifest .file) else .ok entry

/-- A package whose home is vacant is placed there, and nothing changes elsewhere. -/
theorem materialize_of_vacant {package : FetchedPackage} {fs : FileSystem}
    (valid : Package.isName package.descriptor.name = true)
    (isEntry : Package.IsEntry package.descriptor.entry)
    (vacant : fs.Vacant (Package.home fs.workingDirectory package.descriptor.name)) :
    ∃ left, package.materialize.perform fs = (package.placed fs.workingDirectory, left) ∧
      FileSystem.Confined (Package.home fs.workingDirectory package.descriptor.name) fs left := by
  have root_eq : fs.resolve package.descriptor.root =
      .ok (Package.home fs.workingDirectory package.descriptor.name) := by
    rw [FileSystem.resolve, PackageDescriptor.root, Package.resolve?_root _ valid]
  have entry_eq : fs.resolve package.descriptor.entryFile =
      .ok ((Package.home fs.workingDirectory package.descriptor.name).walk
        package.descriptor.entry) := by
    rw [FileSystem.resolve, PackageDescriptor.entryFile, PackageDescriptor.root,
      Package.resolve?_entryFile _ valid isEntry]
  rw [placed]
  generalize Package.home fs.workingDirectory package.descriptor.name = home at *
  obtain ⟨above, last, named, home_le, walk_eq⟩ := Package.exists_entry_eq_child home isEntry
  rw [walk_eq] at entry_eq
  have parent_eq : (above.child last named).parent?.getD .root = above := by
    simp [Path.parent?]
  rw [materialize, FileActivity.perform_bind_of_ok (by rw [FileActivity.perform_ofQuery, root_eq]),
    FileActivity.perform_bind_of_ok (by rw [FileActivity.perform_ofQuery, entry_eq]), walk_eq,
    parent_eq, Path.step_of_isName home isName_manifestName]
  -- The chain down to the types, after which the home is there too.
  have clear : ∀ upper ≤ above, ¬Occupant.IsFile (fs.occupant? upper) := by
    intro upper leads
    rcases Path.le_total_of_le leads home_le with upper_le | le_upper
    · rcases upper_le.eq_or_lt with rfl | strictly
      · simp [vacant.empty upper le_rfl, Occupant.IsFile]
      · exact vacant.clear upper strictly
    · simp [vacant.empty upper le_upper, Occupant.IsFile]
  obtain ⟨chain, chained, chain_at, chain_view⟩ := FileSystem.makeDirectoriesAt_ok clear
  have clear' : ∀ upper ≤ home, ¬Occupant.IsFile (chain.occupant? upper) := by
    intro upper leads
    simp [chain_view, leads.trans home_le, Occupant.IsFile]
  obtain ⟨rooted, made, rooted_at, rooted_view⟩ := FileSystem.makeDirectoriesAt_ok clear'
  rw [FileActivity.perform_bind_of_ok chained, FileActivity.perform_bind_of_ok made]
  have confined := (FileSystem.Confined.of_chain home_le chain_at chain_view).trans
    (.of_chain le_rfl rooted_at rooted_view)
  have view : ∀ other, home ≤ other → rooted.occupant? other =
      if other ≤ above then some .directory else none := by
    intro other inside
    rw [rooted_view, chain_view, vacant.empty other inside]
    split
    next leads => rw [if_pos (leads.trans home_le)]
    next => rfl
  obtain ⟨left, written, confined'⟩ := write_files named home_le view package.declarations
    package.manifest
  refine ⟨left, ?_, confined.trans confined'⟩
  rw [written]
  simp only [Path.dropLast_child]

end FetchedPackage
end Workbench
