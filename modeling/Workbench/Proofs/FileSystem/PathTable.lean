import Mathlib.Data.List.Nodup
import Workbench.Proofs.FileSystem.View

/-!
# The file system as a table of paths

A table of paths files every file and every directory under its path, with no nesting. Requests to a
tree of files are answered exactly as requests to such a table (`answers_eq_table`).
-/

namespace Workbench

/-- A table of what stands at each path. -/
structure PathTable where
  /-- Where relative paths start. -/
  workingDirectory : Path
  /-- What stands at each path, in no particular order. -/
  rows : List (Path × Occupant)
  /-- Every path has one row at most. -/
  distinct : (rows.map (·.1)).Nodup
  /-- The root is a directory, and so is the parent of every path. -/
  coherent : FileView.Coherent fun path => rows.lookup path

namespace PathTable

/-- What the table files under the path. -/
def get? (table : PathTable) : FileView := fun path => table.rows.lookup path

/-- The table in which only the root stands. -/
def bare (workingDirectory : Path) : PathTable where
  workingDirectory := workingDirectory
  rows := [(.root, .directory)]
  distinct := by simp
  coherent := by
    refine ⟨rfl, fun {path name named} occupied => ?_⟩
    have apart : (path.child name named == Path.root) = false := by
      simpa using Path.child_ne_root path name named
    rw [List.lookup_cons, apart] at occupied
    exact absurd rfl occupied

theorem get?_bare (workingDirectory path : Path) :
    (bare workingDirectory).get? path = if path = .root then some .directory else none := by
  by_cases same : path = .root
  · simp [get?, bare, same]
  · have apart : (path == Path.root) = false := by simpa using same
    simp [get?, bare, List.lookup_cons, apart, same]

/-- The rows after filing an occupant under a path. -/
def put (rows : List (Path × Occupant)) (path : Path) (occupant : Occupant) :
    List (Path × Occupant) :=
  (path, occupant) :: rows.filter (·.1 ≠ path)

theorem lookup_put (rows : List (Path × Occupant)) (path : Path) (occupant : Occupant)
    (other : Path) : (put rows path occupant).lookup other =
      if other = path then some occupant else rows.lookup other := by
  by_cases same : other = path
  · simp [put, same]
  · have apart : (other == path) = false := by simpa using same
    have kept : (rows.filter (·.1 ≠ path)).lookup other = rows.lookup other := by
      induction rows with
      | nil => rfl
      | cons row rest induction =>
          obtain ⟨key, there⟩ := row
          rw [List.filter_cons, List.lookup_cons]
          by_cases at_path : key = path
          · subst at_path
            simpa [apart] using induction
          · rw [if_pos (by simpa using at_path), List.lookup_cons, induction]
    rw [put, List.lookup_cons, apart, if_neg same]
    exact kept

/-- Files an occupant in a directory of the table, where no directory stands yet. -/
def insert (table : PathTable) (directory : Path) (name : { name : String // IsName name })
    (occupant : Occupant) (lead : table.get? directory = some .directory)
    (free : table.get? (directory.child name.1 name.2) ≠ some .directory) : PathTable where
  workingDirectory := table.workingDirectory
  rows := put table.rows (directory.child name.1 name.2) occupant
  distinct := by
    refine List.nodup_cons.mpr ⟨by simp, ?_⟩
    exact table.distinct.sublist (List.filter_sublist.map _)
  coherent := by
    simp only [lookup_put]
    constructor
    · rw [if_neg (Path.child_ne_root directory name.1 name.2).symm]
      exact table.coherent.root
    · intro path other named occupied
      have before : table.get? path = some .directory := by
        by_cases same : path.child other named = directory.child name.1 name.2
        · rwa [(Path.child_inj.mp same).1]
        · exact table.coherent.closed (by simpa [same] using occupied)
      rw [if_neg]
      · exact before
      · rintro rfl
        exact free before

theorem get?_insert (table : PathTable) (directory : Path) (name : { name : String // IsName name })
    (occupant : Occupant) (lead : table.get? directory = some .directory)
    (free : table.get? (directory.child name.1 name.2) ≠ some .directory) (other : Path) :
    (table.insert directory name occupant lead free).get? other =
      if other = directory.child name.1 name.2 then some occupant else table.get? other :=
  lookup_put table.rows _ occupant other

/-- The name under which a directory holds the path, if the path is a child of it. -/
def nameIn? (directory path : Path) : Option String :=
  path.split?.bind fun (above, name) => if above = directory then some name.1 else none

theorem nameIn?_eq_some_iff {directory path : Path} {name : String} :
    nameIn? directory path = some name ↔
      ∃ named : IsName name, path = directory.child name named := by
  rcases path.eq_root_or_child with rfl | ⟨above, last, named, rfl⟩
  · simp only [nameIn?, Path.split?_root, Option.bind_none]
    exact ⟨by simp, fun ⟨named, same⟩ => (Path.child_ne_root directory name named same.symm).elim⟩
  · simp only [nameIn?, Path.split?_child, Option.bind_some, Option.ite_none_right_eq_some,
      Option.some.injEq, Path.child_inj]
    constructor
    · rintro ⟨rfl, rfl⟩
      exact ⟨named, rfl, rfl⟩
    · rintro ⟨_, rfl, rfl⟩
      exact ⟨rfl, rfl⟩

/-- The names under which the table has children of the directory, in ascending order. -/
def names (table : PathTable) (directory : Path) : List String :=
  (table.rows.filterMap fun row => nameIn? directory row.1).mergeSort (fun left right => left ≤ right)

theorem get?_ne_none_iff {table : PathTable} {path : Path} :
    table.get? path ≠ none ↔ ∃ row ∈ table.rows, row.1 = path := by
  simp only [get?, ne_eq, List.lookup_eq_none_iff, bne_iff_ne, not_forall, not_not, exists_prop]
  exact exists_congr fun row => and_congr_right fun _ => eq_comm

theorem mem_names {table : PathTable} {directory : Path} {name : String} :
    name ∈ table.names directory ↔
      ∃ named : IsName name, table.get? (directory.child name named) ≠ none := by
  simp only [names, List.mem_mergeSort, List.mem_filterMap, nameIn?_eq_some_iff, get?_ne_none_iff]
  constructor
  · rintro ⟨row, member, named, path_eq⟩
    exact ⟨named, row, member, path_eq⟩
  · rintro ⟨named, row, member, path_eq⟩
    exact ⟨row, member, named, path_eq⟩

theorem names_ascending (table : PathTable) (directory : Path) :
    (table.names directory).Pairwise (· < ·) := by
  have sorted : (table.names directory).Pairwise (· ≤ ·) := by
    have pairwise := @List.pairwise_mergeSort String (fun left right => decide (left ≤ right))
      (fun _ _ _ => by simpa using String.le_trans)
      (fun left right => by simpa using String.le_total left right)
      (table.rows.filterMap fun row => nameIn? directory row.1)
    simpa [names] using pairwise
  have once : (table.names directory).Nodup := by
    rw [names, (List.mergeSort_perm _ _).nodup_iff]
    have injective : ∀ left right name, name ∈ nameIn? directory left →
        name ∈ nameIn? directory right → left = right := by
      intro left right name left_name right_name
      obtain ⟨named, rfl⟩ := nameIn?_eq_some_iff.mp left_name
      obtain ⟨_, rfl⟩ := nameIn?_eq_some_iff.mp right_name
      rfl
    have distinct := table.distinct.filterMap injective
    simpa [List.filterMap_map, Function.comp_def] using distinct
  refine sorted.imp₂ ?_ once
  intro left right le ne
  exact String.not_le.mp fun ge => ne (String.le_antisymm le ge)

/-! ## Requests to the table -/

/-- The path that the text means here. -/
def resolve (table : PathTable) (text : String) : Except FileError Path :=
  match table.workingDirectory.resolve? text with
  | some path => .ok path
  | none => .error (.invalidPath text)

/-- Kind and size of what stands at the path. -/
def stat (table : PathTable) (text : String) : Except FileError Stat := do
  let path ← table.resolve text
  match table.get? path with
  | some occupant => .ok occupant.stat
  | none => .error (.notFound path)

/-- The content of the file at the path, read as text. Where no file stands, nothing is found. -/
def read (table : PathTable) (text : String) (encoding : Encoding) : Except FileError String := do
  let path ← table.resolve text
  match table.get? path with
  | some (.file content) =>
    match encoding.decode? content with
    | some text => .ok text
    | none => .error (.unencodable path encoding)
  | _ => .error (.notFound path)

/-- The names of the direct children in ascending order; a path that is not in the table has none,
and a file is a conflict. -/
def list (table : PathTable) (text : String) : Except FileError (List String) := do
  let path ← table.resolve text
  match table.get? path with
  | some .directory => .ok (table.names path)
  | some (.file _) => .error (.typeConflict path .directory)
  | none => .ok []

/-- Files the encoded text under a path other than the root, in a directory, and not in place of a
directory. -/
def write (table : PathTable) (path text : String) (encoding : Encoding) :
    Except FileError PathTable := do
  let path ← table.resolve path
  match path.split? with
  | none => .error (.typeConflict path .file)
  | some (directory, name) =>
    match encoding.encode? text with
    | none => .error (.unencodable path encoding)
    | some content =>
      if lead : table.get? directory = some .directory then
        if free : table.get? (directory.child name.1 name.2) ≠ some .directory then
          .ok (table.insert directory name (.file content) lead free)
        else .error (.typeConflict path .file)
      else .error (table.get?.obstruction directory)

/-- Files a directory under a path that is not in the table, in a directory. -/
def makeDirectory (table : PathTable) (path : String) : Except FileError PathTable := do
  let path ← table.resolve path
  match path.split? with
  | none => .error (.alreadyExists path)
  | some (directory, name) =>
    if lead : table.get? directory = some .directory then
      if free : table.get? (directory.child name.1 name.2) = none then
        .ok (table.insert directory name .directory lead (by simp [free]))
      else .error (.alreadyExists path)
    else .error (table.get?.obstruction directory)

end PathTable

/-- What is asked of a file system. -/
inductive FileRequest where
  /-- Kind and size of what stands at the path. -/
  | stat (path : String)
  /-- The text of the file at the path. -/
  | read (path : String) (encoding : Encoding)
  /-- Writing the text into the file at the path. -/
  | write (path text : String) (encoding : Encoding)
  /-- Making the directory at the path. -/
  | makeDirectory (path : String)
  /-- The names in the directory at the path. -/
  | list (path : String)
deriving DecidableEq

/-- What is answered to a request. -/
inductive FileAnswer where
  /-- Kind and size, or why there are none. -/
  | stat (answer : Except FileError Stat)
  /-- The text, or why there is none. -/
  | text (answer : Except FileError String)
  /-- The names, or why there are none. -/
  | names (answer : Except FileError (List String))
  /-- A change was made, or why it was not. -/
  | change (answer : Except FileError Unit)

namespace FileAnswer

variable {σ : Type}

/-- The answer to a change, with what is left; a refused change leaves everything as it was. -/
def ofChange (state : σ) : Except FileError σ → FileAnswer × σ
  | .ok left => (.change (.ok ()), left)
  | .error cause => (.change (.error cause), state)

/-- The answers to requests made one after another. -/
def all (serve : σ → FileRequest → FileAnswer × σ) : σ → List FileRequest → List FileAnswer
  | _, [] => []
  | state, request :: more => (serve state request).1 :: all serve (serve state request).2 more

end FileAnswer

/-- Answers a request from the tree. -/
def FileSystem.serve (fs : FileSystem) : FileRequest → FileAnswer × FileSystem
  | .stat path => (.stat (fs.stat path), fs)
  | .read path encoding => (.text (fs.read path encoding), fs)
  | .write path text encoding => FileAnswer.ofChange fs (fs.write path text encoding)
  | .makeDirectory path => FileAnswer.ofChange fs (fs.makeDirectory path)
  | .list path => (.names (fs.list path), fs)

/-- Answers a request from the table. -/
def PathTable.serve (table : PathTable) : FileRequest → FileAnswer × PathTable
  | .stat path => (.stat (table.stat path), table)
  | .read path encoding => (.text (table.read path encoding), table)
  | .write path text encoding => FileAnswer.ofChange table (table.write path text encoding)
  | .makeDirectory path => FileAnswer.ofChange table (table.makeDirectory path)
  | .list path => (.names (table.list path), table)

namespace PathTable

/-- The table files what stands in the tree. -/
structure Shows (table : PathTable) (fs : FileSystem) : Prop where
  /-- Relative paths start at the same place. -/
  workingDirectory : table.workingDirectory = fs.workingDirectory
  /-- The same stands at each path. -/
  view : table.get? = fs.occupant?

/-- Two changes leave a tree and the table of it, or are refused for the same cause. -/
inductive Agree : Except FileError PathTable → Except FileError FileSystem → Prop
  | ok {table : PathTable} {fs : FileSystem} (shows_left : table.Shows fs) :
      Agree (.ok table) (.ok fs)
  | error (cause : FileError) : Agree (.error cause) (.error cause)

section Simulation

variable {table : PathTable} {fs : FileSystem}

theorem Agree.ofChange {changed : Except FileError PathTable}
    {altered : Except FileError FileSystem} (agree : Agree changed altered)
    (shows_fs : table.Shows fs) :
    (FileAnswer.ofChange table changed).1 = (FileAnswer.ofChange fs altered).1 ∧
      (FileAnswer.ofChange table changed).2.Shows (FileAnswer.ofChange fs altered).2 := by
  cases agree with
  | ok shows_left => exact ⟨rfl, shows_left⟩
  | error cause => exact ⟨rfl, shows_fs⟩

theorem shows_bare (workingDirectory : Path) :
    (bare workingDirectory).Shows (.bare workingDirectory) :=
  ⟨rfl, funext fun path => by rw [get?_bare, FileSystem.occupant?_bare]⟩

theorem Shows.resolve (shows_fs : table.Shows fs) (text : String) :
    table.resolve text = fs.resolve text := by
  cases resolved : fs.workingDirectory.resolve? text <;>
    simp only [PathTable.resolve, FileSystem.resolve, shows_fs.workingDirectory, resolved]

theorem Shows.stat (shows_fs : table.Shows fs) (text : String) : table.stat text = fs.stat text := by
  rw [PathTable.stat, FileSystem.stat, shows_fs.resolve, shows_fs.view]
  cases fs.resolve text with
  | error cause => rfl
  | ok path => exact (fs.statAt_eq path).symm

theorem Shows.read (shows_fs : table.Shows fs) (text : String) (encoding : Encoding) :
    table.read text encoding = fs.read text encoding := by
  rw [PathTable.read, FileSystem.read, shows_fs.resolve, shows_fs.view]
  cases fs.resolve text with
  | error cause => rfl
  | ok path => exact (fs.readAt_eq path encoding).symm

theorem Shows.names {path : Path} {entries : List (String × Node)} (shows_fs : table.Shows fs)
    (found : fs.node? path = some (.directory entries)) :
    table.names path = entries.map (·.1) := by
  obtain ⟨ascending, members⟩ := FileSystem.names_of_directory found
  have same : ∀ name, name ∈ table.names path ↔ name ∈ entries.map (·.1) := by
    intro name
    rw [mem_names, members, shows_fs.view]
  have distinct : ∀ {names : List String}, names.Pairwise (· < ·) → names.Nodup :=
    fun ordered => ordered.imp fun lt => String.ne_of_lt lt
  have permuted : (table.names path).Perm (entries.map (·.1)) :=
    (List.perm_ext_iff_of_nodup (distinct (table.names_ascending path)) (distinct ascending)).mpr
      same
  refine permuted.eq_of_pairwise ?_ (table.names_ascending path) ascending
  intro left right _ _ lt gt
  exact (String.lt_asymm lt gt).elim

theorem Shows.list (shows_fs : table.Shows fs) (text : String) : table.list text = fs.list text := by
  rw [PathTable.list, FileSystem.list, shows_fs.resolve, shows_fs.view]
  cases fs.resolve text with
  | error cause => rfl
  | ok path =>
      simp only [bind, Except.bind, FileSystem.occupant?]
      cases found : fs.node? path with
      | none => rfl
      | some node =>
          cases node with
          | file content => rfl
          | directory entries =>
              exact congrArg Except.ok (shows_fs.names found)

theorem Shows.write (shows_fs : table.Shows fs) (path text : String) (encoding : Encoding) :
    Agree (table.write path text encoding) (fs.write path text encoding) := by
  rw [PathTable.write, FileSystem.write, shows_fs.resolve]
  cases fs.resolve path with
  | error cause => exact .error cause
  | ok path =>
      simp only [bind, Except.bind]
      rcases path.eq_root_or_child with rfl | ⟨directory, name, named, rfl⟩
      · exact .error _
      simp only [Path.split?_child]
      cases encoded : encoding.encode? text with
      | none =>
          rw [FileSystem.writeAt_of_unencodable encoded]
          exact .error _
      | some content =>
          simp only []
          split
          · rename_i lead
            split
            · rename_i free
              rw [shows_fs.view] at lead free
              obtain ⟨left, success, workingDirectory, view⟩ :=
                FileSystem.writeAt_ok encoded lead free
              rw [success]
              refine .ok ⟨shows_fs.workingDirectory.trans workingDirectory.symm, ?_⟩
              funext other
              rw [get?_insert, view, shows_fs.view]
            · rename_i taken
              rw [FileSystem.writeAt_of_directory encoded]
              · exact .error _
              · rw [← shows_fs.view]
                exact not_not.mp taken
          · rename_i no_lead
            rw [shows_fs.view, FileSystem.writeAt_of_no_directory encoded (shows_fs.view ▸ no_lead)]
            exact .error _

theorem Shows.makeDirectory (shows_fs : table.Shows fs) (path : String) :
    Agree (table.makeDirectory path) (fs.makeDirectory path) := by
  rw [PathTable.makeDirectory, FileSystem.makeDirectory, shows_fs.resolve]
  cases fs.resolve path with
  | error cause => exact .error cause
  | ok path =>
      simp only [bind, Except.bind]
      rcases path.eq_root_or_child with rfl | ⟨directory, name, named, rfl⟩
      · exact .error _
      simp only [Path.split?_child]
      split
      · rename_i lead
        split
        · rename_i free
          rw [shows_fs.view] at lead free
          obtain ⟨left, success, workingDirectory, view⟩ :=
            FileSystem.makeDirectoryAt_ok lead free
          rw [success]
          refine .ok ⟨shows_fs.workingDirectory.trans workingDirectory.symm, ?_⟩
          funext other
          rw [get?_insert, view, shows_fs.view]
        · rename_i occupied
          rw [FileSystem.makeDirectoryAt_of_occupied (shows_fs.view ▸ occupied)]
          exact .error _
      · rename_i no_lead
        rw [shows_fs.view, FileSystem.makeDirectoryAt_of_no_directory (shows_fs.view ▸ no_lead)]
        exact .error _

/-- Tree and table answer a request alike, and the table still shows the tree. -/
theorem Shows.serve (shows_fs : table.Shows fs) (request : FileRequest) :
    (table.serve request).1 = (fs.serve request).1 ∧
      (table.serve request).2.Shows (fs.serve request).2 := by
  cases request with
  | stat path => exact ⟨congrArg FileAnswer.stat (shows_fs.stat path), shows_fs⟩
  | read path encoding => exact ⟨congrArg FileAnswer.text (shows_fs.read path encoding), shows_fs⟩
  | write path text encoding => exact (shows_fs.write path text encoding).ofChange shows_fs
  | makeDirectory path => exact (shows_fs.makeDirectory path).ofChange shows_fs
  | list path => exact ⟨congrArg FileAnswer.names (shows_fs.list path), shows_fs⟩

theorem Shows.all (shows_fs : table.Shows fs) (requests : List FileRequest) :
    FileAnswer.all PathTable.serve table requests = FileAnswer.all FileSystem.serve fs requests := by
  induction requests generalizing table fs with
  | nil => rfl
  | cons request more induction =>
      obtain ⟨same, shows_left⟩ := shows_fs.serve request
      simp only [FileAnswer.all]
      rw [same, induction shows_left]

end Simulation
end PathTable

/-- From an empty file system on, whatever the working directory and the requests, the tree answers
as a table of paths does. -/
theorem FileSystem.answers_eq_table (workingDirectory : Path) (requests : List FileRequest) :
    FileAnswer.all FileSystem.serve (.bare workingDirectory) requests =
      FileAnswer.all PathTable.serve (.bare workingDirectory) requests :=
  ((PathTable.shows_bare workingDirectory).all requests).symm

end Workbench
