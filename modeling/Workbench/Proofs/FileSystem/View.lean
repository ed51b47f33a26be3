import Workbench.FileSystem.Basic
import Workbench.Proofs.Path.Lineage

/-!
# What stands at each path

The view of a file system forgets how the tree is nested: it tells for each path whether a file with
its bytes, a directory or nothing is there. Every operation answers and changes the file system as
its view prescribes.
-/

namespace Workbench

theorem Entries.mem_names_iff {α : Type} {name : String} {entries : List (String × α)} :
    name ∈ entries.map (·.1) ↔ find? name entries ≠ none := by
  induction entries with
  | nil => simp [find?]
  | cons entry rest induction =>
      obtain ⟨key, value⟩ := entry
      rw [List.map_cons, List.mem_cons, induction, find?]
      by_cases same : key = name
      · simp [same]
      · simp [same, Ne.symm same]

/-- In an ascending table every entry is found under its name. -/
theorem Entries.find?_of_mem {α : Type} {entries : List (String × α)}
    (ascending : Ascending entries)
    {entry : String × α} (member : entry ∈ entries) :
    find? entry.1 entries = some entry.2 := by
  induction entries with
  | nil => exact nomatch member
  | cons head rest induction =>
      obtain ⟨least, order⟩ := List.pairwise_cons.mp ascending
      rw [find?]
      rcases List.mem_cons.mp member with rfl | later
      · rw [if_pos rfl]
      · have distinct : head.1 ≠ entry.1 := fun same =>
          absurd (same ▸ least entry later) (String.lt_irrefl entry.1)
        rw [if_neg distinct]
        exact induction order later

/-- What stands at a path. -/
inductive Occupant where
  /-- A file with its content. -/
  | file (content : ByteArray)
  /-- A directory. -/
  | directory

namespace Occupant

instance : DecidableEq Occupant
  | file first, file second =>
      decidable_of_iff (first.data = second.data)
        (ByteArray.ext_iff.symm.trans (iff_of_eq (file.injEq first second).symm))
  | file _, directory | directory, file _ => .isFalse nofun
  | directory, directory => .isTrue rfl

/-- What is known of the occupant without reading it. -/
def stat : Occupant → Stat
  | file content => ⟨.file, content.size⟩
  | directory => ⟨.directory, 0⟩

/-- The occupant is a file. -/
def IsFile : Option Occupant → Prop
  | some (file _) => True
  | _ => False

instance : DecidablePred IsFile
  | none => .isFalse id
  | some directory => .isFalse id
  | some (file _) => .isTrue trivial

theorem isFile_iff {occupant : Option Occupant} :
    IsFile occupant ↔ ∃ content, occupant = some (file content) := by
  rcases occupant with _ | _ | _ <;> simp [IsFile]

theorem eq_none_of {occupant : Option Occupant} (no_file : ¬ IsFile occupant)
    (no_directory : occupant ≠ some directory) : occupant = none := by
  rcases occupant with _ | content | _
  · rfl
  · exact (no_file trivial).elim
  · exact (no_directory rfl).elim

end Occupant

/-- What stands at each path. -/
abbrev FileView := Path → Option Occupant

namespace FileView

/-- The root is a directory, and whatever there is stands in a directory. -/
structure Coherent (view : FileView) : Prop where
  /-- The root is a directory. -/
  root : view .root = some .directory
  /-- Whatever there is stands in a directory. -/
  closed : ∀ {path : Path} {name : String} {named : IsName name},
    view (path.child name named) ≠ none → view path = some .directory

variable {view : FileView}

theorem Coherent.directory_of_lt (coherent : view.Coherent) {upper path : Path}
    (above : upper < path) (occupied : view path ≠ none) : view upper = some .directory := by
  induction path using Path.induction with
  | root => exact absurd above (not_lt_of_ge (Path.root_le upper))
  | child directory name named induction =>
      have here := coherent.closed occupied
      rcases (Path.lt_child_iff.mp above).eq_or_lt with rfl | further
      · exact here
      · exact induction further (by simp [here])

/-- Nothing is below a path where no directory is. -/
theorem Coherent.eq_none_of_lt (coherent : view.Coherent) {upper path : Path}
    (above : upper < path) (no_directory : view upper ≠ some .directory) : view path = none := by
  by_contra occupied
  exact no_directory (coherent.directory_of_lt above occupied)

theorem Coherent.file_unique (coherent : view.Coherent) {left right path : Path}
    (left_le : left ≤ path) (right_le : right ≤ path) (left_file : Occupant.IsFile (view left))
    (right_file : Occupant.IsFile (view right)) : left = right := by
  have not_above : ∀ {upper lower : Path}, upper ≤ lower → Occupant.IsFile (view upper) →
      Occupant.IsFile (view lower) → upper = lower := by
    intro upper lower above upper_file lower_file
    rcases above.eq_or_lt with same | strictly
    · exact same
    · have occupied : view lower ≠ none := by
        intro empty
        simp [empty, Occupant.IsFile] at lower_file
      simp [coherent.directory_of_lt strictly occupied, Occupant.IsFile] at upper_file
  rcases Path.le_total_of_le left_le right_le with down | up
  · exact not_above down left_file right_file
  · exact (not_above up right_file left_file).symm

/-- The refusal of a change in a directory that is not there: the file that is in the way, or else
the directory itself as missing. -/
def obstruction (view : FileView) (directory : Path) : FileError :=
  match directory.upward.find? fun path => Occupant.IsFile (view path) with
  | some file => .typeConflict file .directory
  | none => .notFound directory

theorem Coherent.obstruction_of_file (coherent : view.Coherent) {file directory : Path}
    (way : file ≤ directory) (isFile : Occupant.IsFile (view file)) :
    view.obstruction directory = .typeConflict file .directory := by
  rw [obstruction]
  split
  · rename_i other found
    have other_way := Path.mem_upward.mp (List.mem_of_find?_eq_some found)
    have other_file : Occupant.IsFile (view other) := by simpa using List.find?_some found
    rw [coherent.file_unique other_way way other_file isFile]
  · rename_i none_found
    have no_file := List.find?_eq_none.mp none_found file (Path.mem_upward.mpr way)
    exact absurd isFile (by simpa using no_file)

theorem obstruction_of_passable {directory : Path}
    (passable : ∀ upper ≤ directory, ¬ Occupant.IsFile (view upper)) :
    view.obstruction directory = .notFound directory := by
  have none_found : (directory.upward.find? fun path => Occupant.IsFile (view path)) = none := by
    rw [List.find?_eq_none]
    intro upper member
    simpa using passable upper (Path.mem_upward.mp member)
  rw [obstruction, none_found]

end FileView

namespace Node

/-- The node without what is below it. -/
def occupant : Node → Occupant
  | file content => .file content
  | directory _ => .directory

@[simp] theorem occupant_stat (node : Node) : node.occupant.stat = ⟨node.kind, node.size⟩ := by
  cases node <;> rfl

@[simp] theorem at?_nil (node : Node) : node.at? [] = some node := by
  cases node <;> rfl

@[simp] theorem at?_file_cons (content : ByteArray) (name : String) (rest : List String) :
    (file content).at? (name :: rest) = none := rfl

theorem at?_directory_cons (entries : List (String × Node)) (name : String)
    (rest : List String) : (directory entries).at? (name :: rest) =
      (Entries.find? name entries).bind (·.at? rest) := by
  rw [at?]
  cases Entries.find? name entries <;> rfl

theorem at?_append (node : Node) (front back : List String) :
    node.at? (front ++ back) = (node.at? front).bind (·.at? back) := by
  induction front generalizing node with
  | nil => simp
  | cons name front induction =>
      cases node with
      | file content => simp
      | directory entries =>
          rw [List.cons_append, at?_directory_cons, at?_directory_cons]
          cases Entries.find? name entries with
          | none => rfl
          | some child => exact induction child

theorem Sound.at? {node found : Node} {names : List String} (sound : Sound node)
    (found_eq : node.at? names = some found) : Sound found := by
  induction names generalizing node with
  | nil =>
      obtain rfl : node = found := by simpa using found_eq
      exact sound
  | cons name rest induction =>
      cases sound with
      | file content => simp at found_eq
      | directory entries _ _ below =>
          rw [at?_directory_cons] at found_eq
          obtain ⟨child, child_eq, deeper⟩ := Option.bind_eq_some_iff.mp found_eq
          exact induction (below _ (Entries.mem_of_find? child_eq)) deeper

variable {change : List (String × Node) → Except FileError (List (String × Node))}
  {goal walked : Path}

/-- A change that succeeds in the directory it is meant for succeeds in the tree, and leaves
everything that is not at or below that directory as it was. -/
theorem alter_of_directory {node : Node} {names : List String}
    {entries after : List (String × Node)} (found : node.at? names = some (.directory entries))
    (changed : change entries = .ok after) :
    ∃ altered, node.alter change goal walked names = .ok altered ∧
      altered.at? names = some (.directory after) ∧
      ∀ other, ¬ names <+: other →
        (altered.at? other).map occupant = (node.at? other).map occupant := by
  induction names generalizing node walked with
  | nil =>
      obtain rfl : node = .directory entries := by simpa using found
      exact ⟨.directory after, by simp [alter, changed, Except.map], by simp, by simp⟩
  | cons name rest induction =>
      cases node with
      | file content => simp at found
      | directory siblings =>
          rw [at?_directory_cons] at found
          obtain ⟨child, child_eq, below⟩ := Option.bind_eq_some_iff.mp found
          obtain ⟨altered, success, there, elsewhere⟩ := @induction (walked.step name) child below
          refine ⟨.directory (Entries.insert name altered siblings), ?_, ?_, ?_⟩
          · simp [alter, child_eq, success, Except.map]
          · simp [at?_directory_cons, Entries.find?_insert_self, there]
          · intro other apart
            cases other with
            | nil => simp [occupant]
            | cons first others =>
                rw [at?_directory_cons, at?_directory_cons]
                by_cases same : first = name
                · subst same
                  simpa [Entries.find?_insert_self, child_eq] using
                    elsewhere others (by simpa [List.cons_prefix_cons] using apart)
                · rw [Entries.find?_insert_of_ne same]

theorem alter_of_refusal {node : Node} {names : List String} {entries : List (String × Node)}
    {cause : FileError} (found : node.at? names = some (.directory entries))
    (refused : change entries = .error cause) :
    node.alter change goal walked names = .error cause := by
  induction names generalizing node walked with
  | nil =>
      obtain rfl : node = .directory entries := by simpa using found
      simp [alter, refused, Except.map]
  | cons name rest induction =>
      cases node with
      | file content => simp at found
      | directory siblings =>
          rw [at?_directory_cons] at found
          obtain ⟨child, child_eq, below⟩ := Option.bind_eq_some_iff.mp found
          simp [alter, child_eq, @induction (walked.step name) child below, Except.map]

theorem alter_of_file {node : Node} {front names : List String} {content : ByteArray}
    {upper : Path} (walked_eq : upper.names = walked.names ++ front) (way : front <+: names)
    (found : node.at? front = some (.file content)) :
    node.alter change goal walked names = .error (.typeConflict upper .directory) := by
  induction front generalizing node walked names with
  | nil =>
      obtain rfl : node = .file content := by simpa using found
      obtain rfl : upper = walked := Path.ext (by simpa using walked_eq)
      rw [alter]
  | cons name front induction =>
      cases node with
      | file other => simp at found
      | directory siblings =>
          obtain ⟨rest, rfl⟩ := way
          rw [at?_directory_cons] at found
          obtain ⟨child, child_eq, below⟩ := Option.bind_eq_some_iff.mp found
          have named : IsName name := upper.ordinary name (by simp [walked_eq])
          have step_eq : upper.names = (walked.step name).names ++ front := by
            simp [Path.step, named, walked_eq]
          have conflict := induction step_eq (List.prefix_append front rest) below
          simp [alter, child_eq, conflict, Except.map]

/-- Where nothing is and no file is on the way, the goal is reported as missing. -/
theorem alter_of_missing {node : Node} {names : List String} (missing : node.at? names = none)
    (passable : ∀ front, front <+: names → ∀ content, node.at? front ≠ some (.file content)) :
    node.alter change goal walked names = .error (.notFound goal) := by
  induction names generalizing node walked with
  | nil => simp at missing
  | cons name rest induction =>
      cases node with
      | file content => exact absurd (at?_nil _) (passable [] List.nil_prefix content)
      | directory siblings =>
          rw [at?_directory_cons] at missing
          rw [alter]
          cases child_eq : Entries.find? name siblings with
          | none => rfl
          | some child =>
              have below : child.at? rest = none := by simpa [child_eq] using missing
              have onward : ∀ front, front <+: rest →
                  ∀ content, child.at? front ≠ some (.file content) := by
                intro front way content
                have ahead := passable (name :: front) (List.cons_prefix_cons.mpr ⟨rfl, way⟩) content
                simpa [at?_directory_cons, child_eq] using ahead
              simp [@induction (walked.step name) child below onward, Except.map]

end Node

namespace FileSystem

/-- What stands at the path. -/
def occupant? (fs : FileSystem) : FileView := fun path => (fs.node? path).map Node.occupant

theorem occupant?_eq_directory_iff {fs : FileSystem} {path : Path} :
    fs.occupant? path = some .directory ↔ ∃ entries, fs.node? path = some (.directory entries) := by
  cases node_eq : fs.node? path with
  | none => simp [occupant?, node_eq]
  | some node => cases node <;> simp [occupant?, node_eq, Node.occupant]

theorem occupant?_eq_file_iff {fs : FileSystem} {path : Path} {content : ByteArray} :
    fs.occupant? path = some (.file content) ↔ fs.node? path = some (.file content) := by
  cases node_eq : fs.node? path with
  | none => simp [occupant?, node_eq]
  | some node => cases node <;> simp [occupant?, node_eq, Node.occupant]

theorem occupant?_eq_none_iff {fs : FileSystem} {path : Path} :
    fs.occupant? path = none ↔ fs.node? path = none := by
  simp [occupant?]

@[simp] theorem occupant?_root (fs : FileSystem) : fs.occupant? .root = some .directory := by
  have rooted := fs.rooted
  rw [occupant?, node?, Path.names_root, Node.at?_nil]
  cases tree_eq : fs.tree with
  | file content => simp [tree_eq, Node.kind] at rooted
  | directory entries => rfl

@[simp] theorem occupant?_bare (workingDirectory path : Path) :
    (bare workingDirectory).occupant? path = if path = .root then some .directory else none := by
  rcases path.eq_root_or_child with rfl | ⟨directory, name, named, rfl⟩
  · simp
  · rw [if_neg (Path.child_ne_root directory name named), occupant?_eq_none_iff, node?,
      Path.names_child, Node.at?_append]
    cases directory.names with
    | nil => rfl
    | cons first rest => rfl

theorem not_isFile_bare (workingDirectory path : Path) :
    ¬Occupant.IsFile ((bare workingDirectory).occupant? path) := by
  rw [occupant?_bare]
  split <;> exact id

theorem node?_child (fs : FileSystem) (path : Path) (name : String) (named : IsName name) :
    fs.node? (path.child name named) = (fs.node? path).bind (·.at? [name]) := by
  rw [node?, Path.names_child, Node.at?_append]
  rfl

theorem node?_child_of_directory {fs : FileSystem} {directory : Path} {name : String}
    {named : IsName name} {entries : List (String × Node)}
    (found : fs.node? directory = some (.directory entries)) :
    fs.node? (directory.child name named) = Entries.find? name entries := by
  rw [node?_child, found, Option.bind_some, Node.at?_directory_cons]
  simp

theorem directory_of_occupied {fs : FileSystem} {path : Path} {name : String}
    {named : IsName name} (occupied : fs.occupant? (path.child name named) ≠ none) :
    fs.occupant? path = some .directory := by
  rw [Ne, occupant?_eq_none_iff, node?_child] at occupied
  cases node_eq : fs.node? path with
  | none => simp [node_eq] at occupied
  | some node =>
      cases node with
      | file content => simp [node_eq] at occupied
      | directory entries => exact occupant?_eq_directory_iff.mpr ⟨entries, node_eq⟩

theorem coherent (fs : FileSystem) : fs.occupant?.Coherent :=
  ⟨occupant?_root fs, directory_of_occupied⟩

/-! ## Queries -/

theorem statAt_eq (fs : FileSystem) (path : Path) :
    fs.statAt path = match fs.occupant? path with
      | some occupant => .ok occupant.stat
      | none => .error (.notFound path) := by
  unfold statAt occupant?
  cases fs.node? path <;> simp

theorem readAt_eq (fs : FileSystem) (path : Path) (encoding : Encoding) :
    fs.readAt path encoding = match fs.occupant? path with
      | some (.file content) => match encoding.decode? content with
        | some text => .ok text
        | none => .error (.unencodable path encoding)
      | _ => .error (.notFound path) := by
  unfold readAt occupant?
  cases fs.node? path with
  | none => rfl
  | some node => cases node <;> rfl

theorem node?_sound {fs : FileSystem} {path : Path} {node : Node}
    (found : fs.node? path = some node) : node.Sound :=
  fs.sound.at? found

/-- The names in a directory strictly ascend, and they are those under which something stands. -/
theorem names_of_directory {fs : FileSystem} {path : Path} {entries : List (String × Node)}
    (found : fs.node? path = some (.directory entries)) :
    (entries.map (·.1)).Pairwise (· < ·) ∧ ∀ name, name ∈ entries.map (·.1) ↔
      ∃ named : IsName name, fs.occupant? (path.child name named) ≠ none := by
  cases node?_sound found with
  | directory _ ascending ordinary below =>
      refine ⟨List.pairwise_map.mpr ascending, fun name => ?_⟩
      rw [Entries.mem_names_iff]
      constructor
      · intro there
        obtain ⟨node, node_eq⟩ := Option.ne_none_iff_exists'.mp there
        refine ⟨ordinary _ (Entries.mem_of_find? node_eq), ?_⟩
        rwa [Ne, occupant?_eq_none_iff, node?_child_of_directory found]
      · rintro ⟨named, occupied⟩
        rwa [Ne, occupant?_eq_none_iff, node?_child_of_directory found] at occupied

/-! ## Changes -/

section Changes

variable {fs : FileSystem} {change : Change} {directory : Path}

theorem alter_of_directory {entries after : List (String × Node)}
    (found : fs.node? directory = some (.directory entries))
    (changed : change.apply entries = .ok after) :
    ∃ left, fs.alter change directory = .ok left ∧
      left.workingDirectory = fs.workingDirectory ∧
      left.node? directory = some (.directory after) ∧
      ∀ other, ¬ directory ≤ other → left.occupant? other = fs.occupant? other := by
  obtain ⟨tree, success, there, elsewhere⟩ :=
    @Node.alter_of_directory change.apply directory .root _ _ _ _ found changed
  unfold alter
  split
  · rename_i cause refused
    rw [success] at refused
    simp at refused
  · rename_i altered_tree altered
    obtain rfl : tree = altered_tree := by simpa [success] using altered
    exact ⟨_, rfl, rfl, there, fun other apart => elsewhere other.names apart⟩

theorem alter_eq_error {cause : FileError}
    (refused : fs.tree.alter change.apply directory .root directory.names = .error cause) :
    fs.alter change directory = .error cause := by
  unfold alter
  split
  · rename_i other other_refused
    rw [refused] at other_refused
    simpa using other_refused.symm
  · rename_i tree altered
    simp [refused] at altered

theorem alter_of_refusal {entries : List (String × Node)} {cause : FileError}
    (found : fs.node? directory = some (.directory entries))
    (refused : change.apply entries = .error cause) :
    fs.alter change directory = .error cause :=
  alter_eq_error (Node.alter_of_refusal found refused)

/-- A change in a directory that is not there is refused because of a file in the way, or else
because the directory is missing. -/
theorem alter_of_no_directory (no_directory : fs.occupant? directory ≠ some .directory) :
    fs.alter change directory = .error (fs.occupant?.obstruction directory) := by
  apply alter_eq_error
  by_cases blocked : ∃ file ≤ directory, Occupant.IsFile (fs.occupant? file)
  · obtain ⟨file, way, isFile⟩ := blocked
    rw [fs.coherent.obstruction_of_file way isFile]
    obtain ⟨content, content_eq⟩ := Occupant.isFile_iff.mp isFile
    exact Node.alter_of_file (by simp) way (occupant?_eq_file_iff.mp content_eq)
  · have passable : ∀ upper ≤ directory, ¬ Occupant.IsFile (fs.occupant? upper) :=
      fun upper way isFile => blocked ⟨upper, way, isFile⟩
    rw [FileView.obstruction_of_passable passable]
    apply Node.alter_of_missing
    · exact occupant?_eq_none_iff.mp
        (Occupant.eq_none_of (passable directory le_rfl) no_directory)
    · intro front way content found
      refine passable ⟨front, fun name member => directory.ordinary name (way.subset member)⟩ way ?_
      exact Occupant.isFile_iff.mpr ⟨content, occupant?_eq_file_iff.mpr found⟩

/-- Filing a node without entries under a name where no directory is changes the view at that path
alone. -/
theorem alter_of_insert {name : String} {named : IsName name} {entries : List (String × Node)}
    {child : Node} (found : fs.node? directory = some (.directory entries))
    (changed : change.apply entries = .ok (Entries.insert name child entries))
    (leaf : ∀ first rest, child.at? (first :: rest) = none)
    (free : fs.occupant? (directory.child name named) ≠ some .directory) :
    ∃ left, fs.alter change directory = .ok left ∧
      left.workingDirectory = fs.workingDirectory ∧
      ∀ other, left.occupant? other =
        if other = directory.child name named then some child.occupant
        else fs.occupant? other := by
  obtain ⟨left, success, same_directory, there, elsewhere⟩ := alter_of_directory found changed
  refine ⟨left, success, same_directory, fun other => ?_⟩
  by_cases below : directory ≤ other
  · obtain ⟨rest, names_eq⟩ := below
    have before : fs.node? other = (Node.directory entries).at? rest := by
      rw [node?, ← names_eq, Node.at?_append]
      exact congrArg (Option.bind · _) found
    have after : left.node? other =
        (Node.directory (Entries.insert name child entries)).at? rest := by
      rw [node?, ← names_eq, Node.at?_append]
      exact congrArg (Option.bind · _) there
    have eq_child_iff : other = directory.child name named ↔ rest = [name] := by
      rw [Path.ext_iff, ← names_eq, Path.names_child, List.append_right_inj]
    cases rest with
    | nil =>
        rw [if_neg (by simp [eq_child_iff]), occupant?, occupant?, before, after]
        simp [Node.occupant]
    | cons first more =>
        rw [Node.at?_directory_cons] at before after
        by_cases same : first = name
        · subst same
          rw [Entries.find?_insert_self] at after
          cases more with
          | nil =>
              rw [if_pos (eq_child_iff.mpr rfl), occupant?, after]
              simp
          | cons second others =>
              have strictly : directory.child first named < other := by
                refine lt_of_le_of_ne ⟨second :: others, by simp [← names_eq]⟩ ?_
                intro same
                simpa using eq_child_iff.mp same.symm
              rw [if_neg strictly.ne', fs.coherent.eq_none_of_lt strictly free, occupant?, after]
              simp [leaf]
        · rw [Entries.find?_insert_of_ne same] at after
          rw [if_neg (by simp [eq_child_iff, same]), occupant?, occupant?, before, after]
  · rw [elsewhere other below, if_neg]
    rintro rfl
    exact below (Path.le_child directory name named)

variable {name : String} {named : IsName name}

section Writing

variable {text : String} {encoding : Encoding} {content : ByteArray}

theorem writeAt_of_unencodable (unencodable : encoding.encode? text = none) :
    fs.writeAt (directory.child name named) text encoding =
      .error (.unencodable (directory.child name named) encoding) := by
  simp only [writeAt, Path.split?_child, unencodable]

theorem writeAt_of_encoded (encoded : encoding.encode? text = some content) :
    fs.writeAt (directory.child name named) text encoding =
      fs.alter (.putFile (directory.child name named) ⟨name, named⟩ content) directory := by
  simp only [writeAt, Path.split?_child, encoded]

theorem writeAt_of_no_directory (encoded : encoding.encode? text = some content)
    (no_directory : fs.occupant? directory ≠ some .directory) :
    fs.writeAt (directory.child name named) text encoding =
      .error (fs.occupant?.obstruction directory) := by
  rw [writeAt_of_encoded encoded, alter_of_no_directory no_directory]

theorem writeAt_of_directory (encoded : encoding.encode? text = some content)
    (taken : fs.occupant? (directory.child name named) = some .directory) :
    fs.writeAt (directory.child name named) text encoding =
      .error (.typeConflict (directory.child name named) .file) := by
  have lead : fs.occupant? directory = some .directory := directory_of_occupied (by rw [taken]; simp)
  obtain ⟨entries, found⟩ := occupant?_eq_directory_iff.mp lead
  obtain ⟨siblings, here⟩ := occupant?_eq_directory_iff.mp taken
  rw [node?_child_of_directory found] at here
  rw [writeAt_of_encoded encoded]
  exact alter_of_refusal found (by simp [Change.putFile, here])

/-- A text that can be encoded is written where its directory is and no directory is in its place;
the view changes at that path alone. -/
theorem writeAt_ok (encoded : encoding.encode? text = some content)
    (lead : fs.occupant? directory = some .directory)
    (free : fs.occupant? (directory.child name named) ≠ some .directory) :
    ∃ left, fs.writeAt (directory.child name named) text encoding = .ok left ∧
      left.workingDirectory = fs.workingDirectory ∧
      ∀ other, left.occupant? other =
        if other = directory.child name named then some (.file content)
        else fs.occupant? other := by
  obtain ⟨entries, found⟩ := occupant?_eq_directory_iff.mp lead
  have put : (Change.putFile (directory.child name named) ⟨name, named⟩ content).apply entries =
      .ok (Entries.insert name (.file content) entries) := by
    simp only [Change.putFile]
    split
    · rename_i siblings there
      rw [← @node?_child_of_directory fs directory name named entries found] at there
      exact absurd (occupant?_eq_directory_iff.mpr ⟨siblings, there⟩) free
    · rfl
  rw [writeAt_of_encoded encoded]
  exact alter_of_insert found put (by simp) free

end Writing

section Making

theorem makeDirectoryAt_child : fs.makeDirectoryAt (directory.child name named) =
    fs.alter (.putDirectory (directory.child name named) ⟨name, named⟩) directory := by
  simp only [makeDirectoryAt, Path.split?_child]

theorem makeDirectoryAt_of_no_directory
    (no_directory : fs.occupant? directory ≠ some .directory) :
    fs.makeDirectoryAt (directory.child name named) =
      .error (fs.occupant?.obstruction directory) := by
  rw [makeDirectoryAt_child, alter_of_no_directory no_directory]

theorem makeDirectoryAt_of_occupied
    (occupied : fs.occupant? (directory.child name named) ≠ none) :
    fs.makeDirectoryAt (directory.child name named) =
      .error (.alreadyExists (directory.child name named)) := by
  obtain ⟨entries, found⟩ := occupant?_eq_directory_iff.mp (directory_of_occupied occupied)
  obtain ⟨node, here⟩ := Option.ne_none_iff_exists'.mp (mt occupant?_eq_none_iff.mpr occupied)
  rw [node?_child_of_directory found] at here
  rw [makeDirectoryAt_child]
  exact alter_of_refusal found (by simp [Change.putDirectory, here])

/-- A directory is made where its directory is and nothing is in its place; the view changes at
that path alone. -/
theorem makeDirectoryAt_ok (lead : fs.occupant? directory = some .directory)
    (free : fs.occupant? (directory.child name named) = none) :
    ∃ left, fs.makeDirectoryAt (directory.child name named) = .ok left ∧
      left.workingDirectory = fs.workingDirectory ∧
      ∀ other, left.occupant? other =
        if other = directory.child name named then some .directory else fs.occupant? other := by
  obtain ⟨entries, found⟩ := occupant?_eq_directory_iff.mp lead
  have put : (Change.putDirectory (directory.child name named) ⟨name, named⟩).apply entries =
      .ok (Entries.insert name (.directory []) entries) := by
    have absent := occupant?_eq_none_iff.mp free
    rw [node?_child_of_directory found] at absent
    simp [Change.putDirectory, absent]
  rw [makeDirectoryAt_child]
  exact alter_of_insert found put (by simp [Node.at?_directory_cons, Entries.find?])
    (by simp [free])

end Making
end Changes
end FileSystem
end Workbench
