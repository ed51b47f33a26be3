import Mathlib.Data.List.Nodup
import Workbench.FileSystem.Listing
import Workbench.Proofs.FileSystem.View
import Workbench.Proofs.Path.Resolution

/-!
# What a listing contains

A listing walks down from a directory, leaves out whole directories on the way and sorts what it
finds. Whether a file is in it can be told from the file alone: by its name, by its path, and by the
paths of the directories between.
-/

namespace Workbench

/-! ## Filters -/

namespace Path

variable {directory path : Path}

/-- The directories between a directory and something below it, neither of them included. -/
def between (directory path : Path) : List Path :=
  path.upward.filter fun upper => directory < upper ∧ upper < path

/-- The path as seen from the directory. -/
def relative (directory path : Path) : String :=
  String.intercalate "/" (path.names.drop directory.names.length)

theorem mem_between {upper : Path} :
    upper ∈ between directory path ↔ directory < upper ∧ upper < path := by
  simp only [between, List.mem_filter, mem_upward, decide_eq_true_eq]
  constructor
  · exact fun member => member.2
  · exact fun order => ⟨order.2.le, order⟩

/-- There are as many paths below a directory on the way to a path as the path has more names. -/
theorem length_filter_upward (below : directory ≤ path) :
    (path.upward.filter fun upper => directory < upper).length + directory.names.length =
      path.names.length := by
  induction path using Path.induction with
  | root =>
      obtain rfl := le_root_iff.mp below
      simp [upward_root]
  | child above name named induction =>
      rw [upward_child]
      rcases le_child_iff.mp below with rfl | further
      · have none_below : ∀ upper ∈ above.upward, ¬above.child name named < upper := by
          intro upper member
          exact not_lt_of_ge ((mem_upward.mp member).trans (le_child above name named))
        simpa using none_below
      · have here : directory < above.child name named := lt_child_iff.mpr further
        have rest := induction further
        simp only [List.filter_cons, here, decide_true, if_true, List.length_cons, names_child,
          List.length_append, List.length_nil]
        omega

theorem length_between (below : directory < path) :
    (between directory path).length + directory.names.length + 1 = path.names.length := by
  rcases path.eq_root_or_child with rfl | ⟨above, name, named, rfl⟩
  · exact absurd below (not_lt_of_ge (root_le directory))
  · have same : between directory (above.child name named) =
        above.upward.filter fun upper => directory < upper := by
      rw [between, upward_child, List.filter_cons_of_neg (by simp)]
      refine List.filter_congr fun upper member => ?_
      have strictly : upper < above.child name named := lt_child_iff.mpr (mem_upward.mp member)
      simp [strictly]
    have count := length_filter_upward (lt_child_iff.mp below)
    rw [same, names_child, List.length_append, List.length_singleton]
    omega

end Path

namespace DirectoryFilter

variable {filter : DirectoryFilter} {directory file : Path}

/-- The text is a pattern and matches the path, as a whole if the pattern starts with a slash and
as seen from the directory if not. -/
def Covers (text : String) (directory path : Path) : Prop :=
  ∃ pattern, Glob.Pattern.read? text = some pattern ∧
    pattern.covers (if text.toList.head? = some '/' then path.text else directory.relative path)

/-- What a filter demands of a file below the directory. -/
structure Admits (filter : DirectoryFilter) (directory file : Path) : Prop where
  /-- Not too many directories are between. -/
  near : ∀ depth, filter.depth = some depth → (directory.between file).length ≤ depth
  /-- The name of the file ends as it should. -/
  ending : filter.extensions = [] ∨ ∃ extension ∈ filter.extensions, ∃ name,
    file.names.getLast? = some name ∧ extension.toList <:+ name.toList
  /-- Some pattern covers the file, if there is a pattern. -/
  included : (∀ text ∈ filter.included, Glob.Pattern.read? text = none) ∨
    ∃ text ∈ filter.included, Covers text directory file
  /-- No pattern covers the file or a directory between. -/
  excluded : ∀ text ∈ filter.excluded, ¬Covers text directory file ∧
    ∀ path ∈ directory.between file, ¬Covers text directory path

end DirectoryFilter

namespace ListingRules

/-- The place of a path below the listed directory. -/
def placeOf (directory path : Path) : Place := ⟨path, path.names.drop directory.names.length⟩

variable {directory here : Path} {rules : ListingRules} {fs : FileSystem} {text : String}

@[simp] theorem path_placeOf (directory path : Path) : (placeOf directory path).path = path := rfl

@[simp] theorem relative_placeOf (directory path : Path) :
    (placeOf directory path).relative = directory.relative path := rfl

theorem enter_placeOf (way : directory ≤ here) {name : String} (named : IsName name) :
    (placeOf directory here).enter name = placeOf directory (here.child name named) := by
  have front : directory.names.length ≤ here.names.length := way.length_le
  simp [placeOf, Place.enter, named, List.drop_append_of_le_length front]

/-- The walk gets from one path to a file further down and lists it. -/
def Reaches (rules : ListingRules) (directory here file : Path) : Prop :=
  (∀ upper, here < upper → upper < file → rules.enters (placeOf directory upper) = true) ∧
    ∃ name, file.names.getLast? = some name ∧ rules.keeps (placeOf directory file) name = true

theorem belowEntries_eq (rules : ListingRules) (place : Place) (entries : List (String × Node)) :
    rules.belowEntries place entries = entries.flatMap (rules.belowEntry place) := by
  induction entries with
  | nil => simp [belowEntries]
  | cons entry rest induction => rw [belowEntries, induction, List.flatMap_cons]

variable {name : String} {named : IsName name} {file : Path}

theorem reaches_child_iff : rules.Reaches directory here (here.child name named) ↔
    rules.keeps (placeOf directory (here.child name named)) name = true := by
  constructor
  · rintro ⟨_, last, last_eq, kept⟩
    obtain rfl : name = last := by simpa using last_eq
    exact kept
  · intro kept
    refine ⟨fun upper below above => ?_, name, by simp, kept⟩
    exact absurd below (not_lt_of_ge (Path.lt_child_iff.mp above))

/-- A file further down is reached from a directory if the walk enters the next one on the way, and
reaches it from there. -/
theorem reaches_iff_of_child_lt (leads : here.child name named < file) :
    rules.Reaches directory here file ↔
      rules.enters (placeOf directory (here.child name named)) = true ∧
        rules.Reaches directory (here.child name named) file := by
  have below_child : here < here.child name named := Path.lt_child_iff.mpr le_rfl
  constructor
  · rintro ⟨way, kept⟩
    exact ⟨way _ below_child leads, fun upper below above =>
      way upper (below_child.trans below) above, kept⟩
  · rintro ⟨entered, way, kept⟩
    refine ⟨fun upper below above => ?_, kept⟩
    rcases Path.le_total_of_le above.le leads.le with shorter | longer
    · rcases Path.le_child_iff.mp shorter with rfl | back
      · exact entered
      · exact absurd below (not_lt_of_ge back)
    · rcases longer.eq_or_lt with rfl | further
      · exact entered
      · exact way upper further above

theorem mem_belowEntry_file (way : directory ≤ here) {content : ByteArray} :
    text ∈ rules.belowEntry (placeOf directory here) (name, .file content) ↔
      rules.keeps (placeOf directory (here.child name named)) name = true ∧
        text = (here.child name named).text := by
  simp only [belowEntry, enter_placeOf way named]
  split <;> simp_all

theorem belowEntry_directory (way : directory ≤ here) (named : IsName name)
    (more : List (String × Node)) :
    rules.belowEntry (placeOf directory here) (name, .directory more) =
      if rules.enters (placeOf directory (here.child name named)) then
        rules.below (placeOf directory (here.child name named)) (.directory more)
      else [] := by
  simp only [belowEntry, enter_placeOf way named, below]

theorem mem_belowEntry_directory (way : directory ≤ here) {more : List (String × Node)} :
    text ∈ rules.belowEntry (placeOf directory here) (name, .directory more) ↔
      rules.enters (placeOf directory (here.child name named)) = true ∧
        text ∈ rules.below (placeOf directory (here.child name named)) (.directory more) := by
  rw [belowEntry_directory way named more]
  split <;> simp_all

theorem mem_below {node : Node} (sound : node.Sound) (found : fs.node? here = some node)
    (way : directory ≤ here) : text ∈ rules.below (placeOf directory here) node ↔
      ∃ file, here < file ∧ Occupant.IsFile (fs.occupant? file) ∧
        rules.Reaches directory here file ∧ text = file.text := by
  induction sound generalizing here with
  | file content =>
      have nothing : ∀ file, here < file → ¬Occupant.IsFile (fs.occupant? file) := by
        intro file below
        have here_eq := FileSystem.occupant?_eq_file_iff.mpr found
        rw [fs.coherent.eq_none_of_lt below (by simp [here_eq])]
        exact id
      simp only [below, List.not_mem_nil, false_iff, not_exists, not_and]
      exact fun file below isFile => absurd isFile (nothing file below)
  | directory entries ascending ordinary _ induction =>
      have child_eq : ∀ name (named : IsName name), fs.node? (here.child name named) =
          Entries.find? name entries := fun name named => FileSystem.node?_child_of_directory found
      have leads_child : ∀ name (named : IsName name), directory ≤ here.child name named :=
        fun name named => way.trans (Path.le_child here name named)
      rw [below, belowEntries_eq, List.mem_flatMap]
      constructor
      · rintro ⟨⟨name, node⟩, member, listed⟩
        have named := ordinary (name, node) member
        have strictly : here < here.child name named := Path.lt_child_iff.mpr le_rfl
        have there : fs.node? (here.child name named) = some node := by
          rw [child_eq, Entries.find?_of_mem ascending member]
        cases node with
        | file content =>
            have isFile := Occupant.isFile_iff.mpr
              ⟨content, FileSystem.occupant?_eq_file_iff.mpr there⟩
            obtain ⟨kept, text_eq⟩ := (mem_belowEntry_file way).mp listed
            exact ⟨_, strictly, isFile, reaches_child_iff.mpr kept, text_eq⟩
        | directory more =>
            obtain ⟨entered, listed⟩ := (mem_belowEntry_directory way).mp listed
            obtain ⟨file, further, isFile, reached, text_eq⟩ :=
              (induction _ member there (leads_child name named)).mp listed
            exact ⟨file, strictly.trans further, isFile,
              (reaches_iff_of_child_lt further).mpr ⟨entered, reached⟩, text_eq⟩
      · rintro ⟨file, strictly, isFile, reached, text_eq⟩
        obtain ⟨name, named, leads⟩ := Path.exists_child_le_of_lt strictly
        rcases leads.eq_or_lt with rfl | further
        · obtain ⟨content, content_eq⟩ := Occupant.isFile_iff.mp isFile
          have there := FileSystem.occupant?_eq_file_iff.mp content_eq
          rw [child_eq] at there
          exact ⟨(name, .file content), Entries.mem_of_find? there,
            (mem_belowEntry_file way).mpr ⟨reaches_child_iff.mp reached, text_eq⟩⟩
        · have occupied : fs.occupant? file ≠ none := by
            intro empty
            simp [empty, Occupant.IsFile] at isFile
          obtain ⟨more, there⟩ := FileSystem.occupant?_eq_directory_iff.mp
            (fs.coherent.directory_of_lt further occupied)
          obtain ⟨entered, reached'⟩ := (reaches_iff_of_child_lt further).mp reached
          have member : (name, Node.directory more) ∈ entries :=
            Entries.mem_of_find? (child_eq name named ▸ there)
          have listed := (induction _ member there (leads_child name named)).mpr
            ⟨file, further, isFile, reached', text_eq⟩
          exact ⟨(name, .directory more), member,
            (mem_belowEntry_directory way).mpr ⟨entered, listed⟩⟩

theorem exists_of_mem_belowEntry {node : Node} (sound : node.Sound)
    (found : fs.node? (here.child name named) = some node) (way : directory ≤ here)
    (listed : text ∈ rules.belowEntry (placeOf directory here) (name, node)) :
    ∃ file, here.child name named ≤ file ∧ text = file.text := by
  cases node with
  | file content => exact ⟨_, le_rfl, ((mem_belowEntry_file way).mp listed).2⟩
  | directory more =>
      have way' : directory ≤ here.child name named := way.trans (Path.le_child here name named)
      obtain ⟨file, further, _, _, text_eq⟩ :=
        (mem_below sound found way').mp ((mem_belowEntry_directory way).mp listed).2
      exact ⟨file, further.le, text_eq⟩

theorem nodup_below {node : Node} (sound : node.Sound) (found : fs.node? here = some node)
    (way : directory ≤ here) : (rules.below (placeOf directory here) node).Nodup := by
  induction sound generalizing here with
  | file content => simp [below]
  | directory entries ascending ordinary sound_below induction =>
      have child_eq : ∀ entry (member : entry ∈ entries),
          fs.node? (here.child entry.1 (ordinary entry member)) = some entry.2 := by
        intro entry member
        rw [FileSystem.node?_child_of_directory found, Entries.find?_of_mem ascending member]
      rw [below, belowEntries_eq, List.nodup_flatMap]
      constructor
      · rintro ⟨name, node⟩ member
        have named := ordinary (name, node) member
        cases node with
        | file content =>
            simp only [belowEntry]
            split <;> simp
        | directory more =>
            rw [belowEntry_directory way named more]
            split
            next => exact induction _ member (child_eq _ member) (way.trans (Path.le_child _ _ _))
            next => exact List.nodup_nil
      · refine ascending.imp_of_mem fun {left right} left_mem right_mem order => ?_
        intro text in_left in_right
        obtain ⟨file, left_le, text_eq⟩ := exists_of_mem_belowEntry (sound_below left left_mem)
          (child_eq left left_mem) way in_left
        obtain ⟨other, right_le, text_eq'⟩ := exists_of_mem_belowEntry (sound_below right right_mem)
          (child_eq right right_mem) way in_right
        obtain rfl := Path.text_injective (text_eq.symm.trans text_eq')
        have distinct : left.1 ≠ right.1 := fun same =>
          absurd (same ▸ order) (String.lt_irrefl right.1)
        have apart : (here.child left.1 _).Apart (here.child right.1 _) :=
          Path.apart_child (ordinary left left_mem) (ordinary right right_mem) distinct
        exact (Path.le_total_of_le left_le right_le).elim apart.1 apart.2

/-! ## Filters and rules -/

variable {filter : DirectoryFilter} {patterns : List String} {path : Path}

theorem any_covers_iff : (patterns.filterMap PathPattern.read?).any
      (·.covers path.text (directory.relative path)) = true ↔
    ∃ text ∈ patterns, DirectoryFilter.Covers text directory path := by
  simp only [List.any_eq_true, List.mem_filterMap, PathPattern.read?, Option.map_eq_some_iff]
  constructor
  · rintro ⟨_, ⟨text, member, pattern, read, rfl⟩, covers⟩
    refine ⟨text, member, pattern, read, ?_⟩
    simpa [PathPattern.covers] using covers
  · rintro ⟨text, member, pattern, read, covers⟩
    refine ⟨_, ⟨text, member, pattern, read, rfl⟩, ?_⟩
    simpa [PathPattern.covers] using covers

theorem excludes_eq_false_iff : filter.rules.excludes (placeOf directory path) = false ↔
    ∀ text ∈ filter.excluded, ¬DirectoryFilter.Covers text directory path := by
  rw [Bool.eq_false_iff, Ne, excludes, DirectoryFilter.rules, path_placeOf, relative_placeOf,
    any_covers_iff]
  simp

theorem isEmpty_filterMap_iff : (patterns.filterMap PathPattern.read?).isEmpty = true ↔
    ∀ text ∈ patterns, Glob.Pattern.read? text = none := by
  simp [PathPattern.read?]

theorem enters_iff : filter.rules.enters (placeOf directory path) = true ↔
    (∀ depth, filter.depth = some depth →
      path.names.length ≤ directory.names.length + depth) ∧
    ∀ text ∈ filter.excluded, ¬DirectoryFilter.Covers text directory path := by
  rw [enters, Bool.and_eq_true, Bool.not_eq_true', excludes_eq_false_iff]
  refine and_congr_left fun _ => ?_
  cases depth_eq : filter.depth with
  | none => simp [DirectoryFilter.rules, depth_eq]
  | some depth => simp [DirectoryFilter.rules, depth_eq, placeOf, Nat.add_comm]

theorem keeps_iff : filter.rules.keeps (placeOf directory path) name = true ↔
    (filter.extensions = [] ∨ ∃ extension ∈ filter.extensions,
      extension.toList <:+ name.toList) ∧
    ((∀ text ∈ filter.included, Glob.Pattern.read? text = none) ∨
      ∃ text ∈ filter.included, DirectoryFilter.Covers text directory path) ∧
    ∀ text ∈ filter.excluded, ¬DirectoryFilter.Covers text directory path := by
  rw [keeps, Bool.and_eq_true, Bool.and_eq_true, Bool.not_eq_true', excludes_eq_false_iff,
    Bool.or_eq_true, Bool.or_eq_true, and_assoc]
  refine and_congr ?_ (and_congr_left fun _ => or_congr ?_ ?_)
  · simp [DirectoryFilter.rules]
  · exact isEmpty_filterMap_iff
  · exact any_covers_iff

/-- The walk from the listed directory reaches what the filter admits. -/
theorem reaches_iff_admits (below : directory < file) :
    filter.rules.Reaches directory directory file ↔ filter.Admits directory file := by
  have count := Path.length_between below
  constructor
  · rintro ⟨way, name, name_eq, kept⟩
    obtain ⟨ending, included, not_covered⟩ := keeps_iff.mp kept
    refine ⟨fun depth depth_eq => ?_, ?_, included, fun text listed => ?_⟩
    · obtain ⟨above, last, named, rfl⟩ :=
        file.eq_root_or_child.resolve_left fun at_root =>
          absurd (at_root ▸ below) (not_lt_of_ge (Path.root_le directory))
      rcases (Path.lt_child_iff.mp below).eq_or_lt with rfl | further
      · simp only [Path.names_child, List.length_append, List.length_singleton] at count
        omega
      · have entered := way above further (Path.lt_child_iff.mpr le_rfl)
        have bound := (enters_iff.mp entered).1 depth depth_eq
        simp only [Path.names_child, List.length_append, List.length_singleton] at count
        omega
    · rcases ending with empty | ⟨extension, listed, ends⟩
      · exact .inl empty
      · exact .inr ⟨extension, listed, name, name_eq, ends⟩
    · refine ⟨not_covered text listed, fun path member => ?_⟩
      obtain ⟨after, before⟩ := Path.mem_between.mp member
      exact (enters_iff.mp (way path after before)).2 text listed
  · intro admits
    obtain ⟨above, last, named, rfl⟩ :=
      file.eq_root_or_child.resolve_left fun at_root =>
        absurd (at_root ▸ below) (not_lt_of_ge (Path.root_le directory))
    refine ⟨fun upper after before => enters_iff.mpr ⟨?_, ?_⟩, last, by simp, keeps_iff.mpr ?_⟩
    · intro depth depth_eq
      have bound := admits.near depth depth_eq
      have shorter := (Path.lt_child_iff.mp before).length_le
      simp only [Path.names_child, List.length_append, List.length_singleton] at count
      omega
    · exact fun text listed =>
        (admits.excluded text listed).2 upper (Path.mem_between.mpr ⟨after, before⟩)
    · refine ⟨?_, admits.included, fun text listed => (admits.excluded text listed).1⟩
      rcases admits.ending with empty | ⟨extension, listed, name, name_eq, ends⟩
      · exact .inl empty
      · obtain rfl : last = name := by simpa using name_eq
        exact .inr ⟨extension, listed, ends⟩

end ListingRules

namespace FileSystem

variable {fs : FileSystem} {root : String} {filter : DirectoryFilter}

theorem files_of_resolve {directory : Path} {node : Node}
    (resolved : fs.resolve root = .ok directory) (found : fs.node? directory = some node) :
    fs.files root filter = (filter.rules.below (ListingRules.placeOf directory directory)
      node).mergeSort fun left right => left ≤ right := by
  simp [files, resolved, found, ListingRules.placeOf]

theorem files_of_no_node (absent : ∀ directory, fs.resolve root = .ok directory →
    fs.node? directory = none) : fs.files root filter = [] := by
  cases resolved : fs.resolve root with
  | error cause => simp [files, resolved]
  | ok directory => simp [files, resolved, absent directory resolved]

theorem node_or_no_node (fs : FileSystem) (root : String) :
    (∃ directory node, fs.resolve root = .ok directory ∧ fs.node? directory = some node) ∨
      ∀ directory, fs.resolve root = .ok directory → fs.node? directory = none := by
  cases resolved : fs.resolve root with
  | error cause => exact .inr fun directory impossible => nomatch impossible
  | ok directory =>
      cases found : fs.node? directory with
      | some node => exact .inl ⟨directory, node, rfl, found⟩
      | none =>
          refine .inr fun other same => ?_
          obtain rfl := Except.ok.inj same
          exact found

theorem mem_files {text : String} : text ∈ fs.files root filter ↔ ∃ directory file,
    fs.resolve root = .ok directory ∧ directory < file ∧ Occupant.IsFile (fs.occupant? file) ∧
      filter.Admits directory file ∧ text = file.text := by
  rcases fs.node_or_no_node root with ⟨directory, node, resolved, found⟩ | absent
  · rw [files_of_resolve resolved found, List.mem_mergeSort,
      ListingRules.mem_below (node?_sound found) found le_rfl]
    constructor
    · rintro ⟨file, below, isFile, reached, text_eq⟩
      have admits := (ListingRules.reaches_iff_admits below).mp reached
      exact ⟨directory, file, resolved, below, isFile, admits, text_eq⟩
    · rintro ⟨other, file, resolved', below, isFile, admits, text_eq⟩
      obtain rfl := Except.ok.inj (resolved.symm.trans resolved')
      have reached := (ListingRules.reaches_iff_admits below).mpr admits
      exact ⟨file, below, isFile, reached, text_eq⟩
  · rw [files_of_no_node absent]
    refine iff_of_false List.not_mem_nil ?_
    rintro ⟨directory, file, resolved, below, isFile, _⟩
    have empty := occupant?_eq_none_iff.mpr (absent directory resolved)
    rw [fs.coherent.eq_none_of_lt below (by simp [empty])] at isFile
    exact isFile

theorem files_ascending (fs : FileSystem) (root : String) (filter : DirectoryFilter) :
    (fs.files root filter).Pairwise (· < ·) := by
  rcases fs.node_or_no_node root with ⟨directory, node, resolved, found⟩ | absent
  · rw [files_of_resolve resolved found]
    have once : (filter.rules.below (ListingRules.placeOf directory directory) node).Nodup :=
      ListingRules.nodup_below (node?_sound found) found le_rfl
    have distinct := (List.mergeSort_perm _ fun left right : String =>
      decide (left ≤ right)).nodup_iff.mpr once
    have sorted : ((filter.rules.below (ListingRules.placeOf directory directory) node).mergeSort
        fun left right => left ≤ right).Pairwise fun left right => decide (left ≤ right) = true := by
      apply List.pairwise_mergeSort
      · intro first second third
        simpa using String.le_trans
      · intro first second
        simpa using String.le_total first second
    refine (sorted.and distinct).imp fun {left right} order => ?_
    by_contra not_before
    exact order.2 (String.le_antisymm (of_decide_eq_true order.1) (String.not_lt.mp not_before))
  · rw [files_of_no_node absent]
    exact List.Pairwise.nil

/-- A listing holds the paths of the files below the directory that the filter admits, each once and
in ascending order. Where there is no directory it is empty. -/
theorem files_eq_admitted (fs : FileSystem) (root : String) (filter : DirectoryFilter) :
    (fs.files root filter).Pairwise (· < ·) ∧
    (∀ text, text ∈ fs.files root filter ↔ ∃ directory file, fs.resolve root = .ok directory ∧
      directory < file ∧ Occupant.IsFile (fs.occupant? file) ∧ filter.Admits directory file ∧
      text = file.text) ∧
    ((∀ directory, fs.resolve root = .ok directory →
      fs.occupant? directory ≠ some .directory) → fs.files root filter = []) := by
  refine ⟨files_ascending fs root filter, fun text => mem_files, fun nowhere => ?_⟩
  rw [List.eq_nil_iff_forall_not_mem]
  intro text listed
  obtain ⟨directory, file, resolved, below, isFile, _⟩ := mem_files.mp listed
  rw [fs.coherent.eq_none_of_lt below (nowhere directory resolved)] at isFile
  exact isFile

end FileSystem
end Workbench
