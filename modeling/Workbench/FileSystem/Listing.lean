import Workbench.FileSystem.Basic
import Workbench.Glob.Match

/-!
# Listing files

All nodes below the root, each directory before its entries and the entries in name order. And all
files below a directory that pass a filter of extensions, glob patterns and depth, in the order of
their paths. A pattern that starts with a slash speaks of absolute paths, any other of paths as seen
from the directory. Unreadable patterns are left out of the filter.
-/

namespace Workbench

/-! ## Everything in a file system -/

namespace Node

mutual

/-- The nodes below a node, with their paths. -/
def descendants (walked : Path) : Node → List (Path × Node)
  | .file _ => []
  | .directory entries => descendantsOf walked entries

/-- The nodes of a list of entries and the nodes below them. -/
def descendantsOf (walked : Path) : List (String × Node) → List (Path × Node)
  | [] => []
  | entry :: rest => descendantsThrough walked entry ++ descendantsOf walked rest

/-- The node of one entry and the nodes below it. -/
def descendantsThrough (walked : Path) : String × Node → List (Path × Node)
  | (name, node) => (walked.step name, node) :: descendants (walked.step name) node

end

end Node

namespace FileSystem

/-- Every node below the root with its path. -/
def nodes (fs : FileSystem) : List (Path × Node) := fs.tree.descendants .root

end FileSystem

/-! ## The files that pass a filter -/

/-- Which files of a directory are listed. -/
structure DirectoryFilter where
  /-- Endings of file names; without any, every name passes. -/
  extensions : List String := []
  /-- Patterns of which a file has to match one, if any of them can be read. -/
  included : List String := []
  /-- Patterns that no listed file matches, nor a directory on the way to it. -/
  excluded : List String := []
  /-- How many directories may lie between, if that is limited. -/
  depth : Option Nat := none
deriving DecidableEq, Repr

instance : Inhabited DirectoryFilter := ⟨{}⟩

/-- A pattern of paths. -/
structure PathPattern where
  /-- The pattern. -/
  pattern : Glob.Pattern
  /-- It speaks of absolute paths. -/
  absolute : Bool
deriving DecidableEq, Repr

namespace PathPattern

/-- Reads a pattern of paths. -/
def read? (text : String) : Option PathPattern :=
  (Glob.Pattern.read? text).map fun pattern => ⟨pattern, text.toList.head? = some '/'⟩

/-- The pattern matches the absolute or the relative path, whichever it speaks of. -/
def covers (pattern : PathPattern) (absolute relative : String) : Bool :=
  pattern.pattern.covers (if pattern.absolute then absolute else relative)

end PathPattern

/-- A filter with its patterns read. -/
structure ListingRules where
  /-- Endings of file names. -/
  extensions : List String
  /-- Patterns of which a file has to match one, if there are any. -/
  included : List PathPattern
  /-- Patterns that nothing listed matches. -/
  excluded : List PathPattern
  /-- How many directories may lie between. -/
  depth : Option Nat
deriving DecidableEq, Repr

/-- Reads the patterns of a filter. -/
def DirectoryFilter.rules (filter : DirectoryFilter) : ListingRules where
  extensions := filter.extensions
  included := filter.included.filterMap PathPattern.read?
  excluded := filter.excluded.filterMap PathPattern.read?
  depth := filter.depth

namespace ListingRules

/-- A place below the listed directory: its path and the names from the directory to it. -/
structure Place where
  /-- Absolute path. -/
  path : Path
  /-- The names from the listed directory. -/
  names : List String

namespace Place

/-- The place of an entry. -/
def enter (place : Place) (name : String) : Place := ⟨place.path.step name, place.names ++ [name]⟩

/-- The path as seen from the listed directory. -/
def relative (place : Place) : String := String.intercalate "/" place.names

end Place

/-- Some pattern excludes the place. -/
def excludes (rules : ListingRules) (place : Place) : Bool :=
  rules.excluded.any (·.covers place.path.text place.relative)

/-- A file of the name at the place is listed. -/
def keeps (rules : ListingRules) (place : Place) (name : String) : Bool :=
  (rules.extensions.isEmpty || rules.extensions.any (·.toList.isSuffixOf name.toList)) &&
    (rules.included.isEmpty ||
      rules.included.any (·.covers place.path.text place.relative)) &&
    !rules.excludes place

/-- The directory at the place is looked into. -/
def enters (rules : ListingRules) (place : Place) : Bool :=
  (match rules.depth with
  | none => true
  | some depth => place.names.length ≤ depth) &&
    !rules.excludes place

mutual

/-- The paths of the listed files below a node. -/
def below (rules : ListingRules) (place : Place) : Node → List String
  | .file _ => []
  | .directory entries => belowEntries rules place entries

/-- The paths of the listed files among entries and below them. -/
def belowEntries (rules : ListingRules) (place : Place) : List (String × Node) → List String
  | [] => []
  | entry :: rest => belowEntry rules place entry ++ belowEntries rules place rest

/-- The paths of the listed files at an entry and below it. -/
def belowEntry (rules : ListingRules) (place : Place) : String × Node → List String
  | (name, .file _) =>
    if rules.keeps (place.enter name) name then [(place.enter name).path.text] else []
  | (name, .directory entries) =>
    if rules.enters (place.enter name) then belowEntries rules (place.enter name) entries else []

end

end ListingRules

/-- The absolute paths of the files below the directory at `root` that pass the filter, in
ascending order; none if there is no such directory. -/
def FileSystem.files (fs : FileSystem) (root : String) (filter : DirectoryFilter) : List String :=
  match fs.resolve root with
  | .error _ => []
  | .ok path =>
    match fs.node? path with
    | none => []
    | some node => (filter.rules.below ⟨path, []⟩ node).mergeSort fun left right => left ≤ right

end Workbench
