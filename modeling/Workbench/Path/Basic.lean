import Workbench.Text.Pieces

/-!
# Canonical absolute paths

A path lists the names that lead from the root to an entry. Every name is ordinary, so `.` and `..`
never occur and two paths are equal exactly when their texts are. Text becomes a path by
resolution against a base: empty pieces and `.` are dropped, and `..` removes the last name, or
nothing at the root.
-/

namespace Workbench

/-- A name under which a directory can hold an entry. -/
def IsName (name : String) : Prop :=
  name ≠ "" ∧ name ≠ "." ∧ name ≠ ".." ∧ '/' ∉ name.toList

instance (name : String) : Decidable (IsName name) := by
  unfold IsName
  infer_instance

/-- A canonical absolute path. -/
structure Path where
  /-- The names from the root to the entry. -/
  names : List String
  /-- Every name is ordinary. -/
  ordinary : ∀ name ∈ names, IsName name
deriving DecidableEq

namespace Path

/-- The path of the root directory. -/
def root : Path := ⟨[], by simp⟩

instance : Inhabited Path := ⟨root⟩

/-- The path of the entry `name` in the directory at `path`. -/
def child (path : Path) (name : String) (named : IsName name) : Path where
  names := path.names ++ [name]
  ordinary := by
    intro other member
    rcases List.mem_append.1 member with before | last
    · exact path.ordinary other before
    · simpa [List.mem_singleton.1 last] using named

/-- The path made of the first `count` names. -/
def take (path : Path) (count : Nat) : Path :=
  ⟨path.names.take count, fun name member => path.ordinary name (List.mem_of_mem_take member)⟩

/-- The path without its last name; the root stays. -/
def dropLast (path : Path) : Path := path.take (path.names.length - 1)

/-- The path of the containing directory together with the name in it; the root has neither. -/
def split? (path : Path) : Option (Path × { name : String // IsName name }) :=
  match found : path.names.getLast? with
  | none => none
  | some name => some (path.dropLast, ⟨name, path.ordinary name (List.mem_of_getLast? found)⟩)

/-- The path of the containing directory; the root has none. -/
def parent? (path : Path) : Option Path := path.split?.map (·.1)

/-- One step along a piece of a path text. -/
def step (path : Path) (piece : String) : Path :=
  if named : IsName piece then path.child piece named
  else if piece = ".." then path.dropLast
  else path

/-- Follows the pieces of a path text from `path`. -/
def walk (path : Path) (text : String) : Path :=
  (Text.pieces '/' text.toList).foldl (fun reached piece => reached.step (String.ofList piece)) path

/-- The text can be read as a path: it is not empty and holds no NUL. -/
def IsReadable (text : String) : Prop := text ≠ "" ∧ '\x00' ∉ text.toList

instance (text : String) : Decidable (IsReadable text) := by
  unfold IsReadable
  infer_instance

/-- The path that `text` means in the directory `base`: from the root when it starts with a slash.
Unreadable text means none. -/
def resolve? (base : Path) (text : String) : Option Path :=
  if IsReadable text then
    some (if text.toList.head? = some '/' then root.walk text else base.walk text)
  else none

/-- The path as text: a slash before every name, and a single slash for the root. -/
def text (path : Path) : String :=
  if path.names = [] then "/"
  else String.ofList (path.names.flatMap fun name => '/' :: name.toList)

instance : ToString Path := ⟨text⟩

/-- The path as text that names can be appended to: it ends with a slash. -/
def directoryText (path : Path) : String :=
  if path.names = [] then "/" else path.text ++ "/"

/-- The path and the paths above it, from the path itself up to the root. -/
def upward (path : Path) : List Path :=
  (List.range (path.names.length + 1)).reverse.map path.take

end Path
end Workbench
