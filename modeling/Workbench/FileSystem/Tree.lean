import Workbench.FileSystem.Error
import Workbench.NameTable

/-!
# The file tree

A node is a file with its bytes or a directory with its entries in name order. Looking up follows a
list of names; `alter` replaces the entries of one directory and rebuilds the way to it. A tree is
sound when every directory in it lists ordinary names in ascending order, and altering keeps it so
(`Node.Sound.alter`).
-/

namespace Workbench

/-- A file or a directory. -/
inductive Node where
  /-- A file with its content. -/
  | file (content : ByteArray)
  /-- A directory with its entries in name order. -/
  | directory (entries : List (String × Node))

namespace Node

/-- What the node is. -/
def kind : Node → NodeKind
  | file _ => .file
  | directory _ => .directory

/-- Content length in bytes; directories count none. -/
def size : Node → Nat
  | file content => content.size
  | directory _ => 0

/-- The node that the names lead to. -/
def at? : Node → List String → Option Node
  | node, [] => some node
  | file _, _ :: _ => none
  | directory entries, name :: rest =>
    match Entries.find? name entries with
    | none => none
    | some child => child.at? rest

/-- Replaces the entries of the directory that the names lead to by what `change` makes of them.
A file on the way is a conflict at the path walked so far; a missing name is reported for the whole
path `goal`. -/
def alter (change : List (String × Node) → Except FileError (List (String × Node)))
    (goal walked : Path) : Node → List String → Except FileError Node
  | file _, _ => .error (.typeConflict walked .directory)
  | directory entries, [] => (change entries).map directory
  | directory entries, name :: rest =>
    match Entries.find? name entries with
    | none => .error (.notFound goal)
    | some child =>
      (child.alter change goal (walked.step name) rest).map fun altered =>
        directory (Entries.insert name altered entries)

theorem kind_alter {change : List (String × Node) → Except FileError (List (String × Node))}
    {goal walked : Path} {node altered : Node} {names : List String}
    (success : node.alter change goal walked names = .ok altered) : altered.kind = .directory := by
  cases node with
  | file content => simp [alter] at success
  | directory entries =>
    cases names with
    | nil =>
      cases outcome : change entries <;> simp [alter, outcome, Except.map] at success
      simp [← success, kind]
    | cons name rest =>
      rw [alter] at success
      split at success
      · simp at success
      · rename_i child found
        cases outcome : child.alter change goal (walked.step name) rest <;>
          simp [outcome, Except.map] at success
        simp [← success, kind]

/-- Every directory lists ordinary names in ascending order. -/
inductive Sound : Node → Prop
  | file (content : ByteArray) : Sound (.file content)
  | directory (entries : List (String × Node)) (ascending : Entries.Ascending entries)
      (named : ∀ entry ∈ entries, IsName entry.1) (below : ∀ entry ∈ entries, Sound entry.2) :
      Sound (.directory entries)

namespace Sound

theorem empty : Sound (.directory []) :=
  .directory [] Entries.ascending_nil (by simp) (by simp)

theorem insert {entries : List (String × Node)} (sound : Sound (.directory entries))
    {name : String} (named : IsName name) {node : Node} (sound_node : Sound node) :
    Sound (.directory (Entries.insert name node entries)) := by
  cases sound with
  | directory _ ascending names below =>
    refine .directory _ (ascending.insert name node) ?_ ?_ <;> intro entry member
    · rcases Entries.mem_insert member with rfl | old
      · exact named
      · exact names entry old
    · rcases Entries.mem_insert member with rfl | old
      · exact sound_node
      · exact below entry old

theorem alter {change : List (String × Node) → Except FileError (List (String × Node))}
    (keeps : ∀ {before after}, Sound (.directory before) → change before = .ok after →
      Sound (.directory after)) {goal walked : Path} {node altered : Node} {names : List String}
    (sound : Sound node) (success : node.alter change goal walked names = .ok altered) :
    Sound altered := by
  induction names generalizing walked node altered with
  | nil =>
    cases node with
    | file content => simp [Node.alter] at success
    | directory entries =>
      rw [Node.alter] at success
      cases outcome : change entries with
      | error cause => simp [outcome, Except.map] at success
      | ok after =>
        simp only [outcome, Except.map, Except.ok.injEq] at success
        exact success ▸ keeps sound outcome
  | cons name rest ih =>
    cases node with
    | file content => simp [Node.alter] at success
    | directory entries =>
      rw [Node.alter] at success
      split at success
      · simp at success
      · rename_i child found
        have member := Entries.mem_of_find? found
        cases outcome : child.alter change goal (walked.step name) rest with
        | error cause => simp [outcome, Except.map] at success
        | ok after =>
          simp only [outcome, Except.map, Except.ok.injEq] at success
          subst success
          cases sound with
          | directory _ ascending named below =>
            exact Sound.insert (.directory entries ascending named below)
              (named _ member) (ih (below _ member) outcome)

end Sound
end Node
end Workbench
