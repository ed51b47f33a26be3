import Workbench.Text.Pieces

/-!
# Glob patterns

A pattern is read into tokens. `?` stands for a character, `*` for characters within a segment,
`[…]` for a character of a class and `**` for any number of whole segments; it must be a segment of
its own. Text that breaks these rules is no pattern.
-/

namespace Workbench
namespace Glob

/-- A part of a character class. -/
inductive ClassItem where
  /-- One character. -/
  | single (c : Char)
  /-- The characters between two, both included. -/
  | range (first last : Char)
deriving DecidableEq, Repr

namespace ClassItem

/-- The character is one of the item's. -/
def holds (c : Char) : ClassItem → Bool
  | single d => c = d
  | range first last => first ≤ c && c ≤ last

end ClassItem

/-- A part of a pattern. -/
inductive Token where
  /-- The character itself. -/
  | char (c : Char)
  /-- One character other than a slash. -/
  | anyChar
  /-- Any number of characters other than slashes. -/
  | anySequence
  /-- Any number of whole segments. -/
  | anySegments
  /-- One character of the class, not a slash. -/
  | within (items : List ClassItem)
  /-- One character outside the class, not a slash. -/
  | except (items : List ClassItem)
deriving DecidableEq, Repr

/-- A readable pattern. -/
abbrev Pattern := List Token

/-- The items of a character class. A hyphen between two characters makes a range. -/
def classItems : List Char → List ClassItem
  | first :: '-' :: last :: more => .range first last :: classItems more
  | c :: more => .single c :: classItems more
  | [] => []

/-- Reads a character class after its opening bracket. The first character belongs to the class even
if it is a closing bracket. -/
def readClass (text : List Char) : Option (Token × List Char) :=
  match text with
  | '!' :: first :: more =>
    (Text.cut? [']'] more).map fun found => (.except (classItems (first :: found.1)), found.2)
  | first :: more =>
    if first = '!' then none
    else (Text.cut? [']'] more).map fun found =>
      (.within (classItems (first :: found.1)), found.2)
  | [] => none

/-- Puts a token for whole segments in front, unless there is one already. -/
def consSegments : Pattern → Pattern
  | .anySegments :: more => .anySegments :: more
  | pattern => .anySegments :: pattern

theorem length_readClass {text rest : List Char} {token : Token}
    (found : readClass text = some (token, rest)) : rest.length ≤ text.length := by
  unfold readClass at found
  split at found
  · obtain ⟨⟨first, last⟩, cut, equal⟩ := Option.map_eq_some_iff.1 found
    cases equal
    exact Nat.le_trans (Text.length_cut? cut) (by simp; omega)
  · split at found
    · simp at found
    · obtain ⟨⟨first, last⟩, cut, equal⟩ := Option.map_eq_some_iff.1 found
      cases equal
      exact Nat.le_trans (Text.length_cut? cut) (by simp)
  · simp at found

/-- Reads a pattern. `fresh` tells whether a segment starts here. -/
def tokens? (fresh : Bool) (text : List Char) : Option Pattern :=
  match text with
  | [] => some []
  | '?' :: rest => (tokens? false rest).map (.anyChar :: ·)
  | '*' :: '*' :: '*' :: _ => none
  | '*' :: '*' :: rest =>
    if fresh then
      match rest with
      | [] => some [.anySegments]
      | '/' :: more => (tokens? true more).map consSegments
      | _ => none
    else none
  | '*' :: rest => (tokens? false rest).map (.anySequence :: ·)
  | '[' :: rest =>
    match found : readClass rest with
    | none => none
    | some (token, more) =>
      have : more.length ≤ rest.length := length_readClass found
      (tokens? false more).map (token :: ·)
  | c :: rest => (tokens? (c = '/') rest).map (.char c :: ·)
termination_by text.length
decreasing_by all_goals (simp only [List.length_cons]; omega)

/-- Reads a pattern. -/
def Pattern.read? (text : String) : Option Pattern := tokens? true text.toList

end Glob
end Workbench
