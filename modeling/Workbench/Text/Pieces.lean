import Workbench.Text.CharacterClass

/-!
# Cutting text

`pieces` cuts at every separator and keeps empty pieces; joining the pieces again gives the text
back (`intercalate_pieces`). `piecesBy` cuts at several separators in the same way. `cut?` cuts at
the first occurrence of a word. `trim` cuts off blanks.

A line ends with a line feed or a carriage return and a line feed; the last line may lack its
terminator, and then a carriage return at its end belongs to it. A text that ends with a terminator
has no empty line after it.
-/

namespace Workbench
namespace Text

/-- The pieces between separators, empty ones included. -/
def pieces (separator : Char) : List Char → List (List Char)
  | [] => [[]]
  | c :: rest =>
    if c = separator then [] :: pieces separator rest
    else match pieces separator rest with
      | [] => [[c]]
      | piece :: more => (c :: piece) :: more

/-- The pieces between characters that separate, empty ones included. -/
def piecesBy (separates : Char → Bool) : List Char → List (List Char)
  | [] => [[]]
  | c :: rest =>
    if separates c then [] :: piecesBy separates rest
    else match piecesBy separates rest with
      | [] => [[c]]
      | piece :: more => (c :: piece) :: more

theorem pieces_ne_nil (separator : Char) (text : List Char) : pieces separator text ≠ [] := by
  cases text with
  | nil => simp [pieces]
  | cons c rest =>
    rw [pieces]
    split
    · simp
    · split <;> simp

theorem intercalate_pieces (separator : Char) (text : List Char) :
    [separator].intercalate (pieces separator text) = text := by
  induction text with
  | nil => rfl
  | cons c rest ih =>
    rw [pieces]
    split
    · rename_i equal
      subst equal
      obtain ⟨piece, more, shape⟩ := List.exists_cons_of_ne_nil (pieces_ne_nil c rest)
      rw [shape] at ih ⊢
      simpa [List.intercalate] using ih
    · split
      · rename_i empty
        exact absurd empty (pieces_ne_nil separator rest)
      · rename_i piece more shape
        rw [shape] at ih
        cases more <;> simpa [List.intercalate] using ih

theorem not_mem_of_mem_pieces {separator : Char} {text piece : List Char}
    (member : piece ∈ pieces separator text) : separator ∉ piece := by
  induction text generalizing piece with
  | nil => simp_all [pieces]
  | cons c rest ih =>
    rw [pieces] at member
    split at member
    · rcases List.mem_cons.1 member with rfl | later
      · simp
      · exact ih later
    · rename_i unequal
      split at member
      · rcases List.mem_singleton.1 member with rfl
        simpa using Ne.symm unequal
      · rename_i first more shape
        rcases List.mem_cons.1 member with rfl | later
        · have : separator ∉ first := ih (by simp [shape])
          simpa [Ne.symm unequal] using this
        · exact ih (by simp [shape, later])

/-- The text before and after the first occurrence of `word`. -/
def cut? (word : List Char) : List Char → Option (List Char × List Char)
  | [] => if word.isEmpty then some ([], []) else none
  | c :: rest =>
    if word.isPrefixOf (c :: rest) then some ([], (c :: rest).drop word.length)
    else (cut? word rest).map fun found => (c :: found.1, found.2)

theorem length_cut? {word text before after : List Char}
    (found : cut? word text = some (before, after)) : after.length ≤ text.length := by
  induction text generalizing before with
  | nil =>
    rw [cut?] at found
    split at found <;> simp_all
  | cons c rest ih =>
    rw [cut?] at found
    split at found
    · cases found
      rw [List.length_drop]
      omega
    · obtain ⟨⟨first, last⟩, tail, equal⟩ := Option.map_eq_some_iff.1 found
      cases equal
      exact Nat.le_succ_of_le (ih tail)

/-- The text between a quotation mark in front and its next occurrence. -/
def quoted? : List Char → Option (List Char)
  | [] => none
  | mark :: rest =>
    if mark = '"' || mark = '\'' then (cut? [mark] rest).map (·.1) else none

/-- The word occurs somewhere in the text. -/
def contains (word text : List Char) : Bool := (cut? word text).isSome

/-- The text without `ending`, when it ends so. -/
def dropEnding? (ending text : List Char) : Option (List Char) :=
  if ending.isSuffixOf text then some (text.take (text.length - ending.length)) else none

/-! ## Blanks at the ends -/

/-- Drops the blank characters in front. -/
def trimStart (text : List Char) : List Char := text.dropWhile isBlank

/-- Drops the blank characters at the end. -/
def trimEnd (text : List Char) : List Char := (text.reverse.dropWhile isBlank).reverse

/-- Drops the blank characters on both sides. -/
def trim (text : List Char) : List Char := trimEnd (trimStart text)

/-! ## Lines -/

/-- A terminated line without the carriage return of its terminator. -/
def dropReturn (line : List Char) : List Char := (dropEnding? ['\r'] line).getD line

/-- Lines from the pieces between line feeds: all but the last piece are terminated. -/
def linesOfPieces : List (List Char) → List (List Char)
  | [] => []
  | [last] => if last.isEmpty then [] else [last]
  | line :: more => dropReturn line :: linesOfPieces more

/-- The lines of the text, without their terminators. -/
def lines (text : List Char) : List (List Char) := linesOfPieces (pieces '\n' text)

end Text
end Workbench
