import Workbench.Proofs.Text.Cutting
import Workbench.Text.Pieces

/-!
# The lines of a text

A line ends at the next line feed, and a carriage return right before that belongs to the end, not
to the line. What is left behind the last line feed is a line too, unless there is nothing left, and
keeps its carriage return. So a text that is added changes only that last line and adds others.
-/

namespace Workbench
namespace Text

/-- The text has these lines. -/
inductive HasLines : List Char → List (List Char) → Prop
  | empty : HasLines [] []
  | unended {line : List Char} (nonempty : line ≠ []) (whole : '\n' ∉ line) : HasLines line [line]
  | feed {line rest : List Char} {lines : List (List Char)} (whole : '\n' ∉ line)
      (bare : line.getLast? ≠ some '\r') (more : HasLines rest lines) :
      HasLines (line ++ '\n' :: rest) (line :: lines)
  | returnFeed {line rest : List Char} {lines : List (List Char)} (whole : '\n' ∉ line)
      (more : HasLines rest lines) : HasLines (line ++ '\r' :: '\n' :: rest) (line :: lines)

variable {line text : List Char}

@[simp] theorem dropReturn_concat (line : List Char) : dropReturn (line ++ ['\r']) = line := by
  simp [dropReturn, dropEnding?]

theorem dropReturn_of_bare (bare : line.getLast? ≠ some '\r') : dropReturn line = line := by
  have unended : ¬['\r'] <:+ line := by
    rintro ⟨front, rfl⟩
    simp at bare
  rw [dropReturn, dropEnding?, if_neg (mt List.isSuffixOf_iff_suffix.mp unended), Option.getD_none]

theorem lines_of_whole (nonempty : line ≠ []) (whole : '\n' ∉ line) : lines line = [line] := by
  rw [lines, pieces_of_not_mem whole, linesOfPieces, if_neg (by simpa using nonempty)]

theorem lines_append_cons (whole : '\n' ∉ line) (rest : List Char) :
    lines (line ++ '\n' :: rest) = dropReturn line :: lines rest := by
  obtain ⟨piece, more, shape⟩ := List.exists_cons_of_ne_nil (pieces_ne_nil '\n' rest)
  rw [lines, lines, pieces_append, pieces_of_not_mem whole, shape]
  rfl

theorem lines_append_return_cons (whole : '\n' ∉ line) (rest : List Char) :
    lines (line ++ '\r' :: '\n' :: rest) = line :: lines rest := by
  rw [List.append_cons, lines_append_cons (by simpa using whole), dropReturn_concat]

theorem hasLines_lines (text : List Char) : HasLines text (lines text) := by
  by_cases ended : '\n' ∈ text
  · obtain ⟨line, rest, text_eq, whole⟩ := List.eq_append_cons_of_mem ended
    have shorter : rest.length < text.length := by
      rw [text_eq, List.length_append, List.length_cons]
      omega
    have more := hasLines_lines rest
    rw [text_eq]
    by_cases bare : line.getLast? = some '\r'
    · obtain ⟨front, rfl⟩ := List.getLast?_eq_some_iff.mp bare
      rw [← List.append_cons, lines_append_return_cons (by simpa using whole)]
      exact .returnFeed (by simpa using whole) more
    · rw [lines_append_cons whole, dropReturn_of_bare bare]
      exact .feed whole bare more
  · by_cases nonempty : text = []
    · subst nonempty
      exact .empty
    · rw [lines_of_whole nonempty ended]
      exact .unended nonempty ended
termination_by text.length

/-- Every text has its lines and no others. -/
theorem lines_eq_iff {expected : List (List Char)} :
    lines text = expected ↔ HasLines text expected := by
  constructor
  · rintro rfl
    exact hasLines_lines text
  · intro divided
    induction divided with
    | empty => rfl
    | unended nonempty whole => exact lines_of_whole nonempty whole
    | feed whole bare _ induction =>
        rw [lines_append_cons whole, dropReturn_of_bare bare, induction]
    | returnFeed whole _ induction => rw [lines_append_return_cons whole, induction]

theorem newline_not_mem_of_mem_lines (member : line ∈ lines text) : '\n' ∉ line := by
  have divided := hasLines_lines text
  generalize lines text = all at divided member
  induction divided with
  | empty => exact nomatch member
  | unended _ whole => exact List.mem_singleton.mp member ▸ whole
  | feed whole _ _ induction => exact (List.mem_cons.mp member).elim (· ▸ whole) induction
  | returnFeed whole _ induction => exact (List.mem_cons.mp member).elim (· ▸ whole) induction

/-- What is added to a text only reaches what is behind its last line feed. -/
theorem exists_lines_append (text : List Char) : ∃ ended last, '\n' ∉ last ∧
    ∀ added, lines (text ++ added) = ended ++ lines (last ++ added) := by
  have divided := hasLines_lines text
  generalize lines text = all at divided
  induction divided with
  | empty => exact ⟨[], [], List.not_mem_nil, fun _ => rfl⟩
  | unended _ whole => exact ⟨[], _, whole, fun _ => rfl⟩
  | @feed line _ _ whole bare _ induction =>
      obtain ⟨ended, last, last_whole, onward⟩ := induction
      refine ⟨line :: ended, last, last_whole, fun added => ?_⟩
      rw [List.append_assoc, List.cons_append, lines_append_cons whole, dropReturn_of_bare bare,
        onward, List.cons_append]
  | @returnFeed line _ _ whole _ induction =>
      obtain ⟨ended, last, last_whole, onward⟩ := induction
      refine ⟨line :: ended, last, last_whole, fun added => ?_⟩
      rw [List.append_assoc, List.cons_append, List.cons_append, lines_append_return_cons whole,
        onward, List.cons_append]

end Text
end Workbench
