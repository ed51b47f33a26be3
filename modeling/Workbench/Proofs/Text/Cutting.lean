import Mathlib.Data.List.Infix
import Workbench.Text.Pieces

/-!
# Where a text is cut

Cutting at a separator undoes joining with it, and a separator in the middle of a text cuts it in
two. Cutting at a word takes out its first occurrence; a text between quotation marks ends at the
first mark like the one in front. Cutting off the blanks in front of a line cuts through no word.
-/

namespace Workbench
namespace Text

/-! ## Pieces -/

variable {separator : Char}

/-- A separator in the middle of a text cuts it in two. -/
theorem pieces_append (separator : Char) (front back : List Char) :
    pieces separator (front ++ separator :: back) =
      pieces separator front ++ pieces separator back := by
  induction front with
  | nil => simp [pieces]
  | cons c front induction =>
      rw [List.cons_append, pieces, pieces]
      by_cases same : c = separator
      · rw [if_pos same, if_pos same, induction, List.cons_append]
      · rw [if_neg same, if_neg same, induction]
        obtain ⟨piece, more, shape⟩ := List.exists_cons_of_ne_nil (pieces_ne_nil separator front)
        rw [shape]
        rfl

theorem pieces_of_not_mem {text : List Char} (whole : separator ∉ text) :
    pieces separator text = [text] := by
  induction text with
  | nil => rfl
  | cons c text induction =>
      rw [List.mem_cons, not_or] at whole
      rw [pieces, if_neg (Ne.symm whole.1), induction whole.2]

theorem pieces_append_of_not_mem (front : List Char) {back : List Char} (whole : separator ∉ back) :
    pieces separator (front ++ back) = (pieces separator front).dropLast ++
      [(pieces separator front).getLast (pieces_ne_nil separator front) ++ back] := by
  induction front with
  | nil => simp [pieces, pieces_of_not_mem whole]
  | cons c front induction =>
      obtain ⟨piece, more, shape⟩ := List.exists_cons_of_ne_nil (pieces_ne_nil separator front)
      simp only [shape] at induction
      rw [List.cons_append, pieces]
      by_cases same : c = separator
      · simp [pieces, same, shape, induction]
      · cases more with
        | nil =>
            simp only [List.dropLast_singleton, List.getLast_singleton, List.nil_append]
              at induction
            simp [pieces, same, shape, induction]
        | cons next more =>
            simp only [List.dropLast_cons_cons, List.cons_append] at induction
            simp [pieces, same, shape, induction]

theorem pieces_intercalate {names : List (List Char)} (some_name : names ≠ [])
    (whole : ∀ name ∈ names, separator ∉ name) :
    pieces separator ([separator].intercalate names) = names := by
  induction names with
  | nil => exact absurd rfl some_name
  | cons name names induction =>
      have first := pieces_of_not_mem (whole name List.mem_cons_self)
      cases names with
      | nil => simpa [List.intercalate] using first
      | cons next names =>
          have rest := induction (List.cons_ne_nil next names)
            fun other member => whole other (List.mem_cons_of_mem name member)
          have joined : [separator].intercalate (name :: next :: names) =
              name ++ separator :: [separator].intercalate (next :: names) := by
            simp [List.intercalate]
          rw [joined, pieces_append, first, rest]
          rfl

theorem flatMap_separator (separator : Char) {pieces : List (List Char)} (some_piece : pieces ≠ []) :
    (pieces.flatMap fun piece => separator :: piece) =
      separator :: [separator].intercalate pieces := by
  induction pieces with
  | nil => exact absurd rfl some_piece
  | cons piece pieces induction =>
      cases pieces with
      | nil => simp [List.intercalate]
      | cons next pieces =>
          rw [List.flatMap_cons, induction (List.cons_ne_nil next pieces)]
          simp [List.intercalate]

theorem mem_of_mem_pieces {text piece : List Char} {c : Char}
    (member : piece ∈ pieces separator text) (inside : c ∈ piece) : c ∈ text := by
  induction text generalizing piece with
  | nil =>
      obtain rfl : piece = [] := by simpa [pieces] using member
      exact inside
  | cons first text induction =>
      rw [pieces] at member
      split at member
      · rcases List.mem_cons.mp member with rfl | later
        · exact absurd inside List.not_mem_nil
        · exact List.mem_cons_of_mem first (induction later inside)
      · obtain ⟨head, more, shape⟩ := List.exists_cons_of_ne_nil (pieces_ne_nil separator text)
        rw [shape] at member
        rcases List.mem_cons.mp member with rfl | later
        · rcases List.mem_cons.mp inside with rfl | inside
          · exact List.mem_cons_self
          · exact List.mem_cons_of_mem first (induction (by simp [shape]) inside)
        · exact List.mem_cons_of_mem first (induction (by simp [shape, later]) inside)

theorem exists_piece_of_mem {text : List Char} {c : Char} (member : c ∈ text)
    (distinct : c ≠ separator) : ∃ piece ∈ pieces separator text, c ∈ piece := by
  induction text with
  | nil => exact nomatch member
  | cons first text induction =>
      rw [pieces]
      rcases List.mem_cons.mp member with rfl | later
      · rw [if_neg distinct]
        obtain ⟨head, more, shape⟩ := List.exists_cons_of_ne_nil (pieces_ne_nil separator text)
        rw [shape]
        exact ⟨c :: head, List.mem_cons_self, List.mem_cons_self⟩
      · obtain ⟨piece, found, inside⟩ := induction later
        split
        · exact ⟨piece, List.mem_cons_of_mem [] found, inside⟩
        · obtain ⟨head, more, shape⟩ := List.exists_cons_of_ne_nil (pieces_ne_nil separator text)
          rw [shape] at found ⊢
          rcases List.mem_cons.mp found with rfl | found
          · exact ⟨first :: piece, List.mem_cons_self, List.mem_cons_of_mem first inside⟩
          · exact ⟨piece, List.mem_cons_of_mem _ found, inside⟩

/-! ## Words -/

theorem eq_append_of_cut? {word text before after : List Char}
    (found : cut? word text = some (before, after)) : text = before ++ (word ++ after) := by
  induction text generalizing before with
  | nil =>
      rw [cut?] at found
      split at found
      next empty =>
        obtain ⟨rfl, rfl⟩ := Prod.mk.inj (Option.some.inj found)
        simpa using empty
      next => cases found
  | cons c rest induction =>
      rw [cut?] at found
      split at found
      next here =>
        obtain ⟨rfl, rfl⟩ := Prod.mk.inj (Option.some.inj found)
        exact (List.prefix_iff_eq_append.mp (List.isPrefixOf_iff_prefix.mp here)).symm
      next =>
        obtain ⟨⟨front, back⟩, later, same⟩ := Option.map_eq_some_iff.mp found
        obtain ⟨rfl, rfl⟩ := Prod.mk.inj same
        rw [induction later, List.cons_append]

/-- A text is cut at a character where it occurs first. -/
theorem cut?_singleton_eq_some_iff {c : Char} {text before after : List Char} :
    cut? [c] text = some (before, after) ↔ text = before ++ c :: after ∧ c ∉ before := by
  induction text generalizing before with
  | nil => simp [cut?]
  | cons first rest induction =>
      rw [cut?]
      by_cases same : c = first
      · subst same
        cases before with
        | nil => simp [List.isPrefixOf]
        | cons head tail =>
            simp only [List.isPrefixOf, beq_self_eq_true, Bool.true_and, if_true]
            constructor
            · intro equal
              cases equal
            · rintro ⟨equal, absent⟩
              rw [List.cons_append, List.cons.injEq] at equal
              exact absurd (equal.1 ▸ List.mem_cons_self) absent
      · rw [if_neg (by simpa [List.isPrefixOf] using same), Option.map_eq_some_iff]
        cases before with
        | nil => simp [Ne.symm same]
        | cons head tail =>
            constructor
            · rintro ⟨⟨_, _⟩, found, equal⟩
              cases equal
              obtain ⟨rfl, absent⟩ := induction.mp found
              exact ⟨rfl, by simp [same, absent]⟩
            · rintro ⟨equal, absent⟩
              obtain ⟨rfl, rfl⟩ := List.cons.inj equal
              rw [List.mem_cons, not_or] at absent
              exact ⟨(tail, after), induction.mpr ⟨rfl, absent.2⟩, rfl⟩

theorem contains_iff {word text : List Char} : contains word text = true ↔ word <:+: text := by
  rw [contains]
  induction text with
  | nil =>
      rw [cut?, List.infix_nil]
      cases word <;> simp
  | cons c rest induction =>
      rw [cut?, List.infix_cons_iff, ← List.isPrefixOf_iff_prefix, ← induction]
      split
      next first => simp [first]
      next later => simp [later]

theorem quoted?_eq_some_iff {text quoted : List Char} : quoted? text = some quoted ↔
    ∃ mark ∈ ['"', '\''], ∃ after, mark ∉ quoted ∧ text = mark :: (quoted ++ mark :: after) := by
  cases text with
  | nil => simp [quoted?]
  | cons mark rest =>
      rw [quoted?]
      constructor
      · intro found
        split at found
        next opens =>
          obtain ⟨⟨inside, after⟩, closes, rfl⟩ := Option.map_eq_some_iff.mp found
          obtain ⟨rfl, absent⟩ := cut?_singleton_eq_some_iff.mp closes
          exact ⟨mark, by simpa using opens, after, absent, rfl⟩
        next => cases found
      · rintro ⟨other, opens, after, absent, same⟩
        obtain ⟨rfl, rfl⟩ := List.cons.inj same
        rw [if_pos (by simpa using opens), cut?_singleton_eq_some_iff.mpr ⟨rfl, absent⟩]
        rfl

/-! ## Indents -/

variable {line : List Char}

theorem exists_indent (line : List Char) :
    ∃ indent, (∀ c ∈ indent, isBlank c) ∧ line = indent ++ trimStart line :=
  ⟨line.takeWhile isBlank, List.all_eq_true.mp List.all_takeWhile,
    List.takeWhile_append_dropWhile.symm⟩

/-- A word that does not start with a blank does not begin in an indent. -/
theorem length_le_of_solid {indent before word rest : List Char} {c : Char}
    (blank : ∀ c ∈ indent, isBlank c) (solid : isBlank c = false)
    (leads : before ++ c :: word <+: indent ++ rest) : indent.length ≤ before.length := by
  by_contra! shorter
  have inside : before ++ [c] <+: indent := by
    refine List.prefix_of_prefix_length_le ?_ (List.prefix_append indent rest) ?_
    · exact List.IsPrefix.trans ⟨word, by simp⟩ leads
    · rw [List.length_append, List.length_singleton]
      exact shorter
  have marked := blank c (inside.subset (by simp))
  simp [solid] at marked

/-- Trimming a line leaves the words in it that start with no blank. -/
theorem infix_trimStart_iff {word : List Char} {c : Char} (solid : isBlank c = false) :
    c :: word <:+: trimStart line ↔ c :: word <:+: line := by
  constructor
  · exact fun inside => inside.trans (List.dropWhile_suffix _).isInfix
  · rintro ⟨before, after, shape⟩
    obtain ⟨indent, blank, split⟩ := exists_indent line
    have leads : before ++ c :: word <+: line := ⟨after, shape⟩
    have begins : before <+: line := (List.prefix_append before _).trans leads
    rw [split] at leads begins
    obtain ⟨front, rfl⟩ := List.prefix_of_prefix_length_le (List.prefix_append indent _) begins
      (length_le_of_solid blank solid leads)
    rw [List.append_assoc, List.prefix_append_right_inj] at leads
    obtain ⟨rest, starts⟩ := leads
    exact ⟨front, rest, starts⟩

end Text
end Workbench
