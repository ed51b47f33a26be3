import Workbench.Library.Load
import Workbench.Proofs.Text.Lines

/-!
# The references in a text

A line refers to a library when it is a comment with three slashes, has a reference in it, and its
first attribute `lib` has a quoted value. Only the first attribute counts, and only a word with a
blank right in front of it is one. The references of a text are those of its lines in their order,
so a text that is added on a new line brings its own behind them.
-/

namespace Workbench
namespace Library

open Text (isBlank HasLines)

variable {line library : List Char}

/-- The text ends with a blank. -/
def EndsBlank (text : List Char) : Bool := text.getLast?.any isBlank

/-- An attribute of the line begins behind the text. -/
structure AttributeBehind (before line : List Char) : Prop where
  blank : EndsBlank before
  mark : before ++ attributeMark <+: line

/-- The first attribute of the line begins behind the text. -/
structure FirstAttributeBehind (before line : List Char) : Prop
    extends AttributeBehind before line where
  first : ∀ other, AttributeBehind other line → before.length ≤ other.length

/-- The first attribute of the line has the value between quotation marks right behind it. -/
def HasValue (line value : List Char) : Prop :=
  ∃ before, FirstAttributeBehind before line ∧ ∃ quotation ∈ ['"', '\''], quotation ∉ value ∧
    before ++ attributeMark ++ quotation :: (value ++ [quotation]) <+: line

/-- The line refers to the library. -/
structure RefersTo (line library : List Char) : Prop where
  comment : ∃ indent, (∀ c ∈ indent, isBlank c) ∧ indent ++ "///".toList <+: line
  reference : "<reference".toList <:+: line
  value : HasValue line library

/-- The lines refer to the libraries in turn, each line to one or to none. -/
inductive ReferInTurn : List (List Char) → List String → Prop
  | nil : ReferInTurn [] []
  | refers {line library : List Char} {lines : List (List Char)} {libraries : List String}
      (refers : RefersTo line library) (more : ReferInTurn lines libraries) :
      ReferInTurn (line :: lines) (String.ofList library :: libraries)
  | silent {line : List Char} {lines : List (List Char)} {libraries : List String}
      (silent : ∀ library, ¬RefersTo line library) (more : ReferInTurn lines libraries) :
      ReferInTurn (line :: lines) libraries

/-! ## The value of an attribute -/

@[simp] theorem endsBlank_concat (text : List Char) (c : Char) :
    EndsBlank (text ++ [c]) = isBlank c := by
  simp [EndsBlank]

theorem AttributeBehind.leads {before : List Char} (begins : AttributeBehind before line) :
    before <+: line :=
  (List.prefix_append before attributeMark).trans begins.mark

theorem FirstAttributeBehind.unique {before other : List Char}
    (first : FirstAttributeBehind before line) (other_first : FirstAttributeBehind other line) :
    before = other := by
  have shorter := first.first other other_first.toAttributeBehind
  have longer := other_first.first before first.toAttributeBehind
  exact (List.prefix_of_prefix_length_le first.leads other_first.leads shorter).eq_of_length
    (Nat.le_antisymm shorter longer)

theorem FirstAttributeBehind.hasValue_iff {before after : List Char}
    (first : FirstAttributeBehind before (before ++ (attributeMark ++ after))) :
    HasValue (before ++ (attributeMark ++ after)) library ↔
      Text.quoted? after = some library := by
  rw [Text.quoted?_eq_some_iff]
  constructor
  · rintro ⟨other, other_first, quotation, opens, absent, leads⟩
    obtain rfl := first.unique other_first
    rw [List.append_assoc, List.prefix_append_right_inj, List.prefix_append_right_inj] at leads
    obtain ⟨rest, rfl⟩ := leads
    exact ⟨quotation, opens, rest, absent, by simp⟩
  · rintro ⟨quotation, opens, rest, absent, rfl⟩
    exact ⟨before, first, quotation, opens, absent, rest, by simp⟩

theorem not_hasValue_of_passed
    (passed : ∀ other, AttributeBehind other line → line.length ≤ other.length) :
    ¬HasValue line library := by
  rintro ⟨before, first, -⟩
  have longer := first.mark.length_le
  have shorter := passed before first.toAttributeBehind
  rw [List.length_append] at longer
  have mark_length : attributeMark.length = 4 := rfl
  omega

/-- The search that has come behind `before` and has passed no attribute finds the value of the
first one. -/
theorem attribute?_eq_some_iff {before rest : List Char}
    (passed : ∀ other, AttributeBehind other (before ++ rest) → before.length ≤ other.length) :
    attribute? (EndsBlank before) rest = some library ↔ HasValue (before ++ rest) library := by
  induction rest generalizing before with
  | nil =>
      rw [List.append_nil] at passed ⊢
      simpa [attribute?] using not_hasValue_of_passed passed
  | cons c rest induction =>
      rw [attribute?]
      -- The first attribute begins here, or none does and `c` is passed as well.
      split
      next here =>
        rw [Bool.and_eq_true, List.isPrefixOf_iff_prefix] at here
        obtain ⟨blank, after, shape⟩ := here
        rw [← shape] at passed ⊢
        rw [List.drop_left]
        have begins : AttributeBehind before (before ++ (attributeMark ++ after)) :=
          ⟨blank, after, List.append_assoc _ _ _⟩
        exact (FirstAttributeBehind.hasValue_iff ⟨begins, passed⟩).symm
      next nothing_here =>
        have not_here : ¬AttributeBehind before (before ++ c :: rest) := fun begins =>
          nothing_here (by simpa [begins.blank] using begins.mark)
        rw [List.append_cons] at passed not_here ⊢
        rw [← endsBlank_concat before c]
        refine induction fun other begins => ?_
        have not_before := passed other begins
        rw [List.length_append, List.length_singleton]
        refine Nat.lt_of_le_of_ne not_before fun same => not_here ?_
        have leads : before <+: before ++ [c] ++ rest := by simp
        obtain rfl :=
          (List.prefix_of_prefix_length_le leads begins.leads not_before).eq_of_length same
        exact begins

/-! ## The library that a line refers to -/

theorem comment_iff : (∃ indent, (∀ c ∈ indent, isBlank c) ∧ indent ++ "///".toList <+: line) ↔
    "///".toList <+: Text.trimStart line := by
  constructor
  · rintro ⟨indent, blank, rest, rfl⟩
    rw [List.append_assoc, Text.trimStart, List.dropWhile_append_of_pos blank]
    exact ⟨rest, rfl⟩
  · rintro ⟨rest, starts⟩
    obtain ⟨indent, blank, shape⟩ := Text.exists_indent line
    refine ⟨indent, blank, rest, ?_⟩
    rw [List.append_assoc, starts, ← shape]

theorem attribute?_trimStart (comment : "///".toList <+: Text.trimStart line) :
    attribute? false (Text.trimStart line) = some library ↔ HasValue line library := by
  obtain ⟨indent, blank, shape⟩ := Text.exists_indent line
  obtain ⟨rest, starts⟩ := comment
  have passed : ∀ other, AttributeBehind other (indent ++ Text.trimStart line) →
      indent.length ≤ other.length :=
    fun other begins => Text.length_le_of_solid blank (by decide) begins.mark
  have skipped (afterBlank : Bool) :
      attribute? afterBlank (Text.trimStart line) = attribute? false (Text.trimStart line) := by
    rw [← starts]
    simp [attribute?, attributeMark]
  rw [← skipped (EndsBlank indent), attribute?_eq_some_iff passed, ← shape]

theorem reference?_eq_some_iff : reference? line = some library ↔ RefersTo line library := by
  rw [reference?]
  constructor
  · intro found
    split at found
    next reads =>
      rw [Bool.and_eq_true, List.isPrefixOf_iff_prefix, Text.contains_iff] at reads
      exact ⟨comment_iff.mpr reads.1, (Text.infix_trimStart_iff (by decide)).mp reads.2,
        (attribute?_trimStart reads.1).mp found⟩
    next => cases found
  · rintro ⟨comment, reference, value⟩
    rw [comment_iff] at comment
    rw [if_pos, attribute?_trimStart comment]
    · exact value
    · rw [Bool.and_eq_true, List.isPrefixOf_iff_prefix, Text.contains_iff]
      exact ⟨comment, (Text.infix_trimStart_iff (by decide)).mpr reference⟩

/-! ## Blanks at the end of a line -/

/-- The lines start with the same texts, as far as these do not end with a blank. -/
def Alike (line other : List Char) : Prop :=
  ∀ start, EndsBlank start = false → (start <+: line ↔ start <+: other)

theorem Alike.symm {other : List Char} (alike : Alike line other) : Alike other line :=
  fun start solid => (alike start solid).symm

theorem alike_concat {c : Char} (blank : isBlank c) (line : List Char) :
    Alike (line ++ [c]) line := by
  intro start solid
  rw [List.prefix_concat_iff]
  refine or_iff_right ?_
  rintro rfl
  simp [blank] at solid

theorem endsBlank_append {word : List Char} (before : List Char) (nonempty : word ≠ []) :
    EndsBlank (before ++ word) = EndsBlank word := by
  rw [EndsBlank, List.getLast?_append_of_ne_nil _ nonempty, EndsBlank]

theorem AttributeBehind.congr {before other : List Char} (alike : Alike line other)
    (begins : AttributeBehind before line) : AttributeBehind before other := by
  have solid : EndsBlank (before ++ attributeMark) = false := by
    rw [endsBlank_append before (by decide)]
    decide
  exact ⟨begins.blank, (alike _ solid).mp begins.mark⟩

/-- What a line refers to is decided by the texts in it that do not end with a blank. -/
theorem RefersTo.congr {other : List Char} (alike : Alike line other)
    (refers : RefersTo line library) : RefersTo other library := by
  obtain ⟨⟨indent, blank, slashes⟩, reference, value⟩ := refers
  obtain ⟨before, first, quotation, opens, absent, leads⟩ := value
  refine ⟨⟨indent, blank, ?_⟩, ?_, before, ?_, quotation, opens, absent, ?_⟩
  · refine (alike _ ?_).mp slashes
    rw [endsBlank_append indent (by decide)]
    decide
  · obtain ⟨_, ⟨front, rfl⟩, begins⟩ := List.infix_iff_suffix_prefix.mp reference
    refine (List.suffix_append front _).isInfix.trans ((alike _ ?_).mp begins).isInfix
    rw [endsBlank_append front (by decide)]
    decide
  · exact ⟨first.toAttributeBehind.congr alike,
      fun other begins => first.first other (begins.congr alike.symm)⟩
  · refine (alike _ ?_).mp leads
    rw [List.append_cons, ← List.append_assoc, endsBlank_concat]
    simp only [List.mem_cons, List.not_mem_nil, or_false] at opens
    rcases opens with rfl | rfl <;> decide

theorem reference?_concat {c : Char} (blank : isBlank c) (line : List Char) :
    reference? (line ++ [c]) = reference? line := by
  ext library
  have alike := alike_concat blank line
  rw [reference?_eq_some_iff, reference?_eq_some_iff]
  exact ⟨RefersTo.congr alike, RefersTo.congr alike.symm⟩

theorem reference?_dropReturn (line : List Char) :
    reference? (Text.dropReturn line) = reference? line := by
  by_cases ended : line.getLast? = some '\r'
  · obtain ⟨front, rfl⟩ := List.getLast?_eq_some_iff.mp ended
    rw [Text.dropReturn_concat, reference?_concat (by decide)]
  · rw [Text.dropReturn_of_bare ended]

/-! ## The references of a text -/

theorem referInTurn_iff {lines : List (List Char)} {libraries : List String} :
    ReferInTurn lines libraries ↔ (lines.filterMap reference?).map String.ofList = libraries := by
  constructor
  · intro turn
    induction turn with
    | nil => rfl
    | refers refers _ induction =>
        rw [List.filterMap_cons_some (reference?_eq_some_iff.mpr refers), List.map_cons, induction]
    | silent silent _ induction =>
        have nothing := Option.eq_none_iff_forall_ne_some.mpr fun library found =>
          silent library (reference?_eq_some_iff.mp found)
        rw [List.filterMap_cons_none nothing, induction]
  · rintro rfl
    induction lines with
    | nil => exact .nil
    | cons line lines induction =>
        cases found : reference? line with
        | none =>
            rw [List.filterMap_cons_none found]
            refine .silent (fun library refers => ?_) induction
            exact nomatch found.symm.trans (reference?_eq_some_iff.mpr refers)
        | some library =>
            rw [List.filterMap_cons_some found]
            exact .refers (reference?_eq_some_iff.mp found) induction

theorem filterMap_lines_of_whole (whole : '\n' ∉ line) :
    (Text.lines line).filterMap reference? = (reference? line).toList := by
  by_cases nonempty : line = []
  · subst nonempty
    rfl
  · rw [Text.lines_of_whole nonempty whole, List.filterMap_cons, List.filterMap_nil]
    cases reference? line <;> rfl

/-- The text ends any line before it, without a change to what the line refers to. -/
def EndsLine (ending : List Char) : Prop :=
  ∀ line other, '\n' ∉ line → ∃ closed, reference? closed = reference? line ∧
    Text.lines (line ++ (ending ++ other)) = closed :: Text.lines other

theorem endsLine_feed : EndsLine "\n".toList :=
  fun line other whole => ⟨_, reference?_dropReturn line, Text.lines_append_cons whole other⟩

theorem endsLine_returnFeed : EndsLine "\r\n".toList :=
  fun line other whole => ⟨line, rfl, Text.lines_append_return_cons whole other⟩

theorem references_append {ending : String} (ends : EndsLine ending.toList) (text other : String) :
    references (text ++ ending ++ other) = references text ++ references other := by
  obtain ⟨ended, last, whole, onward⟩ := Text.exists_lines_append text.toList
  obtain ⟨closed, same, closes⟩ := ends last other.toList whole
  have before : Text.lines text.toList = ended ++ Text.lines last := by simpa using onward []
  have after : Text.lines (text ++ ending ++ other).toList =
      ended ++ closed :: Text.lines other.toList := by
    rw [String.toList_append, String.toList_append, List.append_assoc, onward, closes]
  rw [references, references, references, before, after, ← List.map_append, List.filterMap_append,
    List.filterMap_append, List.append_assoc, filterMap_lines_of_whole whole, List.filterMap_cons,
    same]
  cases reference? last <;> rfl

/-- The references of a text are the libraries that its lines refer to in turn. What another text
refers to comes behind them when it is added on a new line. -/
theorem references_follow_lines (text : String) :
    (∀ libraries, references text = libraries ↔
      ∃ lines, HasLines text.toList lines ∧ ReferInTurn lines libraries) ∧
    ∀ other, references (text ++ "\n" ++ other) = references text ++ references other ∧
      references (text ++ "\r\n" ++ other) = references text ++ references other := by
  refine ⟨fun libraries => ?_, fun other => ⟨?_, ?_⟩⟩
  · simp only [← Text.lines_eq_iff, referInTurn_iff, exists_eq_left']
    rfl
  · exact references_append endsLine_feed text other
  · exact references_append endsLine_returnFeed text other

/-- Only the first attribute counts, even without a value, and a longer word is none. -/
example : references "///<reference lib= lib='a'/>\n\t///<reference no-default-lib='b' lib='c'/>" =
    ["c"] := by
  decide +kernel

end Library
end Workbench
