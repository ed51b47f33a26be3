import Mathlib.Data.List.Sort
import Workbench.Diagnostic.Render

/-!
# What a list of reports is rendered to

Sorting by severity keeps the order in which reports were made, so it groups them. The two ways to
render a list give the same text, report after report. Colours only add their sequences to it:
deleted from the coloured text, they leave the text without colours.
-/

namespace Workbench
namespace Diagnostics

/-! ## Groups -/

/-- The messages among the reports. -/
def messages (diagnostics : Diagnostics) : Diagnostics :=
  diagnostics.filter (·.severity = .message)

/-- The errors, then the warnings, then the messages, each group as it was reported. -/
def grouped (diagnostics : Diagnostics) : Diagnostics :=
  errors diagnostics ++ warnings diagnostics ++ messages diagnostics

theorem ordered_perm (diagnostics : Diagnostics) : (ordered diagnostics).Perm diagnostics :=
  List.mergeSort_perm diagnostics _

section Sorting

variable (diagnostics : Diagnostics)

private theorem rank_trans (a b c : Diagnostic) :
    decide (a.severity.rank ≤ b.severity.rank) = true →
      decide (b.severity.rank ≤ c.severity.rank) = true →
        decide (a.severity.rank ≤ c.severity.rank) = true := by
  simpa only [decide_eq_true_eq] using Nat.le_trans

private theorem rank_total (a b : Diagnostic) :
    (decide (a.severity.rank ≤ b.severity.rank) ||
      decide (b.severity.rank ≤ a.severity.rank)) = true := by
  simpa using Nat.le_total a.severity.rank b.severity.rank

theorem ordered_pairwise : (ordered diagnostics).Pairwise fun left right =>
    left.severity.rank ≤ right.severity.rank := by
  simpa only [ordered, decide_eq_true_eq] using
    List.pairwise_mergeSort rank_trans rank_total diagnostics

/-- Sorting keeps the order among the reports of one severity. -/
theorem filter_ordered (severity : Severity) :
    (ordered diagnostics).filter (·.severity = severity) =
      diagnostics.filter (·.severity = severity) := by
  have alike : (diagnostics.filter (·.severity = severity)).Pairwise fun left right =>
      decide (left.severity.rank ≤ right.severity.rank) = true := by
    refine List.pairwise_of_forall_mem_list fun left leftMember right rightMember => ?_
    have leftIs := of_decide_eq_true (List.mem_filter.mp leftMember).2
    have rightIs := of_decide_eq_true (List.mem_filter.mp rightMember).2
    rw [leftIs, rightIs]
    exact decide_eq_true le_rfl
  have kept : (diagnostics.filter (·.severity = severity)).Sublist (ordered diagnostics) :=
    List.sublist_mergeSort rank_trans rank_total alike List.filter_sublist
  have within := kept.filter (·.severity = severity)
  rw [List.filter_filter] at within
  simp only [Bool.and_self] at within
  refine (within.eq_of_length ?_).symm
  exact ((ordered_perm diagnostics).filter _).length_eq.symm

end Sorting

/-- Reports whose severity never rises stand in their groups. -/
theorem eq_grouped_of_pairwise {diagnostics : Diagnostics}
    (sorted : diagnostics.Pairwise fun left right =>
      left.severity.rank ≤ right.severity.rank) : diagnostics = grouped diagnostics := by
  induction diagnostics with
  | nil => rfl
  | cons first rest induction =>
      obtain ⟨least, sorted⟩ := List.pairwise_cons.mp sorted
      have none_above : ∀ severity : Severity, severity.rank < first.severity.rank →
          rest.filter (·.severity = severity) = [] := by
        intro severity above
        refine List.filter_eq_nil_iff.mpr fun other member => ?_
        have low := least other member
        simp only [decide_eq_true_eq]
        rintro rfl
        exact absurd low (Nat.not_le.mpr above)
      have rest_eq := induction sorted
      simp only [grouped, errors, warnings, messages] at rest_eq ⊢
      cases severity : first.severity with
      | error => simpa [severity] using rest_eq
      | warning =>
          have no_errors := none_above .error (by rw [severity]; decide)
          rw [no_errors] at rest_eq
          simpa [severity, no_errors] using rest_eq
      | message =>
          have no_errors := none_above .error (by rw [severity]; decide)
          have no_warnings := none_above .warning (by rw [severity]; decide)
          rw [no_errors, no_warnings] at rest_eq
          simpa [severity, no_errors, no_warnings] using rest_eq

theorem ordered_eq_grouped (diagnostics : Diagnostics) :
    ordered diagnostics = grouped diagnostics := by
  rw [eq_grouped_of_pairwise (ordered_pairwise diagnostics), grouped, errors, warnings, messages,
    filter_ordered, filter_ordered, filter_ordered]
  rfl

theorem grouped_perm (diagnostics : Diagnostics) : (grouped diagnostics).Perm diagnostics :=
  ordered_eq_grouped diagnostics ▸ ordered_perm diagnostics

/-! ## Report after report -/

theorem foldl_eq_append_join {α : Type} (text : α → String) (followed : α → Prop)
    [DecidablePred followed] (items : List α) (output : String) :
    items.foldl (fun output item =>
        let output := output ++ text item
        if followed item then output.push '\n' else output) output =
      output ++ String.join
        (items.flatMap fun item => text item :: if followed item then ["\n"] else []) := by
  induction items generalizing output with
  | nil => simp
  | cons item items induction =>
      rw [List.foldl_cons, induction, List.flatMap_cons, String.join_append, String.join_cons,
        ← String.append_assoc, ← String.append_assoc]
      by_cases follows : followed item
      · simp only [if_pos follows, String.join_cons, String.join_nil, String.append_empty,
          String.push_eq_append]
        rfl
      · simp only [if_neg follows, String.join_nil, String.append_empty]

theorem format_eq_display (options : RenderOptions) (diagnostics : Diagnostics) :
    format options diagnostics = display options diagnostics := by
  have appended := foldl_eq_append_join (fun item => Diagnostic.render options item.1)
    (fun item => item.2 < (ordered diagnostics).length - 1) (ordered diagnostics).zipIdx ""
  rwa [String.empty_append] at appended

/-- Handed out by place, the texts have a line feed between any two of them. -/
theorem join_flatMap_zipIdx (render : Diagnostic → String) (diagnostics : Diagnostics)
    (start : Nat) :
    String.join ((diagnostics.zipIdx start).flatMap fun (diagnostic, index) =>
        render diagnostic :: if index < start + diagnostics.length - 1 then ["\n"] else []) =
      "\n".intercalate (diagnostics.map render) := by
  induction diagnostics generalizing start with
  | nil => rfl
  | cons first rest induction =>
      have length_eq : start + (first :: rest).length = start + 1 + rest.length := by
        rw [List.length_cons]
        omega
      rw [List.zipIdx_cons, List.flatMap_cons, String.join_append, length_eq, induction,
        List.map_cons]
      cases rest with
      | nil => simp
      | cons next rest =>
          have before_last : start < start + 1 + (next :: rest).length - 1 := by
            rw [List.length_cons]
            omega
          simp only [if_pos before_last]
          rw [String.intercalate_cons_of_ne_nil (by simp)]
          simp

theorem display_eq_render (options : RenderOptions) (diagnostics : Diagnostics) :
    display options diagnostics = render options diagnostics := by
  have joined := join_flatMap_zipIdx (Diagnostic.render options) (ordered diagnostics) 0
  rwa [Nat.zero_add] at joined

end Diagnostics

/-! ## Colours -/

/-- The text from which the words are deleted: each is left out where it is met in reading from the
front. -/
def Text.without (words : List (List Char)) : List Char → List Char
  | [] => []
  | c :: rest =>
    match words.find? (·.isPrefixOf (c :: rest)) with
    | some word => without words (rest.drop (word.length - 1))
    | none => c :: without words rest
termination_by text => text.length

namespace Severity

/-- The character that every colour sequence starts with. -/
def escape : Char := '\x1b'

/-- The sequences that start a colour, and the one that ends it. -/
def colorSequences : List String :=
  [error.colorStart, warning.colorStart, message.colorStart, colorEnd]

/-- The text from which the colour sequences are deleted. -/
def uncolored (text : List Char) : List Char :=
  Text.without (colorSequences.map String.toList) text

theorem uncolored_cons {c : Char} (plain : c ≠ escape) (rest : List Char) :
    uncolored (c :: rest) = c :: uncolored rest := by
  have unmet : (colorSequences.map String.toList).find? (·.isPrefixOf (c :: rest)) = none := by
    have differs : ('\x1b' == c) = false := by simpa [escape] using Ne.symm plain
    simp [colorSequences, colorStart, colorEnd, List.isPrefixOf, differs]
  rw [uncolored, Text.without, unmet]
  rfl

theorem uncolored_append {text : List Char} (plain : escape ∉ text) (rest : List Char) :
    uncolored (text ++ rest) = text ++ uncolored rest := by
  induction text with
  | nil => rfl
  | cons c text induction =>
      rw [List.mem_cons, not_or] at plain
      rw [List.cons_append, uncolored_cons (Ne.symm plain.1), induction plain.2, List.cons_append]

theorem uncolored_colorStart (severity : Severity) (rest : List Char) :
    uncolored (severity.colorStart.toList ++ rest) = uncolored rest := by
  cases severity <;>
    simp [uncolored, colorSequences, colorStart, colorEnd, Text.without, List.isPrefixOf]

theorem uncolored_colorEnd (rest : List Char) :
    uncolored (colorEnd.toList ++ rest) = uncolored rest := by
  simp [uncolored, colorSequences, colorStart, colorEnd, Text.without, List.isPrefixOf]

end Severity

open Severity (escape uncolored)

/-- In front of any text, what is left of the one text without its colours is the other. -/
def Fades (colored plain : String) : Prop :=
  ∀ rest, uncolored (colored.toList ++ rest) = plain.toList ++ uncolored rest

namespace Fades

variable {colored plain moreColored morePlain : String}

theorem of_plain (plain_text : escape ∉ plain.toList) : Fades plain plain :=
  fun rest => Severity.uncolored_append plain_text rest

theorem append (first : Fades colored plain) (second : Fades moreColored morePlain) :
    Fades (colored ++ moreColored) (plain ++ morePlain) := by
  intro rest
  rw [String.toList_append, List.append_assoc, first, second, String.toList_append,
    List.append_assoc]

theorem paint (severity : Severity) {text : String} (plain_text : escape ∉ text.toList) :
    Fades (severity.paint true text) (severity.paint false text) := by
  intro rest
  simp only [Severity.paint, if_true, Bool.false_eq_true, if_false, String.toList_append,
    List.append_assoc]
  rw [Severity.uncolored_colorStart, Severity.uncolored_append plain_text,
    Severity.uncolored_colorEnd]

theorem join {coloredTexts plainTexts : List String}
    (fade : List.Forall₂ Fades coloredTexts plainTexts) :
    Fades (String.join coloredTexts) (String.join plainTexts) := by
  induction fade with
  | nil => exact of_plain (by decide)
  | cons first _ induction =>
      rw [String.join_cons, String.join_cons]
      exact first.append induction

theorem intercalate {separator : String} (plain_separator : escape ∉ separator.toList)
    {coloredTexts plainTexts : List String} (fade : List.Forall₂ Fades coloredTexts plainTexts) :
    Fades (separator.intercalate coloredTexts) (separator.intercalate plainTexts) := by
  induction fade with
  | nil =>
      rw [String.intercalate_nil]
      exact of_plain (by decide)
  | cons first more induction =>
      cases more with
      | nil => simpa only [String.intercalate_singleton] using first
      | cons next more =>
          rw [String.intercalate_cons_cons, String.intercalate_cons_cons]
          exact (first.append (of_plain plain_separator)).append induction

theorem uncolored_eq (fades : Fades colored plain) : uncolored colored.toList = plain.toList := by
  have nothing : uncolored [] = [] := by rw [uncolored, Text.without]
  have all := fades []
  rwa [List.append_nil, nothing, List.append_nil] at all

end Fades

namespace Diagnostic

/-- No text of the report holds the character that colour sequences start with. -/
structure IsPlain (diagnostic : Diagnostic) : Prop where
  /-- The message does not. -/
  message : escape ∉ diagnostic.message.toList
  /-- The path does not. -/
  path : ∀ path ∈ diagnostic.path, escape ∉ path.toList
  /-- The line of the source does not. -/
  sourceLine : ∀ line ∈ diagnostic.sourceLine, escape ∉ line.toList

variable {diagnostic : Diagnostic}

theorem not_mem_toString {c : Char} (other : c.isDigit = false) (number : Nat) :
    c ∉ (toString number).toList := by
  intro member
  rw [Nat.toString_eq_ofList_toDigits, String.toList_ofList] at member
  have digit := Nat.isDigit_of_mem_toDigits (by decide) (by decide) member
  exact Bool.false_ne_true (other.symm.trans digit)

theorem not_mem_spaces {c : Char} (other : c ≠ ' ') (count : Nat) : c ∉ (spaces count).toList := by
  intro member
  rw [spaces, String.toList_ofList] at member
  exact other (List.eq_of_mem_replicate member)

theorem escape_not_mem_label (diagnostic : Diagnostic) : escape ∉ diagnostic.label.toList := by
  have named : escape ∉ diagnostic.severity.name.toList := by
    cases diagnostic.severity <;> decide
  rw [label]
  split
  next code _ =>
    rw [String.toList_append, String.toList_append]
    simp only [List.mem_append, not_or]
    exact ⟨⟨named, by decide⟩, not_mem_toString (by decide) code⟩
  next => exact named

theorem IsPlain.location (plain : diagnostic.IsPlain) {location : String}
    (located : diagnostic.location? = some location) : escape ∉ location.toList := by
  obtain ⟨path, known, rfl⟩ := Option.map_eq_some_iff.mp located
  have path_plain := plain.path path known
  split
  · simp only [String.toList_append, List.mem_append, not_or]
    exact ⟨⟨⟨⟨path_plain, by decide⟩, not_mem_toString (by decide) _⟩, by decide⟩,
      not_mem_toString (by decide) _⟩
  · simp only [String.toList_append, List.mem_append, not_or]
    exact ⟨⟨path_plain, by decide⟩, not_mem_toString (by decide) _⟩
  · exact path_plain

section Fading

variable (options : RenderOptions)

theorem fades_label (diagnostic : Diagnostic) :
    Fades (diagnostic.severity.paint true diagnostic.label)
      (diagnostic.severity.paint false diagnostic.label) :=
  .paint diagnostic.severity (escape_not_mem_label diagnostic)

theorem fades_shortLine (plain : diagnostic.IsPlain) :
    Fades (diagnostic.shortLine { options with colored := true })
      (diagnostic.shortLine { options with colored := false }) := by
  have label := fades_label diagnostic
  have colon : Fades ": " ": " := .of_plain (by decide)
  have message : Fades diagnostic.message diagnostic.message := .of_plain plain.message
  rw [shortLine, shortLine]
  cases located : diagnostic.location? with
  | none => exact (label.append colon).append message
  | some location =>
      have place : Fades location location := .of_plain (plain.location located)
      have dash : Fades " - " " - " := .of_plain (by decide)
      exact (((place.append dash).append label).append colon).append message

theorem fades_snippetLines (plain : diagnostic.IsPlain) :
    List.Forall₂ Fades (diagnostic.snippetLines { options with colored := true })
      (diagnostic.snippetLines { options with colored := false }) := by
  have gap : ∀ count, Fades (spaces count) (spaces count) :=
    fun count => .of_plain (not_mem_spaces (by decide) count)
  have blank : Fades " " " " := .of_plain (by decide)
  have bar : Fades (diagnostic.severity.paint true "│") (diagnostic.severity.paint false "│") :=
    .paint diagnostic.severity (by decide)
  have caret : Fades (diagnostic.severity.paint true "^") (diagnostic.severity.paint false "^") :=
    .paint diagnostic.severity (by decide)
  have number := Fades.paint diagnostic.severity
    (not_mem_toString (by decide) (diagnostic.line.getD 0))
  cases shown : options.snippets with
  | false => simp [snippetLines]
  | true =>
      cases known : diagnostic.sourceLine with
      | none => simp [snippetLines, known]
      | some source =>
          have line : Fades source source := .of_plain (plain.sourceLine source known)
          have margin := ((gap (toString (diagnostic.line.getD 0)).length).append blank).append bar
          have excerpt := (((number.append blank).append bar).append blank).append line
          simp only [snippetLines, known, List.cons_append, List.nil_append]
          refine .cons margin (.cons excerpt ?_)
          cases diagnostic.column with
          | none => exact .nil
          | some column =>
              exact .cons (((margin.append blank).append (gap (column - 1))).append caret) .nil

theorem fades_richLines (plain : diagnostic.IsPlain) :
    List.Forall₂ Fades (diagnostic.richLines { options with colored := true })
      (diagnostic.richLines { options with colored := false }) := by
  have colon : Fades ": " ": " := .of_plain (by decide)
  have message : Fades diagnostic.message diagnostic.message := .of_plain plain.message
  have heading := ((fades_label diagnostic).append colon).append message
  rw [richLines, richLines]
  cases located : diagnostic.location? with
  | none => exact .cons heading .nil
  | some location =>
      have place : Fades location location := .of_plain (plain.location located)
      have blank : Fades " " " " := .of_plain (by decide)
      have corner : Fades (diagnostic.severity.paint true "┌─")
          (diagnostic.severity.paint false "┌─") := .paint diagnostic.severity (by decide)
      have gap := Fades.of_plain
        (not_mem_spaces (by decide) (toString (diagnostic.line.getD 0)).length)
      exact .cons heading (.cons ((((gap.append blank).append corner).append blank).append place)
        (fades_snippetLines options plain))

theorem fades_render (plain : diagnostic.IsPlain) :
    Fades (diagnostic.render { options with colored := true })
      (diagnostic.render { options with colored := false }) := by
  have terminated : ∀ {coloredLines plainLines : List String},
      List.Forall₂ Fades coloredLines plainLines →
        Fades (String.join (coloredLines.map (· ++ "\n")))
          (String.join (plainLines.map (· ++ "\n"))) := by
    intro coloredLines plainLines fade
    have feed : Fades "\n" "\n" := .of_plain (by decide)
    refine Fades.join ?_
    rw [List.forall₂_map_left_iff, List.forall₂_map_right_iff]
    exact fade.imp fun _ _ line => line.append feed
  rw [render, render]
  cases options.style with
  | short => exact terminated (.cons (fades_shortLine options plain) .nil)
  | rich => exact terminated (fades_richLines options plain)

end Fading
end Diagnostic

/-! ## Lists of reports -/

namespace Diagnostics

theorem fades_render (options : RenderOptions) {diagnostics : Diagnostics}
    (plain : ∀ diagnostic ∈ diagnostics, diagnostic.IsPlain) :
    Fades (render { options with colored := true } diagnostics)
      (render { options with colored := false } diagnostics) := by
  have each : List.Forall₂ Fades
      ((ordered diagnostics).map (Diagnostic.render { options with colored := true }))
      ((ordered diagnostics).map (Diagnostic.render { options with colored := false })) := by
    rw [List.forall₂_map_left_iff, List.forall₂_map_right_iff, List.forall₂_same]
    intro diagnostic member
    exact Diagnostic.fades_render options
      (plain diagnostic ((ordered_perm diagnostics).mem_iff.mp member))
  exact Fades.intercalate (by decide) each

/-- Both ways to render a list give the renderings of the errors, then of the warnings, then of the
messages, each group in the order of the list and no report lost or repeated, with a line feed
between any two. Where no text of a report holds the escape character, the coloured text without its
colour sequences is the text in which colours are off. -/
theorem renderings_grouped (options : RenderOptions) (diagnostics : Diagnostics) :
    format options diagnostics = display options diagnostics ∧
    display options diagnostics =
      "\n".intercalate ((grouped diagnostics).map (Diagnostic.render options)) ∧
    (grouped diagnostics).Perm diagnostics ∧
    ((∀ diagnostic ∈ diagnostics, diagnostic.IsPlain) →
      uncolored (display { options with colored := true } diagnostics).toList =
        (display { options with colored := false } diagnostics).toList) := by
  refine ⟨format_eq_display options diagnostics, ?_, grouped_perm diagnostics, fun plain => ?_⟩
  · rw [display_eq_render, render, ordered_eq_grouped]
  · rw [display_eq_render, display_eq_render]
    exact (fades_render options plain).uncolored_eq

end Diagnostics

namespace Sample

/-- A warning about a place that is shown, and an error without a place. -/
def reports : Diagnostics := [
  { severity := .warning, code := some 6133, message := "'x' is never used.",
    path := some "/index.ts", line := some 12, column := some 5, sourceLine := some "let x = 1;" },
  { Diagnostic.fileNotFound "/libs/lib.d.ts" with line := some 1 }]

/-- The two reports in colours and without. -/
theorem renderings_grouped_placed : (∀ diagnostic ∈ reports, diagnostic.IsPlain) ∧
    uncolored (Diagnostics.display {} reports).toList =
      (Diagnostics.display .plain reports).toList := by
  have plain : ∀ diagnostic ∈ reports, diagnostic.IsPlain := by
    intro diagnostic member
    rcases List.mem_pair.mp member with rfl | rfl
    · exact ⟨by decide, by decide, by decide⟩
    · exact ⟨by decide, by decide, by decide⟩
  exact ⟨plain, (Diagnostics.renderings_grouped {} reports).2.2.2 plain⟩

end Sample
end Workbench
