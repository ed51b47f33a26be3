import Workbench.Proofs.FileSystem.Growth
import Workbench.Proofs.Host.Listing

/-!
# What a list of included patterns is worth

A listing keeps to the included patterns of its filter as soon as one of them can be read. Patterns
that cannot be read are left out first, and a filter with no pattern left admits everything: then the
listing is the one that the filter gives without its list.
-/

namespace Workbench

namespace DirectoryFilter

variable {filter : DirectoryFilter} {pattern : String} {directory path : Path}

/-- Some included pattern can be read. -/
def Restricts (filter : DirectoryFilter) : Prop :=
  ∃ pattern ∈ filter.included, Glob.Pattern.read? pattern ≠ none

theorem not_restricts_iff : ¬filter.Restricts ↔
    ∀ pattern ∈ filter.included, Glob.Pattern.read? pattern = none := by
  simp [Restricts]

theorem Covers.readable (covers : Covers pattern directory path) :
    Glob.Pattern.read? pattern ≠ none := by
  obtain ⟨readable, read, _⟩ := covers
  simp [read]

theorem Admits.exists_covers (restricts : filter.Restricts) (admits : filter.Admits directory path) :
    ∃ pattern ∈ filter.included, Covers pattern directory path := by
  refine admits.included.resolve_left fun unreadable => ?_
  exact not_restricts_iff.mpr unreadable restricts

/-- A filter that does not restrict is read like one without included patterns. -/
theorem rules_of_not_restricts (unrestricted : ¬filter.Restricts) :
    filter.rules = { filter with included := [] }.rules := by
  have dropped : filter.included.filterMap PathPattern.read? = [] := by
    simpa [PathPattern.read?] using not_restricts_iff.mp unrestricted
  rw [rules, dropped]
  rfl

end DirectoryFilter

namespace FileSystem

/-- Every listed path is covered by an included pattern exactly if one of the patterns can be read,
or if there is nothing to list. If none can be read, the patterns make no difference. -/
theorem files_covered_iff (fs : FileSystem) (root : String) (filter : DirectoryFilter) :
    ((∀ text ∈ fs.files root filter, ∃ directory path, fs.resolve root = .ok directory ∧
        text = path.text ∧ ∃ pattern ∈ filter.included,
          DirectoryFilter.Covers pattern directory path) ↔
      filter.Restricts ∨ fs.files root filter = []) ∧
    (¬filter.Restricts → fs.files root filter = fs.files root { filter with included := [] }) := by
  refine ⟨⟨fun covered => ?_, ?_⟩, fun unrestricted => ?_⟩
  · by_contra neither
    obtain ⟨unrestricted, listed⟩ := not_or.mp neither
    obtain ⟨text, member⟩ := List.exists_mem_of_ne_nil _ listed
    obtain ⟨_, _, _, _, pattern, included, covers⟩ := covered text member
    exact unrestricted ⟨pattern, included, covers.readable⟩
  · rintro (restricts | empty) text member
    · obtain ⟨directory, path, resolved, _, _, admits, text_eq⟩ := mem_files.mp member
      exact ⟨directory, path, resolved, text_eq, admits.exists_covers restricts⟩
    · rw [empty] at member
      exact absurd member List.not_mem_nil
  · rw [files, files, DirectoryFilter.rules_of_not_restricts unrestricted]

end FileSystem

namespace Sample

/-- A project with a source and a text of another kind. -/
def project : FileSystem :=
  ((do
    discard (FileSystem.store "/readme.md" "# Project")
    discard (FileSystem.store "/src/a.ts" "let a = 1;") : FileActivity Unit).perform
      (.bare .root)).2

/-- A filter with one included pattern, which is no pattern: the wildcard for segments is not a
segment of its own. -/
def misspelled : DirectoryFilter where
  included := ["src/**.ts"]

/-- The misspelled pattern lets a file pass that it cannot cover. -/
theorem files_beyond_misspelled : misspelled.included ≠ [] ∧
    "/readme.md" ∈ project.files "/" misspelled ∧
    ¬∀ text ∈ project.files "/" misspelled, ∃ directory path,
      project.resolve "/" = .ok directory ∧ text = path.text ∧
        ∃ pattern ∈ misspelled.included, DirectoryFilter.Covers pattern directory path := by
  have resolved : project.resolve "/" = .ok .root := FileSystem.resolve_eq_ok_iff.mpr rfl
  have listed : "/readme.md" ∈ project.files "/" misspelled := by
    rw [FileSystem.files_of_resolve resolved rfl, List.mem_mergeSort]
    decide +kernel
  have unreadable : Glob.Pattern.read? "src/**.ts" = none := by
    decide +kernel
  refine ⟨List.cons_ne_nil _ _, listed, fun covered => ?_⟩
  obtain ⟨_, _, _, _, pattern, included, covers⟩ := covered _ listed
  obtain rfl := List.mem_singleton.mp included
  exact covers.readable unreadable

end Sample
end Workbench
