import Mathlib.Order.Basic
import Workbench.Path.Basic

/-!
# The order of paths

A path is below another when the names of the other come first in it. Every path is the root or a
child, and the paths below or at a child are told apart from those of its directory by one name.
-/

namespace Workbench
namespace Path

@[ext] theorem ext {left right : Path} (names : left.names = right.names) : left = right := by
  cases left
  cases right
  simpa using names

@[simp] theorem names_root : root.names = [] := rfl

@[simp] theorem names_child (path : Path) (name : String) (named : IsName name) :
    (path.child name named).names = path.names ++ [name] := rfl

@[simp] theorem names_take (path : Path) (count : Nat) :
    (path.take count).names = path.names.take count := rfl

@[simp] theorem dropLast_child (path : Path) (name : String) (named : IsName name) :
    (path.child name named).dropLast = path := by
  ext1
  simp [dropLast]

@[simp] theorem split?_root : root.split? = none := rfl

@[simp] theorem split?_child (path : Path) (name : String) (named : IsName name) :
    (path.child name named).split? = some (path, ⟨name, named⟩) := by
  unfold split?
  split
  · rename_i missing
    simp at missing
  · rename_i last found
    have last_eq : name = last := by simpa using found
    subst last_eq
    simp

theorem child_inj {left right : Path} {leftName rightName : String} {leftNamed : IsName leftName}
    {rightNamed : IsName rightName} :
    left.child leftName leftNamed = right.child rightName rightNamed ↔
      left = right ∧ leftName = rightName := by
  constructor
  · intro same
    have halves := congrArg Path.split? same
    simpa using halves
  · rintro ⟨rfl, rfl⟩
    rfl

theorem child_ne_root (path : Path) (name : String) (named : IsName name) :
    path.child name named ≠ root := by
  intro same
  have names := congrArg Path.names same
  simp at names

theorem eq_root_or_child (path : Path) :
    path = root ∨ ∃ (directory : Path) (name : String) (named : IsName name),
      path = directory.child name named := by
  rcases List.eq_nil_or_concat path.names with empty | ⟨before, last, names_eq⟩
  · exact .inl (ext empty)
  · have ordinary : ∀ name ∈ before ++ [last], IsName name := by
      intro name member
      exact path.ordinary name (by simpa [names_eq] using member)
    refine .inr ⟨⟨before, fun name member => ordinary name (by simp [member])⟩, last,
      ordinary last (by simp), ?_⟩
    ext1
    simpa using names_eq

/-- A property of the root that passes from each directory to its children holds of every path. -/
@[elab_as_elim] theorem induction {motive : Path → Prop} (root : motive root)
    (child : ∀ (directory : Path) (name : String) (named : IsName name), motive directory →
      motive (directory.child name named)) (path : Path) : motive path := by
  generalize length_eq : path.names.length = length
  induction length generalizing path with
  | zero =>
      obtain rfl : path = Path.root := ext (List.length_eq_zero_iff.mp length_eq)
      exact root
  | succ length induction =>
      rcases eq_root_or_child path with rfl | ⟨directory, name, named, rfl⟩
      · exact root
      · exact child directory name named (induction directory (by simpa using length_eq))

/-! ## Paths above and below -/

/-- The names of the smaller path come first in the larger one. -/
instance : PartialOrder Path where
  le upper lower := upper.names <+: lower.names
  le_refl path := List.prefix_refl path.names
  le_trans _ _ _ := List.IsPrefix.trans
  le_antisymm _ _ down up := ext (down.eq_of_length (Nat.le_antisymm down.length_le up.length_le))

theorem le_def {upper lower : Path} : upper ≤ lower ↔ upper.names <+: lower.names := Iff.rfl

instance (upper lower : Path) : Decidable (upper ≤ lower) :=
  inferInstanceAs (Decidable (upper.names <+: lower.names))

instance (upper lower : Path) : Decidable (upper < lower) :=
  decidable_of_iff (upper ≤ lower ∧ upper ≠ lower) lt_iff_le_and_ne.symm

@[simp] theorem root_le (path : Path) : root ≤ path := List.nil_prefix

theorem le_root_iff {path : Path} : path ≤ root ↔ path = root := by
  rw [le_def, names_root, List.prefix_nil]
  exact ⟨fun names => ext names, fun same => congrArg names same⟩

theorem le_child (path : Path) (name : String) (named : IsName name) :
    path ≤ path.child name named := List.prefix_append path.names [name]

theorem le_child_iff {upper path : Path} {name : String} {named : IsName name} :
    upper ≤ path.child name named ↔ upper = path.child name named ∨ upper ≤ path := by
  rw [le_def, names_child, List.prefix_concat_iff, le_def]
  exact or_congr_left ⟨fun names => ext names, fun same => congrArg names same⟩

theorem lt_child_iff {upper path : Path} {name : String} {named : IsName name} :
    upper < path.child name named ↔ upper ≤ path := by
  constructor
  · intro below
    exact (le_child_iff.mp below.le).resolve_left below.ne
  · intro above
    refine lt_of_le_of_ne (above.trans (le_child path name named)) ?_
    intro same
    have longer := above.length_le
    rw [same, names_child, List.length_append, List.length_singleton] at longer
    omega

theorem not_child_le (path : Path) (name : String) (named : IsName name) :
    ¬path.child name named ≤ path := not_le_of_gt (lt_child_iff.mpr le_rfl)

/-- The way down from a path starts with one of its children. -/
theorem exists_child_le_of_lt {upper lower : Path} (below : upper < lower) :
    ∃ (name : String) (named : IsName name), upper.child name named ≤ lower := by
  induction lower using induction with
  | root => exact absurd below (not_lt_of_ge (root_le upper))
  | child directory name named induction =>
      rcases (lt_child_iff.mp below).eq_or_lt with rfl | further
      · exact ⟨name, named, le_rfl⟩
      · obtain ⟨first, firstNamed, leads⟩ := induction further
        exact ⟨first, firstNamed, leads.trans (le_child directory name named)⟩

theorem le_total_of_le {left right path : Path} (left_le : left ≤ path) (right_le : right ≤ path) :
    left ≤ right ∨ right ≤ left :=
  List.prefix_or_prefix_of_prefix left_le right_le

theorem upward_root : root.upward = [root] := rfl

theorem upward_child (path : Path) (name : String) (named : IsName name) :
    (path.child name named).upward = path.child name named :: path.upward := by
  have whole : (path.child name named).take (path.names.length + 1) = path.child name named := by
    ext1
    exact List.take_of_length_le (by simp)
  have shorter : ∀ count ∈ (List.range (path.names.length + 1)).reverse,
      (path.child name named).take count = path.take count := by
    intro count member
    have bound : count ≤ path.names.length := by
      simp only [List.mem_reverse, List.mem_range] at member
      omega
    ext1
    simp [List.take_append_of_le_length bound]
  rw [upward, upward, names_child, List.length_append, List.length_singleton,
    List.range_succ, List.reverse_append]
  simp only [List.reverse_singleton, List.singleton_append, List.map_cons, whole]
  exact congrArg (_ :: ·) (List.map_congr_left shorter)

theorem mem_upward {upper path : Path} : upper ∈ path.upward ↔ upper ≤ path := by
  induction path using induction with
  | root => rw [upward_root, List.mem_singleton, le_root_iff]
  | child directory name named induction =>
      rw [upward_child, List.mem_cons, induction, le_child_iff]

/-! ## Paths apart -/

/-- Neither path leads to the other. -/
def Apart (left right : Path) : Prop := ¬left ≤ right ∧ ¬right ≤ left

namespace Apart

variable {left right left' right' : Path}

theorem symm (apart : left.Apart right) : right.Apart left := ⟨apart.2, apart.1⟩

/-- What is at or below two paths apart is apart. -/
theorem mono (apart : left.Apart right) (left_le : left ≤ left') (right_le : right ≤ right') :
    left'.Apart right' := by
  constructor
  · intro leads
    exact (le_total_of_le (left_le.trans leads) right_le).elim apart.1 apart.2
  · intro leads
    exact (le_total_of_le left_le (right_le.trans leads)).elim apart.1 apart.2

end Apart

theorem apart_child {directory : Path} {name other : String} (named : IsName name)
    (otherNamed : IsName other) (distinct : name ≠ other) :
    (directory.child name named).Apart (directory.child other otherNamed) := by
  have not_le : ∀ {name other : String} (named : IsName name) (otherNamed : IsName other),
      name ≠ other → ¬directory.child name named ≤ directory.child other otherNamed := by
    intro name other named otherNamed distinct leads
    rcases le_child_iff.mp leads with same | above
    · exact distinct (child_inj.mp same).2
    · exact absurd above (not_child_le directory name named)
  exact ⟨not_le named otherNamed distinct, not_le otherNamed named distinct.symm⟩

end Path
end Workbench
