import Workbench.Proofs.Path.Resolution

/-!
# Canonical path texts

A path text is canonical when it is the slash alone or lists ordinary names with a slash in front of
each. These are exactly the texts of paths, so that what is done with a spelled path can be read off
the path that it means: normalizing resolves, the parent is the directory, and the segments are the
names.
-/

namespace Workbench

namespace Path

variable {path : Path}

theorem isSpellable_of_text (plain : '\x00' ∉ path.text.toList) : path.IsSpellable := by
  rw [← walk_text path]
  exact isSpellable_walk isSpellable_root plain

theorem isReadable_append_iff (front back : String) :
    IsReadable (front ++ "/" ++ back) ↔ '\x00' ∉ front.toList ∧ '\x00' ∉ back.toList := by
  simp [IsReadable]

theorem head?_append {front : String} (some_front : front ≠ "") (back : String) :
    (front ++ "/" ++ back).toList.head? = front.toList.head? := by
  obtain ⟨first, rest, shape⟩ := List.exists_cons_of_ne_nil
    (fun empty => some_front (String.toList_eq_nil_iff.mp empty))
  simp [shape]

theorem resolve?_append (base : Path) {front back : String} (some_front : front ≠ "")
    (some_back : back ≠ "") (relative : back.toList.head? ≠ some '/') :
    base.resolve? (front ++ "/" ++ back) =
      (base.resolve? front).bind fun reached => reached.resolve? back := by
  by_cases plain : '\x00' ∈ back.toList
  · have unreadable : ∀ reached : Path, reached.resolve? back = none :=
      fun reached => if_neg fun readable => readable.2 plain
    rw [resolve?, if_neg fun readable => ((isReadable_append_iff front back).mp readable).2 plain]
    simp [unreadable]
  · have next : ∀ reached : Path, reached.resolve? back = some (reached.walk back) :=
      fun reached => resolve?_of_relative reached ⟨some_back, plain⟩ relative
    by_cases odd : '\x00' ∈ front.toList
    · rw [resolve?, if_neg fun readable => ((isReadable_append_iff front back).mp readable).1 odd,
        resolve?, if_neg fun readable => readable.2 odd]
      rfl
    · have readable : IsReadable front := ⟨some_front, odd⟩
      rw [resolve?, if_pos ((isReadable_append_iff front back).mpr ⟨odd, plain⟩),
        head?_append some_front, resolve?, if_pos readable, Option.bind_some, next]
      split <;> rw [walk_append]

/-- Texts that are readable alike, start alike and lead alike mean the same. -/
theorem resolve?_congr (base : Path) {left right : String}
    (readable : IsReadable left ↔ IsReadable right)
    (rooted : left.toList.head? = some '/' ↔ right.toList.head? = some '/')
    (leads : ∀ path : Path, path.walk left = path.walk right) :
    base.resolve? left = base.resolve? right := by
  simp only [resolve?, readable, rooted, leads]

end Path

namespace Spelling

/-! ## Joined texts -/

/-- A join is a slash, or the base without slashes at its end, or both parts with a slash between. -/
theorem toList_join_cases (base name : String) :
    trimEnd base.toList = [] ∧ trimStart name.toList = [] ∧ (join base name).toList = ['/'] ∨
      trimEnd base.toList ≠ [] ∧ trimStart name.toList = [] ∧
        (join base name).toList = trimEnd base.toList ∨
      (join base name).toList = trimEnd base.toList ++ '/' :: trimStart name.toList := by
  rw [join]
  split
  next no_front no_rest => exact .inl ⟨no_front, no_rest, rfl⟩
  next no_rest some_front => exact .inr (.inl ⟨some_front, no_rest, String.toList_ofList⟩)
  next => exact .inr (.inr String.toList_ofList)

theorem mem_join_iff {c : Char} (solid : c ≠ '/') (base name : String) :
    c ∈ (join base name).toList ↔ c ∈ base.toList ∨ c ∈ name.toList := by
  have front_iff : c ∈ trimEnd base.toList ↔ c ∈ base.toList := mem_trimEnd_iff solid
  have rest_iff : c ∈ trimStart name.toList ↔ c ∈ name.toList := mem_trimStart_iff solid
  rw [← front_iff, ← rest_iff]
  rcases toList_join_cases base name with ⟨front, rest, shape⟩ | ⟨-, rest, shape⟩ | shape
  · simp [front, rest, shape, solid]
  · simp [rest, shape]
  · simp [shape, solid]

theorem join_ne_empty (base name : String) : join base name ≠ "" := by
  intro empty
  have nothing : (join base name).toList = [] := String.toList_eq_nil_iff.mpr empty
  rcases toList_join_cases base name with ⟨-, -, shape⟩ | ⟨some_front, -, shape⟩ | shape
  · exact nomatch nothing.symm.trans shape
  · exact some_front (shape.symm.trans nothing)
  · exact absurd (shape.symm.trans nothing) (by simp)

theorem isReadable_join_iff (base name : String) :
    Path.IsReadable (join base name) ↔ '\x00' ∉ base.toList ∧ '\x00' ∉ name.toList := by
  rw [Path.IsReadable, mem_join_iff (by decide), not_or]
  exact and_iff_right (join_ne_empty base name)

theorem exists_trimEnd_eq_cons {first : Char} (solid : first ≠ '/') (rest : List Char) :
    ∃ more, trimEnd (first :: rest) = first :: more := by
  have member : first ∈ trimEnd (first :: rest) :=
    (mem_trimEnd_iff solid).mpr List.mem_cons_self
  obtain ⟨cut, whole⟩ := trimEnd_prefix (first :: rest)
  cases shape : trimEnd (first :: rest) with
  | nil =>
      rw [shape] at member
      exact nomatch member
  | cons head more =>
      rw [shape, List.cons_append] at whole
      exact ⟨more, by rw [(List.cons.inj whole).1]⟩

theorem head?_join_iff (base name : String) :
    (join base name).toList.head? = some '/' ↔ (base ++ "/" ++ name).toList.head? = some '/' := by
  cases shape : base.toList with
  | nil =>
      obtain rfl := String.toList_eq_nil_iff.mp shape
      refine iff_of_true ?_ (by simp)
      rcases toList_join_cases "" name with ⟨-, -, joined⟩ | ⟨some_front, -, -⟩ | joined
      · rw [joined, List.head?_cons]
      · exact absurd rfl some_front
      · rw [joined]
        rfl
  | cons first rest =>
      have some_base : base ≠ "" := by
        rintro rfl
        exact nomatch shape
      rw [Path.head?_append some_base]
      by_cases slash : first = '/'
      · have rooted : base.toList.head? = some '/' := by rw [shape, slash, List.head?_cons]
        exact iff_of_true (head?_join rooted name) rooted
      · obtain ⟨more, kept⟩ := exists_trimEnd_eq_cons slash rest
        have same : (join base name).toList.head? = some first := by
          rcases toList_join_cases base name with ⟨front, -, -⟩ | ⟨-, -, joined⟩ | joined
          · rw [shape, kept] at front
            exact nomatch front
          · rw [joined, shape, kept, List.head?_cons]
          · rw [joined, shape, kept, List.cons_append, List.head?_cons]
        rw [same, shape, List.head?_cons]

theorem resolve?_join (path : Path) (base name : String) :
    path.resolve? (join base name) = path.resolve? (base ++ "/" ++ name) := by
  refine Path.resolve?_congr path ?_ (head?_join_iff base name) fun reached => ?_
  · rw [isReadable_join_iff, Path.isReadable_append_iff]
  · rw [walk_join, Path.walk_append]

/-! ## Canonical texts -/

/-- The slash alone, or ordinary names with a slash in front of each. No other text of this form ends
in a slash. -/
def IsCanonical (text : String) : Prop :=
  text = "/" ∨ ∃ names : List String, names ≠ [] ∧ (∀ name ∈ names, IsName name) ∧
    text = String.join (names.map ("/" ++ ·))

theorem isCanonical_iff {text : String} : IsCanonical text ↔ ∃ path : Path, path.text = text := by
  have joined : ∀ names : List String, String.join (names.map ("/" ++ ·)) =
      String.ofList (names.flatMap fun name => '/' :: name.toList) := by
    intro names
    apply String.toList_inj.mp
    simp [String.toList_join, List.flatMap_map]
  constructor
  · rintro (rfl | ⟨names, some_name, ordinary, rfl⟩)
    · exact ⟨.root, rfl⟩
    · exact ⟨⟨names, ordinary⟩, by rw [Path.text, if_neg some_name, joined]⟩
  · rintro ⟨path, rfl⟩
    rw [Path.text]
    split
    · exact .inl rfl
    next some_name => exact .inr ⟨path.names, some_name, path.ordinary, (joined _).symm⟩

theorem isCanonical_text (path : Path) : IsCanonical path.text := isCanonical_iff.mpr ⟨path, rfl⟩

/-! ## Parts of canonical texts -/

theorem segments_text (path : Path) : segments path.text = path.names := by
  by_cases empty : path.names = []
  · obtain rfl : path = .root := Path.ext empty
    rfl
  · have shape : path.text.toList = '/' :: ['/'].intercalate (path.names.map String.toList) := by
      rw [Path.text, if_neg empty, String.toList_ofList, ← Text.flatMap_separator '/'
        (by simpa using empty), List.flatMap_map]
    have cut : Text.pieces '/' path.text.toList = [] :: path.names.map String.toList := by
      rw [shape, Text.pieces, if_pos rfl, Text.pieces_intercalate (by simpa using empty)]
      rintro _ member
      obtain ⟨name, listed, rfl⟩ := List.mem_map.mp member
      exact (path.ordinary name listed).2.2.2
    have kept : path.names.filter (· ≠ "") = path.names :=
      List.filter_eq_self.mpr fun name listed => by simpa using (path.ordinary name listed).1
    simpa [segments, cut] using kept

theorem fileName?_text (directory : Path) {name : String} (named : IsName name) :
    fileName? (directory.child name named).text = some name := by
  rw [fileName?, segments_text, Path.names_child, List.getLast?_concat]

theorem parent?_text (directory : Path) {name : String} (named : IsName name) :
    parent? (directory.child name named).text = some directory.text := by
  have not_slash : (directory.child name named).text ≠ "/" := fun same =>
    Path.child_ne_root directory name named (Path.text_injective same)
  have skipped : ∀ above : List Char,
      (name.toList.reverse ++ '/' :: above).dropWhile (· ≠ '/') = '/' :: above := by
    intro above
    rw [List.dropWhile_append_of_pos]
    · rw [List.dropWhile_cons_of_neg (by simp)]
    · intro c member
      simpa using ne_of_mem_of_not_mem (List.mem_reverse.mp member) named.2.2.2
  rw [parent?, if_neg not_slash]
  by_cases at_root : directory = .root
  · subst at_root
    rw [Path.text_child_root, String.toList_append, List.reverse_append]
    simp only [String.reduceToList, List.reverse_singleton, skipped]
    rfl
  · obtain ⟨first, rest, shape⟩ : ∃ first rest, directory.text.toList.reverse = first :: rest :=
      List.exists_cons_of_ne_nil fun empty => by
        have head := directory.head?_text
        rw [List.reverse_eq_nil_iff.mp empty] at head
        exact nomatch head
    have mirrored : (directory.child name named).text.toList.reverse =
        name.toList.reverse ++ '/' :: directory.text.toList.reverse := by
      rw [Path.text_child at_root]
      simp
    rw [mirrored, skipped, shape]
    dsimp only
    rw [← shape, List.reverse_reverse, String.ofList_toList]

/-! ## Normalizing -/

theorem normalize?_text (path : Path) (text : String) :
    normalize? path.text text = (path.resolve? text).map Path.text := by
  rw [normalize?, Path.walk_text]

theorem normalize?_of_text (base : String) {path : Path} (plain : '\x00' ∉ path.text.toList) :
    normalize? base path.text = some path.text := by
  rw [normalize?, Path.resolve?_text _ (Path.isSpellable_of_text plain), Option.map_some]

theorem normalize?_eq_none_iff {base text : String} :
    normalize? base text = none ↔ text = "" ∨ '\x00' ∈ text.toList := by
  rw [normalize?, Option.map_eq_none_iff, Path.resolve?]
  split
  next readable => exact iff_of_false (Option.some_ne_none _) (not_or.mpr readable)
  next unreadable =>
    rw [Path.IsReadable, not_and_or, not_not, not_not] at unreadable
    exact iff_of_true rfl unreadable

theorem isCanonical_of_normalize? {base text path : String}
    (normal : normalize? base text = some path) : IsCanonical path := by
  obtain ⟨meant, -, rfl⟩ := Option.map_eq_some_iff.mp normal
  exact isCanonical_text meant

theorem normalize?_append (base : String) {front back : String} (some_front : front ≠ "")
    (some_back : back ≠ "") (relative : back.toList.head? ≠ some '/') :
    normalize? base (front ++ "/" ++ back) =
      (normalize? base front).bind fun reached => normalize? reached back := by
  rw [normalize?, Path.resolve?_append _ some_front some_back relative, normalize?]
  cases (Path.root.walk base).resolve? front with
  | none => rfl
  | some reached => exact (normalize?_text reached back).symm

/-- Path texts obey the laws of paths. A text without NUL normalizes to a canonical text unless it is
empty, which is refused, and a canonical text to itself; a text with a slash in the middle is
normalized in two steps; joining and putting a slash between come to the same; and a canonical text
other than the slash is its parent, which is canonical, joined with its last segment. -/
theorem normalize?_lawful (base : String) :
    (∀ text, text ≠ "" → '\x00' ∉ text.toList →
      ∃ path, normalize? base text = some path ∧ IsCanonical path) ∧
    normalize? base "" = none ∧
    (∀ path, IsCanonical path → '\x00' ∉ path.toList → normalize? base path = some path) ∧
    (∀ front back, front ≠ "" → back ≠ "" → back.toList.head? ≠ some '/' →
      normalize? base (front ++ "/" ++ back) =
        (normalize? base front).bind fun reached => normalize? reached back) ∧
    (∀ front name, normalize? base (join front name) = normalize? base (front ++ "/" ++ name)) ∧
    ∀ path, IsCanonical path → path ≠ "/" →
      ∃ above name, parent? path = some above ∧ fileName? path = some name ∧ IsCanonical above ∧
        join above name = path ∧ segments path = segments above ++ [name] := by
  refine ⟨fun text some_text plain => ?_, normalize?_eq_none_iff.mpr (.inl rfl), ?_,
    fun _ _ some_front some_back relative => normalize?_append base some_front some_back relative,
    fun front name => congrArg (Option.map Path.text) (resolve?_join _ front name), ?_⟩
  · cases normal : normalize? base text with
    | none => exact absurd (normalize?_eq_none_iff.mp normal) (not_or.mpr ⟨some_text, plain⟩)
    | some path => exact ⟨path, rfl, isCanonical_of_normalize? normal⟩
  · intro _ canonical plain
    obtain ⟨path, rfl⟩ := isCanonical_iff.mp canonical
    exact normalize?_of_text base plain
  · intro _ canonical not_root
    obtain ⟨path, rfl⟩ := isCanonical_iff.mp canonical
    rcases path.eq_root_or_child with rfl | ⟨directory, name, named, rfl⟩
    · exact absurd rfl not_root
    · refine ⟨directory.text, name, parent?_text directory named, fileName?_text directory named,
        isCanonical_text directory, ?_, ?_⟩
      · rw [join_text directory named, Path.text_child_eq]
      · rw [segments_text, segments_text, Path.names_child]

end Spelling

namespace Sample

open Spelling

/-- The laws at texts that lead up beyond the root, repeat slashes and end in one. -/
theorem normalize?_lawful_roundabout :
    (∃ path, normalize? "work" "..//../a/./b/" = some path ∧ IsCanonical path) ∧
    normalize? "work" "" = none ∧ normalize? "work" "/a/b" = some "/a/b" ∧
    (normalize? "work" ("../x" ++ "/" ++ "./../y") =
      (normalize? "work" "../x").bind fun reached => normalize? reached "./../y") ∧
    ∃ above name, parent? "/a/b" = some above ∧ fileName? "/a/b" = some name ∧ IsCanonical above ∧
      join above name = "/a/b" ∧ segments "/a/b" = segments above ++ [name] := by
  obtain ⟨yields, refused, keeps, steps, -, parts⟩ := normalize?_lawful "work"
  have canonical : IsCanonical "/a/b" :=
    .inr ⟨["a", "b"], by decide, by decide, by decide⟩
  exact ⟨yields "..//../a/./b/" (by decide) (by decide), refused,
    keeps "/a/b" canonical (by decide), steps "../x" "./../y" (by decide) (by decide) (by decide),
    parts "/a/b" canonical (by decide)⟩

/-- The empty text holds no NUL, and yet means nothing. -/
theorem empty_text_without_path : '\x00' ∉ "".toList ∧ normalize? "/" "" = none ∧
    ¬ ∀ base text : String, '\x00' ∉ text.toList →
      ∃ path, normalize? base text = some path ∧ IsCanonical path := by
  have refused : normalize? "/" "" = none := rfl
  refine ⟨by decide, refused, fun yields => ?_⟩
  obtain ⟨path, normal, -⟩ := yields "/" "" (by decide)
  exact nomatch refused.symm.trans normal

end Sample
end Workbench
