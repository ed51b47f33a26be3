import Mathlib.Data.List.Induction
import Workbench.Path.Spelling
import Workbench.Proofs.Path.Lineage
import Workbench.Proofs.Text.Cutting

/-!
# What path texts resolve to

Text between slashes is followed piece by piece, so a text with a slash in the middle is followed in
two parts. Ordinary names lead one step down, and the text of a path leads from the root to it.
-/

namespace Workbench

/-- A piece of text that is not empty and has no meaning of its own is an ordinary name. -/
theorem isName_ofList {piece : List Char} (nonempty : piece ≠ []) (not_dot : piece ≠ ['.'])
    (not_dots : piece ≠ ['.', '.']) (whole : '/' ∉ piece) : IsName (String.ofList piece) := by
  have of_eq : ∀ {text : String}, String.ofList piece = text → piece = text.toList := by
    rintro text rfl
    exact String.toList_ofList.symm
  exact ⟨fun empty => nonempty (of_eq empty), fun dot => not_dot (of_eq dot),
    fun dots => not_dots (of_eq dots), by rwa [String.toList_ofList]⟩

namespace Path

variable {path : Path} {name : String}

@[simp] theorem step_of_isName (path : Path) (named : IsName name) :
    path.step name = path.child name named := dif_pos named

@[simp] theorem walk_empty (path : Path) : path.walk "" = path := rfl

theorem walk_append (path : Path) (front back : String) :
    path.walk (front ++ "/" ++ back) = (path.walk front).walk back := by
  have chars : (front ++ "/" ++ back).toList = front.toList ++ '/' :: back.toList := by
    simp
  rw [walk, chars, Text.pieces_append, List.foldl_append]
  rfl

theorem walk_ofList_append (path : Path) (front back : List Char) :
    path.walk (String.ofList (front ++ '/' :: back)) =
      (path.walk (String.ofList front)).walk (String.ofList back) := by
  rw [← walk_append]
  congr 1
  apply String.toList_inj.mp
  simp

theorem walk_of_isName (path : Path) (named : IsName name) :
    path.walk name = path.child name named := by
  rw [walk, Text.pieces_of_not_mem named.2.2.2]
  simp [named]

theorem names_walk (path : Path) {text : String}
    (ordinary : ∀ piece ∈ Text.pieces '/' text.toList, IsName (String.ofList piece)) :
    (path.walk text).names = path.names ++ (Text.pieces '/' text.toList).map String.ofList := by
  rw [walk]
  generalize Text.pieces '/' text.toList = pieces at ordinary
  induction pieces generalizing path with
  | nil => simp
  | cons piece pieces induction =>
      have named := ordinary piece List.mem_cons_self
      rw [List.foldl_cons, step_of_isName path named,
        induction (path.child _ named) fun other member =>
          ordinary other (List.mem_cons_of_mem piece member)]
      simp

/-! ## Texts of paths -/

/-- No name holds a NUL, so that the text of the path is readable. -/
def IsSpellable (path : Path) : Prop := ∀ name ∈ path.names, '\x00' ∉ name.toList

theorem isSpellable_root : root.IsSpellable := fun _ member => absurd member List.not_mem_nil

theorem IsSpellable.child (spellable : path.IsSpellable) (named : IsName name)
    (plain : '\x00' ∉ name.toList) : (path.child name named).IsSpellable := by
  intro other member
  rcases List.mem_append.mp member with before | last
  · exact spellable other before
  · rw [List.mem_singleton.mp last]
    exact plain

theorem isSpellable_step (spellable : path.IsSpellable) (plain : '\x00' ∉ name.toList) :
    (path.step name).IsSpellable := by
  rw [step]
  split
  · exact spellable.child _ plain
  · split
    · exact fun other member => spellable other (List.mem_of_mem_take member)
    · exact spellable

theorem isSpellable_walk (spellable : path.IsSpellable) {text : String}
    (plain : '\x00' ∉ text.toList) : (path.walk text).IsSpellable := by
  have pieces_plain : ∀ piece ∈ Text.pieces '/' text.toList, '\x00' ∉ piece :=
    fun piece member inside => plain (Text.mem_of_mem_pieces member inside)
  rw [walk]
  generalize Text.pieces '/' text.toList = pieces at pieces_plain
  induction pieces generalizing path with
  | nil => exact spellable
  | cons piece pieces induction =>
      refine induction (isSpellable_step spellable ?_) fun other member =>
        pieces_plain other (List.mem_cons_of_mem piece member)
      rw [String.toList_ofList]
      exact pieces_plain piece List.mem_cons_self

theorem IsSpellable.resolve? {base : Path} (spellable : base.IsSpellable) {text : String}
    (resolved : base.resolve? text = some path) : path.IsSpellable := by
  rw [Path.resolve?] at resolved
  split at resolved
  · rename_i readable
    obtain rfl := Option.some.inj resolved
    split
    · exact isSpellable_walk isSpellable_root readable.2
    · exact isSpellable_walk spellable readable.2
  · exact nomatch resolved

theorem isSpellable_of_resolve? {text : String} (resolved : root.resolve? text = some path) :
    path.IsSpellable := isSpellable_root.resolve? resolved

theorem text_child_root (named : IsName name) : (root.child name named).text = "/" ++ name := by
  rw [text, if_neg (by simp)]
  apply String.toList_inj.mp
  simp

theorem text_child (not_root : path ≠ root) (named : IsName name) :
    (path.child name named).text = path.text ++ "/" ++ name := by
  have names_ne : path.names ≠ [] := fun empty => not_root (ext empty)
  rw [text, text, if_neg (by simp), if_neg names_ne]
  apply String.toList_inj.mp
  simp

theorem text_child_eq (path : Path) (named : IsName name) :
    (path.child name named).text = path.directoryText ++ name := by
  by_cases at_root : path = root
  · subst at_root
    exact text_child_root named
  · have names_ne : path.names ≠ [] := fun empty => at_root (ext empty)
    rw [text_child at_root named, directoryText, if_neg names_ne]

@[simp] theorem directoryText_root : root.directoryText = "/" := rfl

theorem directoryText_child (path : Path) (named : IsName name) :
    (path.child name named).directoryText = path.directoryText ++ name ++ "/" := by
  rw [directoryText, if_neg (by simp), text_child_eq]

theorem head?_directoryText (path : Path) : path.directoryText.toList.head? = some '/' := by
  induction path using Path.induction with
  | root => rfl
  | child directory name named induction =>
      rw [directoryText_child, String.toList_append, String.toList_append, List.append_assoc,
        List.head?_append, induction, Option.some_or]

theorem head?_text (path : Path) : path.text.toList.head? = some '/' := by
  rcases path.eq_root_or_child with rfl | ⟨directory, name, named, rfl⟩
  · rfl
  · rw [text_child_eq, String.toList_append, List.head?_append, head?_directoryText,
      Option.some_or]

theorem nul_not_mem_directoryText (spellable : path.IsSpellable) :
    '\x00' ∉ path.directoryText.toList := by
  induction path using Path.induction with
  | root => decide
  | child directory name named induction =>
      have above := induction fun other member => spellable other (List.mem_append_left _ member)
      have here := spellable name (List.mem_append_right _ List.mem_cons_self)
      rw [directoryText_child, String.toList_append, String.toList_append, List.mem_append,
        List.mem_append, not_or, not_or]
      exact ⟨⟨above, here⟩, by decide⟩

theorem walk_directoryText (path : Path) (rest : String) :
    root.walk (path.directoryText ++ rest) = path.walk rest := by
  induction path using Path.induction generalizing rest with
  | root =>
      have parted : root.directoryText ++ rest = "" ++ "/" ++ rest := by simp
      rw [parted, walk_append, walk_empty]
  | child directory name named induction =>
      rw [directoryText_child, walk_append, induction, walk_of_isName directory named]

theorem walk_text (path : Path) : root.walk path.text = path := by
  rcases path.eq_root_or_child with rfl | ⟨directory, name, named, rfl⟩
  · exact walk_append root "" ""
  · rw [text_child_eq, walk_directoryText, walk_of_isName directory named]

theorem text_injective : Function.Injective text := by
  intro left right same
  rw [← walk_text left, same, walk_text]

theorem toList_directoryText (path : Path) :
    path.directoryText.toList = (path.names.flatMap fun name => '/' :: name.toList) ++ ['/'] := by
  rw [directoryText]
  split
  next empty => simp [empty]
  next some_name => simp [text, some_name]

/-- The text of a directory with ordinary names behind it is the text of the path that they lead
to. -/
theorem text_walk (path : Path) {text : String}
    (ordinary : ∀ piece ∈ Text.pieces '/' text.toList, IsName (String.ofList piece)) :
    (path.walk text).text = path.directoryText ++ text := by
  have cut := Text.flatMap_separator '/' (Text.pieces_ne_nil '/' text.toList)
  have names_ne : (path.walk text).names ≠ [] := by
    rw [names_walk path ordinary]
    simp [Text.pieces_ne_nil]
  rw [Path.text, if_neg names_ne, names_walk path ordinary]
  apply String.toList_inj.mp
  simp only [String.toList_ofList, String.toList_append, toList_directoryText,
    List.flatMap_append, List.flatMap_map, cut, Text.intercalate_pieces, List.append_assoc,
    List.singleton_append]

theorem resolve?_directoryText (base : Path) (spellable : path.IsSpellable) (rest : String) :
    base.resolve? (path.directoryText ++ rest) =
      if '\x00' ∈ rest.toList then none else some (path.walk rest) := by
  have head : (path.directoryText ++ rest).toList.head? = some '/' := by
    rw [String.toList_append, List.head?_append, head?_directoryText, Option.some_or]
  have not_empty : path.directoryText ++ rest ≠ "" := by
    intro empty
    rw [empty] at head
    exact nomatch head
  have readable_iff : IsReadable (path.directoryText ++ rest) ↔ '\x00' ∉ rest.toList := by
    rw [IsReadable, String.toList_append, List.mem_append, not_or]
    exact ⟨fun readable => readable.2.2,
      fun plain => ⟨not_empty, nul_not_mem_directoryText spellable, plain⟩⟩
  rw [resolve?]
  by_cases plain : '\x00' ∈ rest.toList
  · rw [if_neg (by rw [readable_iff]; exact not_not_intro plain), if_pos plain]
  · rw [if_pos (readable_iff.mpr plain), if_pos head, if_neg plain, walk_directoryText]

theorem resolve?_directoryText_self (spellable : path.IsSpellable)
    (base : Path) : base.resolve? path.directoryText = some path := by
  have leads := resolve?_directoryText base spellable ""
  rwa [String.append_empty, if_neg (by decide), walk_empty] at leads

theorem resolve?_text (base : Path) (spellable : path.IsSpellable) :
    base.resolve? path.text = some path := by
  rcases path.eq_root_or_child with rfl | ⟨directory, name, named, rfl⟩
  · rfl
  · have above : directory.IsSpellable :=
      fun other member => spellable other (List.mem_append_left _ member)
    have here := spellable name (List.mem_append_right _ List.mem_cons_self)
    rw [text_child_eq, resolve?_directoryText base above, if_neg here, walk_of_isName]

theorem resolve?_of_relative (base : Path) {text : String} (readable : IsReadable text)
    (relative : text.toList.head? ≠ some '/') : base.resolve? text = some (base.walk text) := by
  rw [resolve?, if_pos readable, if_neg relative]

theorem eq_walk_of_resolve? {base : Path} {text : String} (rooted : text.toList.head? = some '/')
    (resolved : base.resolve? text = some path) : path = root.walk text := by
  rw [resolve?] at resolved
  split at resolved
  · exact (Option.some.inj resolved).symm
  · exact nomatch resolved

/-- A step leads up by one name at most. -/
theorem dropLast_le_step (path : Path) (piece : String) : path.dropLast ≤ path.step piece := by
  have above : path.dropLast ≤ path := List.take_prefix _ path.names
  rw [step]
  split
  next named => exact above.trans (le_child path piece named)
  next =>
    split
    · exact le_rfl
    · exact above

/-- Text in which no piece leads upward leads down. -/
theorem le_walk (path : Path) {text : String}
    (downward : ['.', '.'] ∉ Text.pieces '/' text.toList) : path ≤ path.walk text := by
  rw [walk]
  generalize Text.pieces '/' text.toList = pieces at downward
  induction pieces generalizing path with
  | nil => exact le_rfl
  | cons piece pieces induction =>
      rw [List.mem_cons, not_or] at downward
      have first : path ≤ path.step (String.ofList piece) := by
        rw [step]
        split
        next => exact le_child path _ _
        next =>
          rw [if_neg fun dots => downward.1 (by simpa using congrArg String.toList dots.symm)]
      exact first.trans (induction (path.step (String.ofList piece)) downward.2)

/-- Where a text leads keeps the ending of the text. -/
theorem suffix_text_walk (path : Path) {text : String} {ending : List Char}
    (whole : '/' ∉ ending) (long : 2 < ending.length) (ends : ending <:+ text.toList) :
    ending <:+ (path.walk text).text.toList := by
  obtain ⟨front, text_eq⟩ := ends
  have last_whole := Text.not_mem_of_mem_pieces
    (List.getLast_mem (Text.pieces_ne_nil '/' front))
  rw [walk, ← text_eq, Text.pieces_append_of_not_mem front whole, List.foldl_append,
    List.foldl_cons, List.foldl_nil]
  generalize (Text.pieces '/' front).getLast _ = last at last_whole
  have longer : 2 < (last ++ ending).length := by
    rw [List.length_append]
    omega
  have named : IsName (String.ofList (last ++ ending)) := by
    refine isName_ofList ?_ ?_ ?_ (by simp [last_whole, whole])
    all_goals
      intro short
      rw [short] at longer
      exact absurd longer (by decide)
  rw [step_of_isName _ named, text_child_eq, String.toList_append, String.toList_ofList]
  exact (List.suffix_append last ending).trans (List.suffix_append _ _)

end Path

namespace Spelling

theorem trimEnd_concat (front : List Char) {last : Char} (solid : last ≠ '/') :
    trimEnd (front ++ [last]) = front ++ [last] := by
  simp [trimEnd, solid]

theorem trimEnd_concat_slash (front : List Char) : trimEnd (front ++ ['/']) = trimEnd front := by
  simp [trimEnd]

theorem trimStart_cons {first : Char} (solid : first ≠ '/') (rest : List Char) :
    trimStart (first :: rest) = first :: rest := by
  simp [trimStart, solid]

theorem mem_trimStart_iff {c : Char} (solid : c ≠ '/') {text : List Char} :
    c ∈ trimStart text ↔ c ∈ text := by
  induction text with
  | nil => rfl
  | cons first rest induction =>
      by_cases slash : first = '/'
      · have shorter : trimStart (first :: rest) = trimStart rest := by simp [trimStart, slash]
        rw [shorter, induction, List.mem_cons, slash, or_iff_right solid]
      · rw [trimStart_cons slash]

theorem mem_trimEnd_iff {c : Char} (solid : c ≠ '/') {text : List Char} :
    c ∈ trimEnd text ↔ c ∈ text := by
  have mirrored : trimEnd text = (trimStart text.reverse).reverse := rfl
  rw [mirrored, List.mem_reverse, mem_trimStart_iff solid, List.mem_reverse]

theorem toList_ne_nil {name : String} (named : IsName name) : name.toList ≠ [] :=
  fun empty => named.1 (String.toList_eq_nil_iff.mp empty)

theorem join_text_of_solid (path : Path) {text : String} {first : Char} {rest : List Char}
    (text_eq : text.toList = first :: rest) (solid : first ≠ '/') :
    join path.text text = path.directoryText ++ text := by
  have start : trimStart text.toList = first :: rest := by
    rw [text_eq, trimStart_cons solid]
  apply String.toList_inj.mp
  rcases path.eq_root_or_child with rfl | ⟨directory, last, lastNamed, rfl⟩
  · rw [join, start]
    simp [Path.text, trimEnd, text_eq]
  · obtain ⟨before, final, last_eq⟩ :=
      (List.eq_nil_or_concat last.toList).resolve_left (toList_ne_nil lastNamed)
    have ending : trimEnd (directory.child last lastNamed).text.toList =
        directory.directoryText.toList ++ before ++ [final] := by
      rw [Path.text_child_eq, String.toList_append, last_eq, List.concat_eq_append,
        ← List.append_assoc, trimEnd_concat _ fun same => lastNamed.2.2.2 (by simp [last_eq, same])]
    rw [join, start, ending]
    simp [Path.directoryText_child, last_eq, text_eq]

theorem join_text (path : Path) {name : String} (named : IsName name) :
    join path.text name = path.directoryText ++ name := by
  obtain ⟨first, rest, name_eq⟩ := List.exists_cons_of_ne_nil (toList_ne_nil named)
  exact join_text_of_solid path name_eq fun same => named.2.2.2 (by simp [name_eq, same])

/-- The text of a path joined with ordinary names is the text of the path that they lead to. -/
theorem join_text_of_ordinary (path : Path) {text : String}
    (ordinary : ∀ piece ∈ Text.pieces '/' text.toList, IsName (String.ofList piece)) :
    join path.text text = (path.walk text).text := by
  rw [Path.text_walk path ordinary]
  cases text_eq : text.toList with
  | nil =>
      have empty : IsName "" := ordinary [] (by rw [text_eq]; exact List.mem_singleton_self [])
      exact absurd rfl empty.1
  | cons first rest =>
      refine join_text_of_solid path text_eq ?_
      rintro rfl
      have empty : IsName "" := ordinary [] (by rw [text_eq]; exact List.mem_cons_self)
      exact absurd rfl empty.1

theorem pieces_trimEnd_subset (text : List Char) :
    Text.pieces '/' (trimEnd text) ⊆ Text.pieces '/' text := by
  induction text using List.reverseRecOn with
  | nil => exact List.Subset.refl _
  | append_singleton front last induction =>
      by_cases slash : last = '/'
      · subst slash
        rw [trimEnd_concat_slash, Text.pieces_append]
        exact fun piece member => List.mem_append_left _ (induction member)
      · rw [trimEnd_concat front slash]
        exact List.Subset.refl _

theorem walk_trimEnd (path : Path) (text : List Char) :
    path.walk (String.ofList (trimEnd text)) = path.walk (String.ofList text) := by
  induction text using List.reverseRecOn with
  | nil => rfl
  | append_singleton front last induction =>
      by_cases slash : last = '/'
      · subst slash
        rw [trimEnd_concat_slash, induction, Path.walk_ofList_append]
        rfl
      · rw [trimEnd_concat front slash]

theorem walk_trimStart (path : Path) (text : List Char) :
    path.walk (String.ofList (trimStart text)) = path.walk (String.ofList text) := by
  induction text with
  | nil => rfl
  | cons first rest induction =>
      by_cases slash : first = '/'
      · subst slash
        have shorter : trimStart ('/' :: rest) = trimStart rest := by simp [trimStart]
        rw [shorter, induction]
        exact (Path.walk_ofList_append path [] rest).symm
      · rw [trimStart_cons slash]

/-- Joined texts are followed one after the other, whatever slashes are between them. -/
theorem walk_join (path : Path) (base name : String) :
    path.walk (join base name) = (path.walk base).walk name := by
  have front_eq := walk_trimEnd path base.toList
  have rest_eq := walk_trimStart (path.walk base) name.toList
  rw [String.ofList_toList] at front_eq rest_eq
  rw [← rest_eq, ← front_eq, join]
  generalize trimEnd base.toList = front
  generalize trimStart name.toList = rest
  split
  · exact Path.walk_append path "" ""
  · exact (Path.walk_empty _).symm
  · exact Path.walk_ofList_append path front rest

theorem trimEnd_prefix (text : List Char) : trimEnd text <+: text := by
  have kept : text.reverse.dropWhile (· = '/') <:+ text.reverse := List.dropWhile_suffix _
  simpa [trimEnd] using List.reverse_prefix.mpr kept

theorem head?_join {base : String} (rooted : base.toList.head? = some '/') (name : String) :
    (join base name).toList.head? = some '/' := by
  obtain ⟨cut, whole⟩ := trimEnd_prefix base.toList
  rw [← whole] at rooted
  rw [join]
  generalize trimEnd base.toList = front at rooted
  -- Either nothing is left of the base, so that the slash between comes first, or its own slash is.
  cases front with
  | nil =>
      split
      · rfl
      next nonempty => exact (nonempty rfl).elim
      · rw [String.toList_ofList, List.nil_append, List.head?_cons]
  | cons first more =>
      have solid : first = '/' := by simpa using rooted
      subst solid
      split
      next empty _ => exact absurd empty (List.cons_ne_nil _ _)
      · rw [String.toList_ofList, List.head?_cons]
      · rw [String.toList_ofList, List.cons_append, List.head?_cons]

end Spelling
end Workbench
