import Workbench.Proofs.Url.Joining

/-!
# Text that names one file

Relative text that starts with a letter becomes a file of the directory that it is relative to, under
its own encoded name, exactly if nothing in it reads as a scheme and no backslash divides it. Text
with a scheme is a URL of its own. A backslash is as good as a slash, so it does not survive in the
path, and what it divides can lead anywhere.
-/

namespace Workbench

theorem Text.piecesBy_of_whole {separates : Char → Bool} {text : List Char}
    (whole : ∀ c ∈ text, separates c = false) : piecesBy separates text = [text] := by
  induction text with
  | nil => rfl
  | cons c text induction =>
      rw [piecesBy, whole c List.mem_cons_self,
        induction fun d member => whole d (List.mem_cons_of_mem c member)]
      rfl

namespace Url

/-- The URL is that of a file in the directory, whose path it continues by one segment. -/
structure IsFile (directory : Url) (segment : List Char) (url : Url) : Prop where
  scheme : url.scheme = directory.scheme
  authority : url.authority = directory.authority
  path : url.path.text.toList = directory.path.text.toList ++ segment
  single : '/' ∉ segment
  named : segment ≠ []

/-- To URLs the text is a single name: no scheme is in front, and no backslash is in the part that
belongs to a path. -/
structure IsSingleName (text : String) : Prop where
  schemeless : scheme? (trimmed text) = none
  undivided : '\\' ∉ pathPart text.toList

/-! ## Backslashes do not survive -/

namespace PathText

variable {kind : SchemeKind} {path : PathText}

theorem directory_isPrefix (kind : SchemeKind) (text : List Char) : directory kind text <+: text := by
  rw [directory]
  dsimp only
  split
  · exact List.prefix_refl text
  · exact List.take_prefix _ text

theorem above_isPrefix (kind : SchemeKind) (text : List Char) : above kind text <+: text := by
  rw [above]
  split
  · dsimp only
    split
    · exact List.prefix_refl text
    · exact (List.take_prefix _ _).trans (List.dropLast_prefix text)
  · exact directory_isPrefix kind text

theorem count_closed (text : List Char) : (closed text).count '\\' = text.count '\\' := by
  rw [closed]
  split <;> simp

theorem count_appendSegment_le (ordinary : kind ≠ .file) {piece : List Char}
    (whole : '\\' ∉ piece) (isLast : Bool) :
    (appendSegment kind path piece isLast).text.count '\\' ≤ path.text.count '\\' := by
  have above_le := (above_isPrefix kind path.text).sublist.count_le '\\'
  have segment_eq : (segment piece).count '\\' = 0 :=
    List.count_eq_zero.mpr (not_mem_encode (by decide) (by decide)
      fun member => whole (List.mem_filter.mp member).1)
  rw [appendSegment_eq ordinary]
  split
  · dsimp only
    split
    · exact above_le
    · rwa [count_closed]
  · split
    · exact Nat.le_of_eq (count_closed path.text)
    · cases isLast <;> simp [segment_eq]

theorem count_append_le (ordinary : kind ≠ .file) (path : PathText) {pieces : List (List Char)}
    (whole : ∀ piece ∈ pieces, '\\' ∉ piece) :
    (append kind path pieces).text.count '\\' ≤ path.text.count '\\' := by
  induction pieces generalizing path with
  | nil => exact Nat.le_refl _
  | cons piece more induction =>
      have first := whole piece List.mem_cons_self
      cases more with
      | nil => exact count_appendSegment_le ordinary first true
      | cons next more =>
          have rest := induction (appendSegment kind path piece false)
            fun other member => whole other (List.mem_cons_of_mem piece member)
          exact Nat.le_trans rest (count_appendSegment_le ordinary first false)

/-- A path that was read with a common scheme has no more backslashes than it started with. -/
theorem count_read_le (start input : List Char) :
    (read .common start input).1.text.count '\\' ≤ start.count '\\' := by
  refine count_append_le (by decide) ⟨start, false⟩ fun piece member slashed => ?_
  have whole := Text.not_separates_of_mem_piecesBy member '\\' slashed
  exact absurd whole (by decide)

end PathText

theorem count_text_segments_le (path : PathText) :
    (UrlPath.segments path.segments).text.toList.count '\\' ≤ path.text.count '\\' := by
  obtain ⟨text, readDrive⟩ := path
  cases text with
  | nil => exact Nat.le_refl _
  | cons first rest =>
      -- The path is written with a slash in front, whatever it was read from.
      have text_eq : (UrlPath.segments (PathText.segments ⟨'/' :: rest, readDrive⟩)).text.toList =
          '/' :: rest := text_segments_segments rfl
      have same : PathText.segments ⟨first :: rest, readDrive⟩ =
          PathText.segments ⟨'/' :: rest, readDrive⟩ := rfl
      rw [same, text_eq, List.count_cons_of_ne (by decide)]
      exact List.count_le_count_cons

/-! ## Reading a single name -/

/-- A name that starts with the character is read as a segment, and not as one of dots. -/
structure StartsName (c : Char) : Prop where
  visible : IsVisible c
  ordinary : c ∉ ['/', '\\', '?', '#']
  plain : encodeCharacter EncodeSet.path c = [c]
  named : c.toLower ≠ '.' ∧ c.toLower ≠ '%'

namespace StartsName

variable {c : Char} (starts : StartsName c)
include starts

theorem inPath : Url.inPath c = true := by
  have ordinary := starts.ordinary
  simp only [List.mem_cons, List.not_mem_nil, or_false, not_or] at ordinary
  simp [Url.inPath, ordinary]

theorem segment_cons (rest : List Char) : segment (c :: rest) = c :: segment rest := by
  have stays : withoutBreaks (c :: rest) = c :: withoutBreaks rest :=
    List.filter_cons_of_pos (by simp [isBreak_of_isVisible starts.visible])
  rw [segment, stays, encode, List.flatMap_cons, starts.plain]
  rfl

theorem not_dots (rest : List Char) :
    PathText.isDoubleDot (c :: rest) = false ∧ PathText.isSingleDot (c :: rest) = false := by
  have named := starts.named
  constructor
  · simp [PathText.isDoubleDot, String.ext_iff, named]
  · simp [PathText.isSingleDot, String.ext_iff, named]

theorem read_eq (start : List Char) {rest : List Char}
    (whole : ∀ d ∈ (c :: rest).takeWhile Url.inPath, SchemeKind.common.separates d = false) :
    (PathText.read .common start (c :: rest)).1.text =
      start ++ segment ((c :: rest).takeWhile Url.inPath) := by
  have read_eq : (PathText.read .common start (c :: rest)).1 =
      PathText.append .common ⟨start, false⟩
        (Text.piecesBy SchemeKind.common.separates ((c :: rest).takeWhile Url.inPath)) := rfl
  rw [read_eq, Text.piecesBy_of_whole whole, PathText.append, PathText.appendSegment_eq (by decide),
    List.takeWhile_cons_of_pos starts.inPath, starts.segment_cons]
  obtain ⟨up, here⟩ := starts.not_dots (segment (rest.takeWhile Url.inPath))
  simp [up, here]

end StartsName

theorem pathPart_sublist (text : List Char) : (pathPart text).Sublist text := by
  have ended := (List.dropWhile_sublist (fun c : Char => decide (c.toNat ≤ 0x20))
    (l := text.reverse)).reverse
  rw [List.reverse_reverse] at ended
  exact ((List.takeWhile_sublist inPath).trans List.filter_sublist).trans ended

theorem segment_pathPart (text : List Char) :
    segment (pathPart text) = encode EncodeSet.path (pathPart text) := by
  have stays : withoutBreaks (pathPart text) = pathPart text := by
    refine List.filter_eq_self.mpr fun c member => ?_
    exact (List.mem_filter.mp ((List.takeWhile_sublist inPath).subset member)).2
  rw [segment, stays]

section Reading

variable {text : String} {c : Char} {rest : List Char}

theorem pathPart_eq (starts : StartsName c) (text_eq : text.toList = c :: rest) :
    pathPart text.toList = (withoutBreaks (trimmed text)).takeWhile inPath := by
  have visible : ¬c.toNat ≤ 0x20 := Nat.not_le_of_lt starts.visible
  have begun : text.toList.dropWhile (fun c => decide (c.toNat ≤ 0x20)) = text.toList := by
    rw [text_eq]
    exact List.dropWhile_cons_of_neg (by simpa using visible)
  rw [pathPart, trimmed, begun]

/-- What is left of a name to be read starts like the name. -/
theorem exists_trimmed_eq (starts : StartsName c) (text_eq : text.toList = c :: rest) :
    ∃ more, trimmed text = c :: more ∧ withoutBreaks (trimmed text) = c :: withoutBreaks more := by
  have trimmed_eq := trimmed_append [] nofun starts.visible text_eq
  refine ⟨_, trimmed_eq, ?_⟩
  rw [trimmed_eq]
  exact List.filter_cons_of_pos (by simp [isBreak_of_isVisible starts.visible])

variable {base url : Url}

theorem head?_of_scheme? {more after : List Char} {scheme : String} (stays : isBreak c = false)
    (found : scheme? (c :: more) = some (scheme, after)) :
    scheme.toList.head? = some c.toLower := by
  unfold scheme? at found
  dsimp only at found
  split at found
  next first others _ named _ =>
    split at found
    next =>
      obtain ⟨rfl, _⟩ := Prod.mk.inj (Option.some.inj found)
      have first_eq : first = c := by
        rw [List.takeWhile_cons] at named
        split at named
        · rw [withoutBreaks, List.filter_cons_of_pos (by simp [stays])] at named
          exact (List.cons.inj named).1.symm
        · cases named
      simp [first_eq]
    next => cases found
  next => cases found

theorem withTail_scheme (scheme : String) (authority : Option Authority) (path : UrlPath)
    (text : List Char) : (withTail scheme authority path text).scheme = scheme := by
  unfold withTail
  dsimp only
  split <;> rfl

theorem scheme_of_parseAbsolute {base : Option Url} {scheme : String} {text : List Char}
    (other : SchemeKind.of scheme = .other) (parsed : parseAbsolute base scheme text = .ok url) :
    url.scheme = scheme := by
  unfold parseAbsolute at parsed
  simp only [other] at parsed
  split at parsed
  next after _ =>
    rw [afterSlashes] at parsed
    cases authority_eq : readAuthority scheme after with
    | error cause =>
        rw [authority_eq] at parsed
        exact nomatch parsed
    | ok read =>
        rw [authority_eq] at parsed
        obtain rfl := Except.ok.inj parsed
        exact (withPath_frame _ _ _).1
  next =>
    obtain rfl := Except.ok.inj parsed
    exact (withPath_frame _ _ _).1
  next =>
    obtain rfl := Except.ok.inj parsed
    exact withTail_scheme _ _ _ _

/-- Text that starts a name but has no common scheme is joined as a file of the directory, under its
encoded name, exactly if it is a single name. -/
theorem isFile_join_iff (common : SchemeKind.of base.scheme = .common)
    (directory : base.IsDirectory) (starts : StartsName c) (text_eq : text.toList = c :: rest)
    (foreign : ∀ scheme after, scheme? (trimmed text) = some (scheme, after) →
      SchemeKind.of scheme = .other)
    (whole : '/' ∉ text.toList) (joined : base.join text = .ok url) :
    base.IsFile (encode EncodeSet.path (pathPart text.toList)) url ↔ IsSingleName text := by
  obtain ⟨more, _, readable⟩ := exists_trimmed_eq starts text_eq
  have part_eq := pathPart_eq starts text_eq
  rw [readable] at part_eq
  constructor
  · intro isFile
    have schemeless : scheme? (trimmed text) = none := by
      cases found : scheme? (trimmed text) with
      | none => rfl
      | some split =>
          obtain ⟨scheme, after⟩ := split
          have other := foreign scheme after found
          unfold join read at joined
          simp only [found] at joined
          rw [← scheme_of_parseAbsolute other joined, isFile.scheme, common] at other
          exact nomatch other
    refine ⟨schemeless, fun divided => ?_⟩
    rw [join_of_segment common directory schemeless readable starts.ordinary] at joined
    obtain rfl := Except.ok.inj joined
    -- The backslashes of the name would have to be in the path that was read.
    have path_eq := congrArg (List.count '\\') isFile.path
    have kept : 0 < (encode EncodeSet.path (pathPart text.toList)).count '\\' :=
      List.count_pos_iff.mpr (List.mem_flatMap.mpr ⟨'\\', divided, by decide⟩)
    have read_le := PathText.count_read_le base.path.text.toList (c :: withoutBreaks more)
    have segments_le := count_text_segments_le
      (PathText.read .common base.path.text.toList (c :: withoutBreaks more)).1
    rw [(withPath_frame _ _ _).2.2, List.count_append] at path_eq
    omega
  · rintro ⟨schemeless, undivided⟩
    rw [join_of_segment common directory schemeless readable starts.ordinary] at joined
    obtain rfl := Except.ok.inj joined
    have whole' : ∀ d ∈ pathPart text.toList, SchemeKind.common.separates d = false := by
      intro d member
      have slash : d ≠ '/' := fun same => whole (same ▸ (pathPart_sublist _).subset member)
      have backslash : d ≠ '\\' := fun same => undivided (same ▸ member)
      simp [SchemeKind.separates, slash, backslash]
    have read_eq := starts.read_eq base.path.text.toList (part_eq ▸ whole')
    rw [← part_eq, segment_pathPart] at read_eq
    have rooted : (PathText.read .common base.path.text.toList
        (c :: withoutBreaks more)).1.text.head? = some '/' := by
      rw [read_eq, List.head?_append, directory.rooted]
      rfl
    obtain ⟨scheme_eq, authority_eq, path_eq⟩ := withPath_frame base.scheme base.authority
      (PathText.read .common base.path.text.toList (c :: withoutBreaks more))
    refine ⟨scheme_eq, authority_eq, ?_, ?_, ?_⟩
    · rw [path_eq, text_segments_segments rooted, read_eq]
    · exact slash_not_mem_encode fun member => whole ((pathPart_sublist _).subset member)
    · rw [← segment_pathPart, part_eq, List.takeWhile_cons_of_pos starts.inPath,
        starts.segment_cons]
      exact List.cons_ne_nil _ _

end Reading

end Url
end Workbench
