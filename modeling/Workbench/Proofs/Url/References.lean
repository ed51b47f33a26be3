import Mathlib.Data.List.DropRight
import Workbench.Proofs.Url.Directories

/-!
# Names that are joined to directories

A name of letters, digits, dashes and dots is read as it stands: it has no scheme, and nothing in it
is encoded, is left out or leads elsewhere. Joined to a URL it takes the place of what is behind the
last slash of the path, so that the whole path is kept exactly if it ends with a slash.
-/

namespace Workbench
namespace Url

variable {name : String} {segment start : List Char} {c : Char}

/-! ## References -/

/-- The characters that names are written with. -/
def isNameCharacter (c : Char) : Bool := c.isAlphanum || c = '-' || c = '.'

/-- The segment is written with characters of names, and it is not one that is empty or leads
elsewhere. -/
structure IsFileName (segment : List Char) : Prop where
  written : segment.all isNameCharacter = true
  named : segment ∉ [[], ['.'], ['.', '.']]

instance : DecidablePred IsFileName := fun segment =>
  decidable_of_iff (segment.all isNameCharacter = true ∧ segment ∉ [[], ['.'], ['.', '.']])
    ⟨fun ⟨written, named⟩ => ⟨written, named⟩, fun ⟨written, named⟩ => ⟨written, named⟩⟩

/-- The text refers to a file in a directory: names between slashes. -/
def IsReference (name : String) : Prop := ∀ segment ∈ Text.pieces '/' name.toList, IsFileName segment

instance : DecidablePred IsReference := fun _ => List.decidableBAll _ _

/-- The character stands in a path as it is, and it makes no segment mean anything else. -/
structure StandsInPath (c : Char) : Prop where
  visible : IsVisible c
  ordinary : c ∉ ['/', '\\', '?', '#', ':', '|']
  encoded : encodeCharacter EncodeSet.path c = [c]
  sign : c.toLower ≠ '%'
  dot : c.toLower = '.' → c = '.'

instance : DecidablePred StandsInPath := fun c =>
  decidable_of_iff (IsVisible c ∧ c ∉ ['/', '\\', '?', '#', ':', '|'] ∧
      encodeCharacter EncodeSet.path c = [c] ∧ c.toLower ≠ '%' ∧ (c.toLower = '.' → c = '.'))
    ⟨fun ⟨visible, ordinary, encoded, sign, dot⟩ => ⟨visible, ordinary, encoded, sign, dot⟩,
      fun ⟨visible, ordinary, encoded, sign, dot⟩ => ⟨visible, ordinary, encoded, sign, dot⟩⟩

theorem toNat_lt_of_isNameCharacter (written : isNameCharacter c = true) : c.toNat < 0x80 := by
  -- Letters and digits come in three ranges, each with its last character in ASCII.
  have below (last : Char) (ascii : last.toNat < 0x80) (within : c.val ≤ last.val) :
      c.toNat < 0x80 := Nat.lt_of_le_of_lt (UInt32.le_iff_toNat_le.mp within) ascii
  rw [isNameCharacter, Bool.or_eq_true, Bool.or_eq_true, decide_eq_true_eq,
    decide_eq_true_eq] at written
  rcases written with (alphanumeric | rfl) | rfl
  · rcases Bool.or_eq_true_iff.mp alphanumeric with letter | digit
    · rcases Bool.or_eq_true_iff.mp letter with upper | lower
      · exact below 'Z' (by decide) (of_decide_eq_true upper).2
      · exact below 'z' (by decide) (of_decide_eq_true (Bool.and_eq_true_iff.mp lower).2)
    · exact below '9' (by decide) (of_decide_eq_true (Bool.and_eq_true_iff.mp digit).2)
  · decide
  · decide

theorem standsInPath_of_isNameCharacter (written : isNameCharacter c = true) : StandsInPath c := by
  have table : ∀ n < 0x80, isNameCharacter (Char.ofNat n) = true → StandsInPath (Char.ofNat n) := by
    decide +kernel
  have stands := table c.toNat (toNat_lt_of_isNameCharacter written)
  rw [Char.ofNat_toNat] at stands
  exact stands written

namespace IsFileName

variable (isName : IsFileName segment)
include isName

theorem stands (member : c ∈ segment) : StandsInPath c :=
  standsInPath_of_isNameCharacter (List.all_eq_true.mp isName.written c member)

theorem ne_nil : segment ≠ [] := fun empty => isName.named (by simp [empty])

theorem encode_eq : encode EncodeSet.path segment = segment := by
  have same : encode EncodeSet.path segment = segment.flatMap ([·]) :=
    List.flatMap_congr fun c member => (isName.stands member).encoded
  rw [same, List.flatMap_singleton']

theorem not_isBreak : ∀ c ∈ segment, isBreak c = false :=
  fun _ member => isBreak_of_isVisible (isName.stands member).visible

theorem sign_not_mem : '%' ∉ segment.map Char.toLower := by
  intro member
  obtain ⟨c, inside, same⟩ := List.mem_map.mp member
  exact (isName.stands inside).sign same

theorem eq_replicate_of_map_toLower (count : Nat)
    (dots : segment.map Char.toLower = List.replicate count '.') :
    segment = List.replicate count '.' := by
  refine List.eq_replicate_iff.mpr ⟨by simpa using congrArg List.length dots, fun c member => ?_⟩
  refine (isName.stands member).dot (List.eq_of_mem_replicate (n := count) ?_)
  rw [← dots]
  exact List.mem_map_of_mem member

theorem not_isDoubleDot : PathText.isDoubleDot segment = false := by
  have unsigned := isName.sign_not_mem
  rw [PathText.isDoubleDot, decide_eq_false_iff_not]
  intro member
  simp only [List.mem_cons, String.ext_iff, String.toList_ofList, List.not_mem_nil, or_false] at member
  rcases member with dots | signed | signed | signed
  · exact isName.named (by simp [isName.eq_replicate_of_map_toLower 2 dots])
  all_goals exact unsigned (by simp [signed])

theorem not_isSingleDot : PathText.isSingleDot segment = false := by
  have unsigned := isName.sign_not_mem
  rw [PathText.isSingleDot, decide_eq_false_iff_not]
  intro member
  simp only [List.mem_cons, String.ext_iff, String.toList_ofList, List.not_mem_nil, or_false] at member
  rcases member with dots | signed
  · exact isName.named (by simp [isName.eq_replicate_of_map_toLower 1 dots])
  · exact unsigned (by simp [signed])

theorem not_isDrive : isDrive segment = false := by
  rcases segment with _ | ⟨letter, _ | ⟨mark, _ | _⟩⟩
  · rfl
  · rfl
  · have ordinary := (isName.stands (c := mark) (by simp)).ordinary
    simp only [List.mem_cons, not_or] at ordinary
    simp [isDrive, ordinary]
  · rfl

end IsFileName

/-! ## Reading references -/

namespace IsReference

variable (reference : IsReference name)
include reference

theorem stands (member : c ∈ name.toList) : c = '/' ∨ StandsInPath c := by
  by_cases slash : c = '/'
  · exact .inl slash
  · have inside : c ∈ (Text.piecesBy (· = '/') name.toList).flatten := by
      rw [Text.flatten_piecesBy]
      exact List.mem_filter.mpr ⟨member, by simp [slash]⟩
    rw [Text.piecesBy_eq_pieces fun c _ => decide_eq_true_iff] at inside
    obtain ⟨piece, among, inside⟩ := List.mem_flatten.mp inside
    exact .inr ((reference piece among).stands inside)

theorem ordinary (member : c ∈ name.toList) : c ∉ ['\\', '?', '#', ':', '|'] := by
  rcases reference.stands member with rfl | stands
  · decide
  · exact fun other => stands.ordinary (List.mem_cons_of_mem '/' other)

theorem exists_cons : ∃ first rest, name.toList = first :: rest ∧ first ≠ '/' :=
  Text.exists_cons_of_pieces fun piece member => (reference piece member).ne_nil

theorem schemeless : scheme? name.toList = none := by
  unfold scheme?
  dsimp only
  split
  next rest _ dropped =>
    have member : ':' ∈ name.toList :=
      (List.dropWhile_sublist _).subset (by rw [dropped]; exact List.mem_cons_self)
    exact absurd (reference.ordinary member) (by decide)
  next => rfl

theorem isPlain : IsPlain name.toList where
  relative := reference.exists_cons
  visible c member := by
    rcases reference.stands member with rfl | stands
    · decide
    · exact stands.visible
  inPath c member := by
    have ordinary := reference.ordinary member
    simp only [List.mem_cons, not_or] at ordinary
    simp [Url.inPath, ordinary]
  slashed member := reference.ordinary member (by decide)
  schemeless := reference.schemeless
  named piece member := by
    have isName := reference piece member
    have same : Url.segment piece = piece := by
      rw [Url.segment, withoutBreaks, List.filter_eq_self.mpr, isName.encode_eq]
      exact fun c inside => by simp [isName.not_isBreak c inside]
    rw [same]
    exact ⟨isName.not_isDoubleDot, isName.not_isSingleDot⟩

theorem trimmed_eq : trimmed name = name.toList := by
  have stays {text : List Char} (shown : ∀ c ∈ text, IsVisible c) :
      text.dropWhile (fun c => decide (c.toNat ≤ 0x20)) = text := by
    cases text with
    | nil => rfl
    | cons c rest =>
        have visible : ¬c.toNat ≤ 0x20 := Nat.not_le_of_lt (shown c List.mem_cons_self)
        exact List.dropWhile_cons_of_neg (by simpa using visible)
  have visible := reference.isPlain.visible
  rw [trimmed, stays visible, stays fun c member => visible c (List.mem_reverse.mp member),
    List.reverse_reverse]

theorem not_startsWithDrive : startsWithDrive name.toList = false := by
  have no_drive : isDrive (name.toList.take 2) = false := by
    rcases front : name.toList.take 2 with _ | ⟨letter, _ | ⟨mark, _ | _⟩⟩
    · rfl
    · rfl
    · have member : mark ∈ name.toList := List.mem_of_mem_take (i := 2) (by simp [front])
      have ordinary := reference.ordinary member
      simp only [List.mem_cons, not_or] at ordinary
      simp [isDrive, ordinary]
    · rfl
  rw [startsWithDrive, no_drive, Bool.false_and]

end IsReference

namespace PathText

variable {kind : SchemeKind} {path : PathText}

theorem isPlainDrive_of_ended {text : List Char} (ended : text.getLast? = some '/') :
    isPlainDrive (text.drop 1) = false := by
  rcases dropped : text.drop 1 with _ | ⟨letter, _ | ⟨mark, _ | _⟩⟩
  · rfl
  · rfl
  · have last : (text.drop 1).getLast? = _ := List.getLast?_drop
    rw [dropped, ended] at last
    split at last
    · cases last
    · obtain rfl := Option.some.inj last
      simp [isPlainDrive]
  · rfl

/-- Behind a slash a file name is appended as it is, whatever the scheme is. -/
theorem appendSegment_of_isFileName (ended : path.text.getLast? = some '/')
    (isName : IsFileName segment) (isLast : Bool) : appendSegment kind path segment isLast =
      { path with text := path.text ++ segment ++ (if isLast then [] else ['/']) } := by
  have runs : Text.piecesBy isBreak segment = [segment] := Text.piecesBy_of_whole isName.not_isBreak
  have no_drive := isPlainDrive_of_ended ended
  have appended : appendRun kind (path.text, path.text.length) segment =
      (path.text ++ segment, path.text.length) := by
    rw [appendRun, no_drive, isName.encode_eq]
    simp [isName.ne_nil]
  rw [appendSegment, runs, List.foldl_cons, List.foldl_nil, appended]
  simp only [List.take_left, List.drop_left, isName.not_isDoubleDot, isName.not_isSingleDot,
    isName.not_isDrive, Bool.and_false, Bool.false_eq_true, if_false]

theorem append_of_isFileName (ended : path.text.getLast? = some '/')
    {segments : List (List Char)} (some_segment : segments ≠ [])
    (areNames : ∀ segment ∈ segments, IsFileName segment) : append kind path segments =
      { path with text := path.text ++ ['/'].intercalate segments } := by
  induction segments generalizing path with
  | nil => exact absurd rfl some_segment
  | cons segment more induction =>
      have first := areNames segment List.mem_cons_self
      cases more with
      | nil => simp [append, appendSegment_of_isFileName ended first, List.intercalate]
      | cons next more =>
          have unfolded : append kind path (segment :: next :: more) =
              append kind (appendSegment kind path segment false) (next :: more) := rfl
          rw [unfolded, appendSegment_of_isFileName ended first,
            induction (by simp) (List.cons_ne_nil next more)
              fun other member => areNames other (List.mem_cons_of_mem segment member)]
          simp [List.intercalate]

/-- The slashes in front are put together to one, as they are in files. -/
def IsTidy (text : List Char) : Prop := '/' :: text.dropWhile (· = '/') = text

theorem isTidy_root (text : List Char) : IsTidy ('/' :: text.dropWhile (· = '/')) := by
  rw [IsTidy, List.dropWhile_cons_of_pos (by decide), List.dropWhile_idempotent]

/-- A reference is put behind a start with a slash at its end. -/
theorem read_of_isReference (kind : SchemeKind) (ended : start.getLast? = some '/')
    (tidy : kind = .file → IsTidy start) (reference : IsReference name) :
    (read kind start name.toList).1.text = start ++ name.toList := by
  have plain := reference.isPlain
  have taken : name.toList.takeWhile Url.inPath = name.toList :=
    List.takeWhile_eq_self_iff.mpr plain.inPath
  have cut : Text.piecesBy kind.separates name.toList = Text.pieces '/' name.toList := by
    refine Text.piecesBy_eq_pieces fun c member => ?_
    have slashed : c ≠ '\\' := fun same => plain.slashed (same ▸ member)
    simp [SchemeKind.separates, slashed]
  rw [text_read, taken, cut,
    append_of_isFileName ended (Text.pieces_ne_nil '/' name.toList) reference,
    Text.intercalate_pieces]
  dsimp only
  split
  next file =>
    obtain ⟨first, rest, name_eq, relative⟩ := reference.exists_cons
    have stays : name.toList.dropWhile (· = '/') = name.toList := by
      rw [name_eq]
      exact List.dropWhile_cons_of_neg (by simpa using relative)
    -- What is behind the first slash of the start begins with no other, and neither does the name.
    calc '/' :: (start ++ name.toList).dropWhile (· = '/')
        = '/' :: (start.dropWhile (· = '/') ++ name.toList) := by
          rw [List.dropWhile_append, stays]
          split
          next none => rw [List.isEmpty_iff.mp none, List.nil_append]
          next => rfl
      _ = start ++ name.toList := by rw [← List.cons_append, tidy file]
  next => rfl

/-- In front of its last segment a text ends with a slash, unless nothing is there. -/
theorem splitLast_ended (text : List Char) :
    (splitLast text).1 = [] ∨ (splitLast text).1.getLast? = some '/' := by
  by_cases slash : '/' ∈ text
  · obtain ⟨last, front, parts, fresh⟩ := List.eq_append_cons_of_mem (List.mem_reverse.mpr slash)
    have text_eq : text = (front.reverse ++ ['/']) ++ last.reverse := by
      rw [← List.reverse_reverse text, parts]
      simp
    have ended : (front.reverse ++ ['/']).getLast? = some '/' := List.getLast?_concat
    rw [text_eq, splitLast_append ended fun member => fresh (List.mem_reverse.mp member)]
    exact .inr ended
  · have whole : text.reverse.takeWhile (· ≠ '/') = text.reverse := by
      refine List.takeWhile_eq_self_iff.mpr fun c member => decide_eq_true ?_
      rintro rfl
      exact slash (List.mem_reverse.mp member)
    rw [splitLast, whole]
    exact .inl (by simp)

end PathText

/-! ## Joining references -/

theorem SchemeKind.of_eq_file_iff {scheme : String} : of scheme = .file ↔ scheme = "file" := by
  rw [of]
  split
  next file => exact ⟨fun _ => file, fun _ => rfl⟩
  next foreign =>
    refine ⟨fun file => ?_, (absurd · foreign)⟩
    split at file <;> exact nomatch file

variable {base : Url}

/-- The text that names are put behind: the path up to its last slash, or the root if the path is
empty. In files a drive letter stays. -/
def frontText (base : Url) : List Char :=
  if base.scheme ≠ "file" ∧ base.directoryText = [] then ['/'] else base.directoryText

/-- References are read behind the directory of any URL with a path of segments. -/
theorem join_of_isReference (based : base.isRootless = false) (reference : IsReference name) :
    base.join name = .ok (withPath base.scheme base.authority
      (PathText.read (SchemeKind.of base.scheme) base.frontText name.toList)) := by
  have plain := reference.isPlain
  obtain ⟨first, rest, name_eq, slash⟩ := reference.exists_cons
  have inside : first ∈ name.toList := by simp [name_eq]
  have ordinary := reference.ordinary inside
  simp only [List.mem_cons, List.not_mem_nil, or_false, not_or] at ordinary
  obtain ⟨backslash, question, number, -, -⟩ := ordinary
  have no_tail : isTail name.toList = false := by simp [isTail, name_eq, question, number]
  have no_slash : isSlash first = false := by simp [isSlash, slash, backslash]
  unfold join read
  simp only [reference.trimmed_eq, reference.schemeless, plain.withoutBreaks_eq, based,
    Bool.false_eq_true, if_false]
  rw [name_eq] at no_tail
  rw [if_neg (by simp [name_eq, number])]
  split
  next file =>
    have solid : next? name.toList = some (first, rest) := by
      have stays := isBreak_of_isVisible (plain.visible first inside)
      rw [next?, name_eq, List.dropWhile_cons_of_neg (by simp [stays])]
    rw [parseFile, solid]
    simp only [no_slash, Bool.false_eq_true, if_false]
    have front : base.frontText = base.directoryText := if_neg (by simp [file])
    have kind : SchemeKind.of base.scheme = .file := by rw [file]; rfl
    rw [parseFile.relative, plain.withoutBreaks_eq, name_eq, no_tail, ← name_eq,
      reference.not_startsWithDrive, front, kind, file]
    rfl
  next foreign =>
    have front : base.frontText =
        if base.directoryText.isEmpty then ['/'] else base.directoryText := by
      simp [frontText, foreign, List.isEmpty_iff]
    rw [name_eq, parseRelative, no_tail, no_slash, front]
    · rfl
    · exact fun _ same => absurd same slash

theorem rooted_of_ne_nil (based : base.isRootless = false)
    (some_text : base.path.text.toList ≠ []) : base.path.text.toList.head? = some '/' := by
  cases path_eq : base.path with
  | rootless text =>
      rw [isRootless, path_eq] at based
      cases based
  | segments names =>
      rw [path_eq, toList_text_segments] at some_text
      rw [toList_text_segments]
      cases names with
      | nil => exact absurd rfl some_text
      | cons name more => rfl

/-- The path ends with a slash. -/
def EndsInSlash (url : Url) : Prop := url.path.text.toList.getLast? = some '/'

theorem frontText_of_endsInSlash (ended : base.EndsInSlash) :
    base.frontText = base.path.text.toList := by
  have within : base.directoryText = base.path.text.toList := PathText.directory_of_ended ended
  rw [frontText, within]
  refine if_neg fun empty => ?_
  rw [EndsInSlash, empty.2] at ended
  exact nomatch ended

/-- Outside files, names are put behind a slash, whatever the path is. -/
theorem frontText_frame (based : base.isRootless = false) (foreign : base.scheme ≠ "file") :
    base.frontText.getLast? = some '/' ∧ base.frontText.head? = some '/' := by
  by_cases none : base.directoryText = []
  · rw [frontText, if_pos ⟨foreign, none⟩]
    exact ⟨rfl, rfl⟩
  · rw [frontText, if_neg fun empty => none empty.2]
    have ordinary : SchemeKind.of base.scheme ≠ .file := mt SchemeKind.of_eq_file_iff.mp foreign
    have front : base.directoryText = (PathText.splitLast base.path.text.toList).1 := by
      simp [directoryText, PathText.directory, ordinary]
    refine ⟨(front ▸ PathText.splitLast_ended _).resolve_left none, ?_⟩
    obtain ⟨more, text_eq⟩ := PathText.directory_isPrefix (SchemeKind.of base.scheme)
      base.path.text.toList
    rw [← directoryText] at text_eq
    have rooted := rooted_of_ne_nil based fun empty => by simp [empty, none] at text_eq
    obtain ⟨first, rest, front_eq⟩ := List.exists_cons_of_ne_nil none
    rw [← text_eq, front_eq] at rooted
    rw [front_eq]
    exact rooted

theorem exists_join (based : base.isRootless = false) (ended : base.frontText.getLast? = some '/')
    (rooted : base.frontText.head? = some '/')
    (tidy : base.scheme = "file" → PathText.IsTidy base.frontText) (reference : IsReference name) :
    ∃ url, base.join name = .ok url ∧ url.scheme = base.scheme ∧ url.authority = base.authority ∧
      url.path.text.toList = base.frontText ++ name.toList := by
  refine ⟨_, join_of_isReference based reference, ?_⟩
  obtain ⟨scheme_eq, authority_eq, path_eq⟩ := withPath_frame base.scheme base.authority
    (PathText.read (SchemeKind.of base.scheme) base.frontText name.toList)
  have read_eq := PathText.read_of_isReference (SchemeKind.of base.scheme) ended
    (fun file => tidy (SchemeKind.of_eq_file_iff.mp file)) reference
  refine ⟨scheme_eq, authority_eq, ?_⟩
  rw [path_eq, text_segments_segments, read_eq]
  rw [read_eq, List.head?_append, rooted]
  rfl

theorem isTidy_of_file {text : String} (read : parse text = .ok base) (file : base.scheme = "file") :
    PathText.IsTidy base.path.text.toList := by
  obtain ⟨start, input, path_eq⟩ := exists_read_of_file read file
  have text_eq := PathText.text_read .file start input
  rw [if_pos rfl] at text_eq
  have rooted : (PathText.read .file start input).1.text.head? = some '/' := by
    rw [text_eq]
    rfl
  rw [path_eq, text_segments_segments rooted, text_eq]
  exact PathText.isTidy_root _

/-- References are put behind the whole path of the URL. -/
def KeepsPath (base : Url) : Prop :=
  ∀ name, IsReference name → ∃ url, base.join name = .ok url ∧ url.scheme = base.scheme ∧
    url.authority = base.authority ∧ url.path.text = base.path.text ++ name

theorem keepsPath_of_endsInSlash (based : base.isRootless = false) (ended : base.EndsInSlash)
    (tidy : base.scheme = "file" → PathText.IsTidy base.path.text.toList) : base.KeepsPath := by
  intro name reference
  have front := frontText_of_endsInSlash ended
  have rooted := rooted_of_ne_nil based fun empty => by simp [EndsInSlash, empty] at ended
  obtain ⟨url, joined, scheme_eq, authority_eq, path_eq⟩ := exists_join based (front ▸ ended)
    (front ▸ rooted) (front ▸ tidy) reference
  refine ⟨url, joined, scheme_eq, authority_eq, String.toList_injective ?_⟩
  rw [path_eq, front, String.toList_append]

/-- Outside files, no other path is kept. -/
theorem keepsPath_iff (based : base.isRootless = false) (foreign : base.scheme ≠ "file") :
    base.KeepsPath ↔ base.EndsInSlash := by
  refine ⟨fun keeps => ?_, fun ended => keepsPath_of_endsInSlash based ended (absurd · foreign)⟩
  have reference : IsReference "x" := by decide
  obtain ⟨ended, rooted⟩ := frontText_frame based foreign
  obtain ⟨url, joined, -, -, path_eq⟩ := exists_join based ended rooted (absurd · foreign) reference
  obtain ⟨url', joined', -, -, path_eq'⟩ := keeps "x" reference
  obtain rfl := Except.ok.inj (joined.symm.trans joined')
  have same : base.frontText ++ "x".toList = base.path.text.toList ++ "x".toList := by
    rw [← path_eq, path_eq', String.toList_append]
  rw [EndsInSlash, ← List.append_cancel_right same]
  exact ended

end Url
end Workbench
