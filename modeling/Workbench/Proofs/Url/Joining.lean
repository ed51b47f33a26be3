import Mathlib.Data.List.Basic
import Workbench.Proofs.Path.Resolution
import Workbench.Url.Parse

/-!
# What relative text makes of a URL

Text without a scheme is read segment by segment behind the directory of the URL that it is relative
to. Every segment is encoded and appended, unless it is made of dots. As long as segments of dots
lead up no further than other segments led down before, the path stays behind the text that it
started with, and so does everything that is read after that text.
-/

namespace Workbench

namespace Text

variable {separates : Char → Bool}

theorem piecesBy_of_cut {c : Char} (cut : separates c = true) (text : List Char) :
    piecesBy separates (c :: text) = [] :: piecesBy separates text := by
  rw [piecesBy, if_pos cut]

theorem exists_piecesBy_of_whole {c : Char} (whole : separates c = false) (text : List Char) :
    ∃ piece more, piecesBy separates text = piece :: more ∧
      piecesBy separates (c :: text) = (c :: piece) :: more := by
  obtain ⟨piece, more, shape⟩ : ∃ piece more, piecesBy separates text = piece :: more := by
    cases text with
    | nil => exact ⟨_, _, rfl⟩
    | cons d text =>
        rw [piecesBy]
        split
        · exact ⟨_, _, rfl⟩
        · split <;> exact ⟨_, _, rfl⟩
  refine ⟨piece, more, shape, ?_⟩
  rw [piecesBy, whole, shape]
  rfl

theorem piecesBy_ne_nil (separates : Char → Bool) (text : List Char) :
    piecesBy separates text ≠ [] := by
  cases text with
  | nil => simp [piecesBy]
  | cons c text =>
      rw [piecesBy]
      split
      · simp
      · split <;> simp

theorem piecesBy_append (front : List Char) {c : Char} (cut : separates c = true)
    (back : List Char) :
    piecesBy separates (front ++ c :: back) =
      piecesBy separates front ++ piecesBy separates back := by
  induction front with
  | nil => exact piecesBy_of_cut cut back
  | cons d front induction =>
      rw [List.cons_append]
      cases same : separates d with
      | true => rw [piecesBy_of_cut same, piecesBy_of_cut same, induction, List.cons_append]
      | false =>
          obtain ⟨piece, more, shape, first⟩ := exists_piecesBy_of_whole same front
          obtain ⟨_, _, longer, all⟩ := exists_piecesBy_of_whole same (front ++ c :: back)
          rw [induction, shape, List.cons_append] at longer
          obtain ⟨rfl, rfl⟩ := List.cons.inj longer
          rw [all, first, List.cons_append]

theorem piecesBy_eq_pieces {separator : Char} {text : List Char}
    (only : ∀ c ∈ text, separates c = true ↔ c = separator) :
    piecesBy separates text = pieces separator text := by
  induction text with
  | nil => rfl
  | cons c text induction =>
      rw [piecesBy, pieces, induction fun d member => only d (List.mem_cons_of_mem c member)]
      simp only [only c List.mem_cons_self]

theorem flatten_piecesBy (separates : Char → Bool) (text : List Char) :
    (piecesBy separates text).flatten = text.filter (!separates ·) := by
  induction text with
  | nil => rfl
  | cons c text induction =>
      cases same : separates c with
      | true => simp [piecesBy_of_cut same, same, induction]
      | false =>
          obtain ⟨piece, more, shape, first⟩ := exists_piecesBy_of_whole same text
          simp only [shape, List.flatten_cons] at induction
          simp [first, same, ← induction]

theorem exists_cons_of_pieces {separator : Char} {text : List Char}
    (some_piece : ∀ piece ∈ pieces separator text, piece ≠ []) :
    ∃ first rest, text = first :: rest ∧ first ≠ separator := by
  cases text with
  | nil => exact absurd rfl (some_piece [] List.mem_cons_self)
  | cons first rest =>
      refine ⟨first, rest, rfl, ?_⟩
      rintro rfl
      exact absurd rfl (some_piece [] (by simp [pieces]))

theorem not_separates_of_mem_piecesBy {text piece : List Char}
    (member : piece ∈ piecesBy separates text) : ∀ c ∈ piece, separates c = false := by
  induction text generalizing piece with
  | nil => simp_all [piecesBy]
  | cons c text induction =>
      cases same : separates c with
      | true =>
          rw [piecesBy_of_cut same] at member
          rcases List.mem_cons.mp member with rfl | later
          · exact fun _ inside => nomatch inside
          · exact induction later
      | false =>
          obtain ⟨first, more, shape, all⟩ := exists_piecesBy_of_whole same text
          rw [all] at member
          rcases List.mem_cons.mp member with rfl | later
          · exact List.forall_mem_cons.mpr ⟨same, induction (by simp [shape])⟩
          · exact induction (by simp [shape, later])

end Text

namespace Url

/-! ## Segments -/

/-- The segment that a piece of text becomes in a path. -/
def segment (piece : List Char) : List Char := encode EncodeSet.path (withoutBreaks piece)

theorem encode_append (set : EncodeSet) (front back : List Char) :
    encode set (front ++ back) = encode set front ++ encode set back :=
  List.flatMap_append

/-- A slash is no part of a segment, so it is left as it is. -/
theorem encode_slash (text : List Char) :
    encode EncodeSet.path ('/' :: text) = '/' :: encode EncodeSet.path text := rfl

theorem flatMap_encode {pieces : List (List Char)} (some_piece : pieces ≠ []) :
    pieces.flatMap (fun piece => encode EncodeSet.path piece ++ ['/']) =
      encode EncodeSet.path (['/'].intercalate pieces) ++ ['/'] := by
  induction pieces with
  | nil => exact absurd rfl some_piece
  | cons piece pieces induction =>
      cases pieces with
      | nil => simp [List.intercalate]
      | cons next pieces =>
          have joined : ['/'].intercalate (piece :: next :: pieces) =
              piece ++ '/' :: ['/'].intercalate (next :: pieces) := by
            simp [List.intercalate]
          rw [List.flatMap_cons, induction (List.cons_ne_nil next pieces), joined, encode_append,
            encode_slash]
          simp

theorem not_mem_encode {set : EncodeSet} {text : List Char} {c : Char} (sign : c ≠ '%')
    (digit : ∀ n < 16, upperHexDigit n ≠ c) (absent : c ∉ text) : c ∉ encode set text := by
  have byte : ∀ byte, c ∉ percentByte byte := by
    intro byte member
    have high : byte.toNat / 16 < 16 := by have := byte.toNat_lt; omega
    have low : byte.toNat % 16 < 16 := Nat.mod_lt _ (by decide)
    simp only [percentByte, List.mem_cons, List.not_mem_nil, or_false] at member
    rcases member with percent | first | second
    · exact sign percent
    · exact digit _ high first.symm
    · exact digit _ low second.symm
  intro member
  obtain ⟨d, inside, member⟩ := List.mem_flatMap.mp member
  rw [encodeCharacter] at member
  split at member
  · obtain rfl := List.mem_singleton.mp member
    exact absent inside
  · obtain ⟨own, _, member⟩ := List.mem_flatMap.mp member
    exact byte own member

theorem slash_not_mem_encode {set : EncodeSet} {text : List Char} (whole : '/' ∉ text) :
    '/' ∉ encode set text :=
  not_mem_encode (by decide) (by decide) whole

theorem slash_not_mem_segment {piece : List Char} (whole : '/' ∉ piece) : '/' ∉ segment piece :=
  slash_not_mem_encode fun member => whole (List.mem_filter.mp member).1

namespace PathText

variable {kind : SchemeKind}

/-- Outside files, what has been read up to a segment is the same in front of it. -/
theorem foldl_appendRun (ordinary : kind ≠ .file) (text : List Char) (start : Nat)
    (runs : List (List Char)) :
    runs.foldl (appendRun kind) (text, start) =
      (text ++ encode EncodeSet.path runs.flatten, start) := by
  induction runs generalizing text with
  | nil => simp [encode]
  | cons run runs induction =>
      have appended : appendRun kind (text, start) run =
          (text ++ encode EncodeSet.path run, start) := by
        cases run with
        | nil => simp [appendRun, encode]
        | cons c run => simp [appendRun, ordinary]
      rw [List.foldl_cons, appended, induction, List.flatten_cons, encode_append,
        List.append_assoc]

theorem appendSegment_eq (ordinary : kind ≠ .file) (path : PathText) (piece : List Char)
    (isLast : Bool) : appendSegment kind path piece isLast =
      if isDoubleDot (segment piece) then
        { path with text :=
          (if isLast then above kind path.text else closed (above kind path.text)) }
      else if isSingleDot (segment piece) then { path with text := closed path.text }
      else { path with text := path.text ++ segment piece ++ (if isLast then [] else ['/']) } := by
  have runs : (Text.piecesBy isBreak piece).flatten = withoutBreaks piece :=
    Text.flatten_piecesBy isBreak piece
  rw [appendSegment, foldl_appendRun ordinary, runs, ← segment]
  simp only [List.take_left, List.drop_left, ordinary, decide_false, Bool.false_and,
    Bool.false_eq_true, if_false]

/-! ## Staying below -/

/-- Text that consists of the front and at least so many segments, each with a slash behind it. -/
def Beyond (front : List Char) (depth : Nat) (text : List Char) : Prop :=
  ∃ names : List (List Char), depth ≤ names.length ∧ (∀ name ∈ names, '/' ∉ name) ∧
    text = front ++ names.flatMap (· ++ ['/'])

/-- Segments of dots among the pieces lead up no further than others led down before, when `depth`
others came before all of them. -/
def staysBelow (depth : Nat) : List (List Char) → Bool
  | [] => true
  | piece :: more =>
    if isDoubleDot (segment piece) then
      match depth with
      | 0 => false
      | depth + 1 => staysBelow depth more
    else if isSingleDot (segment piece) then staysBelow depth more
    else staysBelow (depth + 1) more

variable {front text : List Char} {depth : Nat}

theorem splitLast_append (ended : text.getLast? = some '/') {last : List Char}
    (whole : '/' ∉ last) : splitLast (text ++ last) = (text, last) := by
  obtain ⟨init, rfl⟩ := List.getLast?_eq_some_iff.mp ended
  have behind : ∀ c ∈ last.reverse, decide (c ≠ '/') = true := by
    intro c member
    rw [decide_eq_true_eq]
    rintro rfl
    exact whole (List.mem_reverse.mp member)
  have taken : ((init ++ ['/'] ++ last).reverse.takeWhile (· ≠ '/')).reverse = last := by
    rw [List.reverse_append, List.takeWhile_append_of_pos behind]
    simp
  rw [splitLast, taken, List.length_append, Nat.add_sub_cancel, List.take_left]

theorem directory_of_ended (ended : text.getLast? = some '/') : directory kind text = text := by
  have split := splitLast_append ended (List.not_mem_nil (a := '/'))
  rw [List.append_nil] at split
  simp [directory, split, isPlainDrive]

theorem closed_of_ended (ended : text.getLast? = some '/') : closed text = text := if_pos ended

namespace Beyond

theorem refl (front : List Char) : Beyond front 0 front := ⟨[], Nat.le_refl 0, nofun, by simp⟩

theorem starts (beyond : Beyond front depth text) : front <+: text := by
  obtain ⟨names, _, _, rfl⟩ := beyond
  exact List.prefix_append _ _

theorem ended (beyond : Beyond front depth text) (front_ended : front.getLast? = some '/') :
    text.getLast? = some '/' := by
  obtain ⟨names, _, _, rfl⟩ := beyond
  rcases names.eq_nil_or_concat with rfl | ⟨init, last, rfl⟩
  · simpa using front_ended
  · simp

theorem child (beyond : Beyond front depth text) {name : List Char} (whole : '/' ∉ name) :
    Beyond front (depth + 1) (text ++ name ++ ['/']) := by
  obtain ⟨names, deep, apart, rfl⟩ := beyond
  refine ⟨names ++ [name], ?_, ?_, by simp⟩
  · rw [List.length_append, List.length_singleton]
    exact Nat.succ_le_succ deep
  · intro other member
    rcases List.mem_append.mp member with old | new
    · exact apart other old
    · exact List.mem_singleton.mp new ▸ whole

/-- Above a segment at least as many are left as were counted on before it. -/
theorem up (beyond : Beyond front (depth + 1) text) (front_ended : front.getLast? = some '/')
    (kind : SchemeKind) : Beyond front depth (above kind text) := by
  have text_ended := beyond.ended front_ended
  obtain ⟨names, deep, apart, rfl⟩ := beyond
  rcases names.eq_nil_or_concat with rfl | ⟨init, last, names_eq⟩
  · exact absurd deep (Nat.not_succ_le_zero depth)
  · rw [List.concat_eq_append] at names_eq
    subst names_eq
    have shallow : depth ≤ init.length := by simpa using deep
    have apart_init : ∀ name ∈ init, '/' ∉ name :=
      fun name member => apart name (List.mem_append_left _ member)
    have inner : Beyond front depth (front ++ init.flatMap (· ++ ['/'])) :=
      ⟨init, shallow, apart_init, rfl⟩
    have whole : '/' ∉ last := apart last (by simp)
    have split : splitLast (front ++ (init ++ [last]).flatMap (· ++ ['/'])).dropLast =
        (front ++ init.flatMap (· ++ ['/']), last) := by
      rw [← splitLast_append (inner.ended front_ended) whole]
      simp [← List.append_assoc]
    rw [above, if_pos text_ended, split]
    dsimp only
    split
    · exact ⟨init ++ [last], Nat.le_of_succ_le deep, apart, rfl⟩
    · exact inner

end Beyond

/-- What a piece that stays below does, and where the pieces after it start. -/
theorem cases_of_staysBelow {piece : List Char} {more : List (List Char)}
    (stays : staysBelow depth (piece :: more) = true) :
    (isDoubleDot (segment piece) = true ∧ ∃ less, depth = less + 1 ∧ staysBelow less more = true) ∨
      (isDoubleDot (segment piece) = false ∧ isSingleDot (segment piece) = true ∧
        staysBelow depth more = true) ∨
      (isDoubleDot (segment piece) = false ∧ isSingleDot (segment piece) = false ∧
        staysBelow (depth + 1) more = true) := by
  unfold staysBelow at stays
  split at stays
  next up =>
    cases depth with
    | zero => exact nomatch stays
    | succ less => exact .inl ⟨up, less, rfl, stays⟩
  next plain =>
    rw [Bool.not_eq_true] at plain
    split at stays
    next here => exact .inr (.inl ⟨plain, here, stays⟩)
    next named => exact .inr (.inr ⟨plain, Bool.eq_false_iff.mpr named, stays⟩)

variable {piece : List Char} {more : List (List Char)} {path : PathText}

/-- A piece that others follow leaves them where they stay below. -/
theorem exists_beyond_appendSegment (ordinary : kind ≠ .file)
    (front_ended : front.getLast? = some '/') (whole : '/' ∉ piece)
    (beyond : Beyond front depth path.text) (stays : staysBelow depth (piece :: more) = true) :
    ∃ next, Beyond front next (appendSegment kind path piece false).text ∧
      staysBelow next more = true := by
  rw [appendSegment_eq ordinary]
  rcases cases_of_staysBelow stays with ⟨up, less, rfl, rest⟩ | ⟨plain, here, rest⟩ |
    ⟨plain, named, rest⟩
  · have above := beyond.up front_ended kind
    refine ⟨less, ?_, rest⟩
    simpa [up, closed_of_ended (above.ended front_ended)] using above
  · refine ⟨depth, ?_, rest⟩
    simpa [plain, here, closed_of_ended (beyond.ended front_ended)] using beyond
  · refine ⟨depth + 1, ?_, rest⟩
    simpa [plain, named] using beyond.child (slash_not_mem_segment whole)

theorem appendSegment_starts (ordinary : kind ≠ .file) (front_ended : front.getLast? = some '/')
    (beyond : Beyond front depth path.text) (stays : staysBelow depth [piece] = true) :
    front <+: (appendSegment kind path piece true).text := by
  rw [appendSegment_eq ordinary]
  rcases cases_of_staysBelow stays with ⟨up, less, rfl, _⟩ | ⟨plain, here, _⟩ | ⟨plain, named, _⟩
  · simpa [up] using (beyond.up front_ended kind).starts
  · simpa [plain, here, closed_of_ended (beyond.ended front_ended)] using beyond.starts
  · simpa [plain, named] using beyond.starts.trans (List.prefix_append _ _)

theorem append_starts (ordinary : kind ≠ .file) (front_ended : front.getLast? = some '/')
    {pieces : List (List Char)} (whole : ∀ piece ∈ pieces, '/' ∉ piece)
    (beyond : Beyond front depth path.text) (stays : staysBelow depth pieces = true) :
    front <+: (append kind path pieces).text := by
  induction pieces generalizing depth path with
  | nil => exact beyond.starts
  | cons piece more induction =>
      cases more with
      | nil => exact appendSegment_starts ordinary front_ended beyond stays
      | cons next more =>
          obtain ⟨deeper, beyond, stays⟩ := exists_beyond_appendSegment ordinary front_ended
            (whole piece List.mem_cons_self) beyond stays
          exact induction (fun other member => whole other (List.mem_cons_of_mem piece member))
            beyond stays

/-- Pieces that others follow are appended one by one, unless one is made of dots. -/
theorem append_names (ordinary : kind ≠ .file) {names : List (List Char)}
    (plain : ∀ name ∈ names, isDoubleDot (segment name) = false ∧
      isSingleDot (segment name) = false) {pieces : List (List Char)} (some_piece : pieces ≠ [])
    (path : PathText) : append kind path (names ++ pieces) =
      append kind { path with
        text := path.text ++ names.flatMap fun name => segment name ++ ['/'] } pieces := by
  induction names generalizing path with
  | nil => simp
  | cons name names induction =>
      obtain ⟨next, rest, shape⟩ : ∃ next rest, names ++ pieces = next :: rest :=
        List.exists_cons_of_ne_nil (List.append_ne_nil_of_right_ne_nil names some_piece)
      obtain ⟨down, here⟩ := plain name List.mem_cons_self
      have first : append kind path (name :: next :: rest) =
          append kind (appendSegment kind path name false) (next :: rest) := rfl
      rw [List.cons_append, shape, first, ← shape,
        induction fun other member => plain other (List.mem_cons_of_mem name member),
        appendSegment_eq ordinary]
      simp [down, here]

end PathText

/-! ## Paths -/

theorem SchemeKind.of_web {scheme : String} (web : scheme = "http" ∨ scheme = "https") :
    of scheme = .common := by
  rcases web with rfl | rfl <;> decide

theorem toList_text_segments (names : List String) : (UrlPath.segments names).text.toList =
    names.flatMap fun name => '/' :: name.toList := by
  simp [UrlPath.text, List.flatMap_map]

theorem text_segments_segments {path : PathText} (rooted : path.text.head? = some '/') :
    (UrlPath.segments path.segments).text.toList = path.text := by
  obtain ⟨text, readDrive⟩ := path
  obtain ⟨rest, rfl⟩ := List.head?_eq_some_iff.mp rooted
  have joined := Text.flatMap_separator '/' (Text.pieces_ne_nil '/' rest)
  rw [Text.intercalate_pieces] at joined
  rw [toList_text_segments, PathText.segments]
  simpa [List.flatMap_map] using joined

/-- The URL is that of a directory: its path has segments and ends with a slash. -/
def IsDirectory (url : Url) : Prop := ∃ names, url.path = .segments (names ++ [""])

theorem IsDirectory.ended {url : Url} (directory : url.IsDirectory) :
    url.path.text.toList.getLast? = some '/' := by
  obtain ⟨names, path_eq⟩ := directory
  rw [path_eq, toList_text_segments]
  simp

theorem IsDirectory.rooted {url : Url} (directory : url.IsDirectory) :
    url.path.text.toList.head? = some '/' := by
  obtain ⟨names, path_eq⟩ := directory
  rw [path_eq, toList_text_segments]
  cases names <;> simp

theorem withPath_frame (scheme : String) (authority : Option Authority)
    (read : PathText × List Char) : (withPath scheme authority read).scheme = scheme ∧
      (withPath scheme authority read).authority = authority ∧
      (withPath scheme authority read).path = .segments read.1.segments := by
  unfold withPath withTail
  dsimp only
  split <;> exact ⟨rfl, rfl, rfl⟩

/-! ## Relative text -/

variable {base : Url}

/-- Text without a scheme that starts with a segment is read as a path behind a directory. -/
theorem join_of_segment (common : SchemeKind.of base.scheme = .common)
    (directory : base.IsDirectory) {text : String} (schemeless : scheme? (trimmed text) = none)
    {first : Char} {rest : List Char} (joined : withoutBreaks (trimmed text) = first :: rest)
    (starts : first ∉ ['/', '\\', '?', '#']) :
    base.join text = .ok (withPath base.scheme base.authority
      (PathText.read .common base.path.text.toList (first :: rest))) := by
  simp only [List.mem_cons, List.not_mem_nil, or_false, not_or] at starts
  obtain ⟨slash, backslash, question, number⟩ := starts
  have ordinary : base.scheme ≠ "file" := by
    intro file
    rw [file] at common
    exact absurd common (by decide)
  have rooted : base.isRootless = false := by
    obtain ⟨names, path_eq⟩ := directory
    rw [isRootless, path_eq]
  have within : base.directoryText = base.path.text.toList := by
    rw [directoryText, common]
    exact PathText.directory_of_ended directory.ended
  have some_text : base.path.text.toList.isEmpty = false := by
    obtain ⟨rest, text_eq⟩ := List.head?_eq_some_iff.mp directory.rooted
    rw [text_eq]
    rfl
  unfold join read
  simp only [schemeless, joined, List.head?_cons, Option.some.injEq, number, if_false, rooted,
    Bool.false_eq_true, ordinary]
  rw [parseRelative]
  · simp [isTail, isSlash, question, number, slash, backslash, within, some_text, common]
  · intro after same
    exact absurd same slash

/-! ## References to files in directories -/

/-- The character is never left out of a URL. -/
def IsVisible (c : Char) : Prop := 0x20 < c.toNat

instance : DecidablePred IsVisible := fun c => inferInstanceAs (Decidable (0x20 < c.toNat))

theorem isBreak_of_isVisible {c : Char} (visible : IsVisible c) : isBreak c = false := by
  rw [IsVisible] at visible
  simp only [isBreak, Bool.or_eq_false_iff, decide_eq_false_iff_not]
  refine ⟨⟨?_, ?_⟩, ?_⟩ <;> rintro rfl <;> exact absurd visible (by decide)

/-- The character belongs to a path, not to a query or a fragment. -/
def inPath (c : Char) : Bool := c ≠ '?' && c ≠ '#'

/-- What is read of text at the end of a URL as part of its path. -/
def pathPart (text : List Char) : List Char :=
  (withoutBreaks (text.reverse.dropWhile (·.toNat ≤ 0x20)).reverse).takeWhile inPath

/-- Nothing in front of a visible character is left out, and behind it only what would be left out
anyway. -/
theorem trimmed_append (front : List Char) (visible : ∀ c ∈ front, IsVisible c) {c : Char}
    (shown : IsVisible c) {text : String} {back : List Char}
    (text_eq : text.toList = front ++ c :: back) :
    trimmed text = front ++ c :: (back.reverse.dropWhile (·.toNat ≤ 0x20)).reverse := by
  have start : text.toList.dropWhile (·.toNat ≤ 0x20) = text.toList := by
    rw [text_eq]
    cases front with
    | nil => exact List.dropWhile_cons_of_neg (by simpa using Nat.not_le_of_lt shown)
    | cons d front =>
        have shown : ¬d.toNat ≤ 0x20 := Nat.not_le_of_lt (visible d List.mem_cons_self)
        simp [shown]
  have stays : ¬c.toNat ≤ 0x20 := Nat.not_le_of_lt shown
  rw [trimmed, start, text_eq, List.reverse_append, List.reverse_cons, List.append_assoc,
    List.dropWhile_append]
  split
  next empty => simp_all
  next => simp

theorem takeWhile_dropWhile_append {keeps : Char → Bool} {front rest : List Char} {c : Char}
    (dropped : front.dropWhile keeps = c :: rest) (back : List Char) :
    (front ++ back).takeWhile keeps = front.takeWhile keeps ∧
      (front ++ back).dropWhile keeps = c :: (rest ++ back) := by
  induction front with
  | nil => exact nomatch dropped
  | cons d front induction =>
      cases same : keeps d with
      | true =>
          rw [List.dropWhile_cons_of_pos same] at dropped
          obtain ⟨taken, left⟩ := induction dropped
          simp [same, taken, left]
      | false =>
          rw [List.dropWhile_cons_of_neg (by simp [same])] at dropped
          obtain ⟨rfl, rfl⟩ := List.cons.inj dropped
          simp [same]

theorem scheme?_append {front : List Char} (schemeless : scheme? front = none) (back : List Char) :
    scheme? (front ++ '/' :: back) = none := by
  unfold scheme? at schemeless ⊢
  dsimp only at schemeless ⊢
  generalize keeps_eq : (fun c : Char =>
    c.isAlphanum || c = '+' || c = '-' || c = '.' || isBreak c) = keeps at schemeless ⊢
  have slash : keeps '/' = false := by
    rw [← keeps_eq]
    decide
  cases dropped : front.dropWhile keeps with
  | nil =>
      have parted := List.takeWhile_append_dropWhile (p := keeps) (l := front)
      rw [dropped, List.append_nil] at parted
      have all : ∀ c ∈ front, keeps c = true := by
        rw [← parted, ← List.all_eq_true]
        exact List.all_takeWhile
      rw [List.dropWhile_append_of_pos all, List.dropWhile_cons_of_neg (by simp [slash])]
      split
      next same => exact absurd (List.cons.inj same).1 (by decide)
      next => rfl
  | cons c rest =>
      obtain ⟨taken, left⟩ := takeWhile_dropWhile_append dropped ('/' :: back)
      rw [taken, left]
      rw [dropped] at schemeless
      split
      next first more after named same =>
        obtain ⟨rfl, rfl⟩ := List.cons.inj same
        rw [named] at schemeless
        -- The scheme that is found here would have been found without the slash.
        have letter : first.isAlpha = false := by simpa using schemeless
        simp [letter]
      next => rfl

/-- Text that is read as it stands: it is not empty, all of its characters are visible and belong to
names of a path, no scheme is in front, and no name is made of dots. -/
structure IsPlain (text : List Char) : Prop where
  relative : ∃ first rest, text = first :: rest ∧ first ≠ '/'
  visible : ∀ c ∈ text, IsVisible c
  inPath : ∀ c ∈ text, inPath c = true
  slashed : '\\' ∉ text
  schemeless : scheme? text = none
  named : ∀ name ∈ Text.pieces '/' text,
    PathText.isDoubleDot (segment name) = false ∧ PathText.isSingleDot (segment name) = false

variable {name : List Char}

namespace IsPlain

theorem withoutBreaks_eq (plain : IsPlain name) : withoutBreaks name = name :=
  List.filter_eq_self.mpr fun c member => by simp [isBreak_of_isVisible (plain.visible c member)]

/-- The names of plain text become segments as they are encoded. -/
theorem flatMap_segment (plain : IsPlain name) :
    (Text.pieces '/' name).flatMap (fun piece => segment piece ++ ['/']) =
      encode EncodeSet.path name ++ ['/'] := by
  have solid : ∀ piece ∈ Text.pieces '/' name, withoutBreaks piece = piece := by
    intro piece member
    refine List.filter_eq_self.mpr fun c inside => ?_
    simp [isBreak_of_isVisible (plain.visible c (Text.mem_of_mem_pieces member inside))]
  have segments : ∀ piece ∈ Text.pieces '/' name,
      segment piece ++ ['/'] = encode EncodeSet.path piece ++ ['/'] := by
    intro piece member
    rw [segment, solid piece member]
  rw [List.flatMap_congr segments, flatMap_encode (Text.pieces_ne_nil '/' name),
    Text.intercalate_pieces]

theorem starts_read (plain : IsPlain name) (start : List Char) {back : List Char}
    (stays : PathText.staysBelow 0 (Text.piecesBy SchemeKind.common.separates
      (back.takeWhile Url.inPath)) = true) :
    start ++ encode EncodeSet.path name ++ ['/'] <+:
      (PathText.read .common start (name ++ '/' :: back)).1.text := by
  have taken : (name ++ '/' :: back).takeWhile Url.inPath =
      name ++ '/' :: back.takeWhile Url.inPath := by
    rw [List.takeWhile_append_of_pos plain.inPath]
    rfl
  have cut : Text.piecesBy SchemeKind.common.separates (name ++ '/' :: back.takeWhile Url.inPath) =
      Text.pieces '/' name ++
        Text.piecesBy SchemeKind.common.separates (back.takeWhile Url.inPath) := by
    rw [Text.piecesBy_append name (by decide), Text.piecesBy_eq_pieces]
    intro c member
    have slashed : c ≠ '\\' := fun same => plain.slashed (same ▸ member)
    simp [SchemeKind.separates, SchemeKind.isSpecial, slashed]
  have read_eq : (PathText.read .common start (name ++ '/' :: back)).1 =
      PathText.append .common ⟨start, false⟩ (Text.pieces '/' name ++
        Text.piecesBy SchemeKind.common.separates (back.takeWhile Url.inPath)) := by
    rw [← cut, ← taken]
    rfl
  rw [read_eq, PathText.append_names (by decide) plain.named (Text.piecesBy_ne_nil _ _),
    plain.flatMap_segment, ← List.append_assoc]
  refine PathText.append_starts (by decide) (by simp) (fun piece member slash => ?_) (.refl _) stays
  exact nomatch Text.not_separates_of_mem_piecesBy member '/' slash

end IsPlain

/-- A reference to a file in a directory with a plain name leads to that directory, as long as
segments of dots in the path of the file stay below it. -/
theorem exists_join_of_isPlain (common : SchemeKind.of base.scheme = .common)
    (directory : base.IsDirectory) (plain : IsPlain name) {text : String} {file : List Char}
    (text_eq : text.toList = name ++ '/' :: file)
    (stays : PathText.staysBelow 0
      (Text.piecesBy SchemeKind.common.separates (pathPart file)) = true) :
    ∃ url, base.join text = .ok url ∧ url.scheme = base.scheme ∧ url.authority = base.authority ∧
      base.path.text.toList ++ encode EncodeSet.path name ++ ['/'] <+: url.path.text.toList := by
  obtain ⟨first, rest, name_eq, relative⟩ := plain.relative
  have trimmed_eq := trimmed_append _ plain.visible (by decide) text_eq
  have schemeless : scheme? (trimmed text) = none := by
    rw [trimmed_eq]
    exact scheme?_append plain.schemeless _
  have joined : withoutBreaks (trimmed text) = name ++ '/' ::
      withoutBreaks (file.reverse.dropWhile (·.toNat ≤ 0x20)).reverse := by
    rw [trimmed_eq, withoutBreaks, List.filter_append, ← withoutBreaks, plain.withoutBreaks_eq]
    rfl
  have starts : first ∉ ['/', '\\', '?', '#'] := by
    have inside : first ∈ name := by simp [name_eq]
    have path := plain.inPath first inside
    have slashed : first ≠ '\\' := fun same => plain.slashed (same ▸ inside)
    simp only [Url.inPath, Bool.and_eq_true, decide_eq_true_eq] at path
    simp [relative, slashed, path]
  have behind := plain.starts_read base.path.text.toList stays
  have rooted : (PathText.read .common base.path.text.toList (name ++ '/' ::
      withoutBreaks (file.reverse.dropWhile (·.toNat ≤ 0x20)).reverse)).1.text.head? =
        some '/' := by
    obtain ⟨more, text_eq⟩ := behind
    rw [← text_eq, List.append_assoc, List.append_assoc, List.head?_append, directory.rooted]
    rfl
  rw [name_eq, List.cons_append] at joined
  refine ⟨_, join_of_segment common directory schemeless joined starts, ?_⟩
  rw [← List.cons_append, ← name_eq]
  obtain ⟨scheme_eq, authority_eq, path_eq⟩ := withPath_frame base.scheme base.authority
    (PathText.read .common base.path.text.toList (name ++ '/' ::
      withoutBreaks (file.reverse.dropWhile (·.toNat ≤ 0x20)).reverse))
  refine ⟨scheme_eq, authority_eq, ?_⟩
  rw [path_eq, text_segments_segments rooted]
  exact behind

end Url
end Workbench
