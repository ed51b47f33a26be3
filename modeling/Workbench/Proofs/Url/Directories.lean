import Workbench.Proofs.Remote.Settlement
import Workbench.Proofs.Url.Naming

/-!
# URLs of directories

Text whose path ends with a slash is read as the URL of a directory, whatever is in front of the path.
Each part of the reading leaves such text to the next one. Only with an uncommon scheme there may be
nothing left for a path.
-/

namespace Workbench
namespace Url

variable {text front : List Char} {c : Char}

/-! ## Text whose path ends with a slash -/

/-- The part of the text in front of its query and its fragment ends with a slash. -/
def ClosesPath (text : List Char) : Prop := (text.takeWhile inPath).getLast? = some '/'

instance : DecidablePred ClosesPath := fun _ => inferInstanceAs (Decidable (_ = _))

theorem isTail_cons : isTail (c :: text) = true ↔ inPath c = false := by
  simp [isTail, inPath, or_iff_not_imp_left]

theorem takeWhile_inPath_of_isTail (tail : isTail text = true) : text.takeWhile inPath = [] := by
  cases text with
  | nil => rfl
  | cons c rest => exact List.takeWhile_cons_of_neg (by simp [isTail_cons.mp tail])

theorem isTail_dropWhile_inPath (text : List Char) : isTail (text.dropWhile inPath) = true := by
  cases dropped : text.dropWhile inPath with
  | nil => rfl
  | cons c rest =>
      rw [isTail_cons]
      have first := List.head?_dropWhile_not inPath text
      simpa [dropped] using first

theorem isTail_of_prefix {other : List Char} (tail : isTail text = true) (leads : other <+: text) :
    isTail other = true := by
  cases other with
  | nil => rfl
  | cons c rest =>
      obtain ⟨more, rfl⟩ := leads
      exact isTail_cons.mpr (isTail_cons.mp tail)

theorem closesPath_iff : ClosesPath text ↔ ∃ front tail, text = front ++ '/' :: tail ∧
    (∀ c ∈ front, inPath c = true) ∧ isTail tail = true := by
  constructor
  · intro closes
    obtain ⟨front, taken⟩ := List.getLast?_eq_some_iff.mp closes
    refine ⟨front, text.dropWhile inPath, ?_, fun c member => ?_, isTail_dropWhile_inPath text⟩
    · have whole := List.takeWhile_append_dropWhile (p := inPath) (l := text)
      rw [taken] at whole
      simpa using whole.symm
    · have kept : c ∈ text.takeWhile inPath := by simp [taken, member]
      exact List.all_eq_true.mp List.all_takeWhile c kept
  · rintro ⟨front, tail, rfl, kept, ends⟩
    rw [ClosesPath, List.takeWhile_append_of_pos kept, List.takeWhile_cons_of_pos (by decide),
      takeWhile_inPath_of_isTail ends, List.getLast?_append]
    rfl

theorem closesPath_cons (closes : ClosesPath (c :: text)) :
    inPath c = true ∧ (ClosesPath text ∨ c = '/' ∧ isTail text = true) := by
  obtain ⟨front, tail, whole, kept, ends⟩ := closesPath_iff.mp closes
  cases front with
  | nil =>
      obtain ⟨rfl, rfl⟩ := List.cons.inj whole
      exact ⟨by decide, .inr ⟨rfl, ends⟩⟩
  | cons d front =>
      obtain ⟨rfl, rfl⟩ := List.cons.inj whole
      exact ⟨kept _ List.mem_cons_self, .inl (closesPath_iff.mpr
        ⟨front, tail, rfl, fun e member => kept e (List.mem_cons_of_mem _ member), ends⟩)⟩

namespace ClosesPath

theorem ne_nil (closes : ClosesPath text) : text ≠ [] := by
  rintro rfl
  exact absurd closes (by decide)

theorem of_cons (closes : ClosesPath (c :: text)) (solid : c ≠ '/') : ClosesPath text :=
  (closesPath_cons closes).2.resolve_right fun last => solid last.1

theorem append (closes : ClosesPath text) (kept : ∀ c ∈ front, inPath c = true) :
    ClosesPath (front ++ text) := by
  obtain ⟨more, tail, rfl, kept', ends⟩ := closesPath_iff.mp closes
  refine closesPath_iff.mpr ⟨front ++ more, tail, by simp, fun c member => ?_, ends⟩
  exact (List.mem_append.mp member).elim (kept c) (kept' c)

theorem dropWhile (drops : Char → Bool) (stays : drops '/' = false) (closes : ClosesPath text) :
    ClosesPath (text.dropWhile drops) := by
  induction text with
  | nil => exact closes
  | cons c rest induction =>
      cases same : drops c with
      | true =>
          rw [List.dropWhile_cons_of_pos same]
          exact induction (closes.of_cons fun slash => by simp [slash, stays] at same)
      | false =>
          rw [List.dropWhile_cons_of_neg (by simp [same])]
          exact closes

theorem withoutBreaks (closes : ClosesPath text) : ClosesPath (withoutBreaks text) := by
  obtain ⟨front, tail, rfl, kept, ends⟩ := closesPath_iff.mp closes
  refine closesPath_iff.mpr ⟨Url.withoutBreaks front, Url.withoutBreaks tail, ?_, ?_, ?_⟩
  · simp [Url.withoutBreaks, isBreak]
  · exact fun c member => kept c (List.mem_filter.mp member).1
  · cases tail with
    | nil => rfl
    | cons c rest =>
        have mark := isTail_cons.mp ends
        have stays : isBreak c = false := by
          simp only [isBreak, Bool.or_eq_false_iff, decide_eq_false_iff_not]
          refine ⟨⟨?_, ?_⟩, ?_⟩ <;> rintro rfl <;> exact absurd mark (by decide)
        rw [Url.withoutBreaks, List.filter_cons_of_pos (by simp [stays])]
        exact isTail_cons.mpr mark

theorem trimmed {text : String} (closes : ClosesPath text.toList) : ClosesPath (trimmed text) := by
  have begun := closes.dropWhile (fun c => c.toNat ≤ 0x20) (by decide)
  obtain ⟨front, tail, whole, kept, ends⟩ := closesPath_iff.mp begun
  rw [Url.trimmed, whole]
  have behind := (List.dropWhile_suffix (fun c : Char => decide (c.toNat ≤ 0x20))
    (l := tail.reverse)).reverse
  rw [List.reverse_reverse] at behind
  refine closesPath_iff.mpr ⟨front, (tail.reverse.dropWhile fun c => c.toNat ≤ 0x20).reverse, ?_,
    kept, isTail_of_prefix ends behind⟩
  rw [List.reverse_append, List.reverse_cons, List.append_assoc, List.dropWhile_append]
  split
  next empty => simp_all
  next => simp

end ClosesPath

/-- A scheme in front is no part of what the path is read from. -/
theorem ClosesPath.of_scheme? {scheme : String} {rest : List Char} (closes : ClosesPath text)
    (found : scheme? text = some (scheme, rest)) : ClosesPath rest := by
  unfold scheme? at found
  dsimp only at found
  split at found
  next first more after named same =>
    split at found
    next =>
      obtain ⟨-, rfl⟩ := Prod.mk.inj (Option.some.inj found)
      have behind := closes.dropWhile (fun c =>
        c.isAlphanum || c = '+' || c = '-' || c = '.' || isBreak c) (by decide)
      rw [same] at behind
      exact behind.of_cons (by decide)
    next => cases found
  next => cases found

/-- Read behind a slash, the text leaves a slash at the end of the path: it closes the path itself,
or nothing of it belongs to the path. -/
def KeepsClosed (text : List Char) : Prop := ClosesPath text ∨ isTail text = true

namespace KeepsClosed

theorem of_cons (keeps : KeepsClosed (c :: text)) (inside : inPath c = true) : KeepsClosed text := by
  rcases keeps with closes | tail
  · exact (closesPath_cons closes).2.imp_right And.right
  · exact nomatch inside.symm.trans (isTail_cons.mp tail)

theorem dropWhile (drops : Char → Bool) (question : drops '?' = false) (number : drops '#' = false)
    (keeps : KeepsClosed text) : KeepsClosed (text.dropWhile drops) := by
  induction text with
  | nil => exact keeps
  | cons c rest induction =>
      cases same : drops c with
      | false =>
          rw [List.dropWhile_cons_of_neg (by simp [same])]
          exact keeps
      | true =>
          rw [List.dropWhile_cons_of_pos same]
          refine induction (keeps.of_cons ?_)
          rw [inPath, Bool.and_eq_true, decide_eq_true_eq, decide_eq_true_eq]
          exact ⟨fun mark => by simp [mark, question] at same,
            fun mark => by simp [mark, number] at same⟩

end KeepsClosed

/-! ## Reading paths -/

namespace PathText

variable {kind : SchemeKind} {path : PathText} {piece start input : List Char}

theorem ended_closed (text : List Char) : (closed text).getLast? = some '/' := by
  rw [closed]
  split
  next ended => exact ended
  next => simp

/-- A piece that others follow leaves a slash at the end, whatever it means. -/
theorem ended_appendSegment (kind : SchemeKind) (path : PathText) (piece : List Char) :
    (appendSegment kind path piece false).text.getLast? = some '/' := by
  rw [appendSegment]
  dsimp only
  split
  · exact ended_closed _
  · split
    · exact ended_closed _
    · split <;> simp

theorem appendSegment_nil (kind : SchemeKind) (path : PathText) :
    appendSegment kind path [] true = path := by
  have runs : Text.piecesBy isBreak [] = [[]] := rfl
  have double : isDoubleDot [] = false := by decide
  have single : isSingleDot [] = false := by decide
  simp [appendSegment, runs, appendRun, double, single, isDrive]

theorem ended_append {pieces : List (List Char)}
    (started : path.text.getLast? = some '/' ∨ pieces ≠ []) :
    (append kind path (pieces ++ [[]])).text.getLast? = some '/' := by
  induction pieces generalizing path with
  | nil =>
      rw [List.nil_append, append, appendSegment_nil]
      exact started.resolve_right fun some_piece => some_piece rfl
  | cons piece more induction =>
      obtain ⟨next, rest, shape⟩ := List.exists_cons_of_ne_nil
        (List.append_ne_nil_of_right_ne_nil more (List.cons_ne_nil [] []))
      have unfolded : append kind path ((piece :: more) ++ [[]]) =
          append kind (appendSegment kind path piece false) (more ++ [[]]) := by
        rw [List.cons_append, shape]
        rfl
      rw [unfolded]
      exact induction (.inl (ended_appendSegment kind path piece))

/-- In files the slashes at the root are put together to one. -/
theorem ended_root (ended : text.getLast? = some '/') :
    ('/' :: text.dropWhile (· = '/')).getLast? = some '/' := by
  obtain ⟨init, rfl⟩ := List.getLast?_eq_some_iff.mp ended
  rw [List.dropWhile_append]
  split
  · rfl
  · rw [← List.cons_append, List.getLast?_concat]

/-- The text of a path that was read. In files there is one slash at the root. -/
theorem text_read (kind : SchemeKind) (start input : List Char) :
    (read kind start input).1.text =
      let text := (append kind ⟨start, false⟩
        (Text.piecesBy kind.separates (input.takeWhile Url.inPath))).text
      if kind = .file then '/' :: text.dropWhile (· = '/') else text := by
  rw [read]
  dsimp only
  split <;> rfl

/-- What closes a path is read as a path with a slash at its end, and so is text that gives none
behind a start with a slash at its end. -/
theorem ended_read (keeps : ClosesPath input ∨ isTail input = true ∧ start.getLast? = some '/') :
    (read kind start input).1.text.getLast? = some '/' := by
  have slash : kind.separates '/' = true := by simp [SchemeKind.separates]
  have ended : (append kind ⟨start, false⟩
      (Text.piecesBy kind.separates (input.takeWhile inPath))).text.getLast? = some '/' := by
    rcases keeps with closes | ⟨tail, started⟩
    · obtain ⟨front, taken⟩ := List.getLast?_eq_some_iff.mp closes
      rw [taken, Text.piecesBy_append front slash]
      exact ended_append (.inr (Text.piecesBy_ne_nil _ _))
    · rw [takeWhile_inPath_of_isTail tail]
      exact @ended_append _ ⟨start, false⟩ [] (.inl started)
  rw [text_read]
  dsimp only
  split
  · exact ended_root ended
  · exact ended

theorem exists_segments_of_ended (ended : path.text.getLast? = some '/') :
    ∃ names, path.segments = names ++ [""] := by
  obtain ⟨text, readDrive⟩ := path
  cases text with
  | nil => exact nomatch ended
  | cons first rest =>
      rw [segments]
      rcases rest.eq_nil_or_concat with rfl | ⟨init, last, rfl⟩
      · exact ⟨[], rfl⟩
      · rw [List.concat_eq_append, ← List.cons_append, List.getLast?_concat] at ended
        obtain rfl := Option.some.inj ended
        dsimp only
        rw [List.concat_eq_append, Text.pieces_append]
        exact ⟨(Text.pieces '/' init).map String.ofList, by simp [Text.pieces]⟩

end PathText

theorem isDirectory_withPath {read : PathText × List Char} (scheme : String)
    (authority : Option Authority) (ended : read.1.text.getLast? = some '/') :
    (withPath scheme authority read).IsDirectory := by
  obtain ⟨names, segments_eq⟩ := PathText.exists_segments_of_ended ended
  exact ⟨names, by rw [(withPath_frame _ _ _).2.2, segments_eq]⟩

theorem inPath_of_separates {kind : SchemeKind} (separates : kind.separates c = true) :
    inPath c = true := by
  have slash : c = '/' ∨ c = '\\' := by
    simp only [SchemeKind.separates, Bool.or_eq_true, Bool.and_eq_true, decide_eq_true_eq] at separates
    exact separates.imp_right And.right
  rcases slash with rfl | rfl <;> decide

theorem exists_rootPath_eq (kind : SchemeKind) (text : List Char) : ∃ input,
    rootPath kind text = PathText.read kind ['/'] input ∧
      (KeepsClosed text → KeepsClosed input) := by
  have solid (keeps : KeepsClosed text) : KeepsClosed (text.dropWhile isBreak) :=
    keeps.dropWhile _ (by decide) (by decide)
  rw [rootPath]
  split
  next => exact ⟨[], rfl, fun _ => .inr rfl⟩
  next c rest same =>
    rw [same] at solid
    refine ⟨_, rfl, fun keeps => ?_⟩
    split
    next separates => exact (solid keeps).of_cons (inPath_of_separates separates)
    next => exact solid keeps

theorem KeepsClosed.ended_read {kind : SchemeKind} (keeps : KeepsClosed text) :
    (PathText.read kind ['/'] text).1.text.getLast? = some '/' :=
  PathText.ended_read (keeps.imp_right fun tail => ⟨tail, rfl⟩)

/-! ## Reading authorities -/

section Authorities

variable {kind : SchemeKind} {scheme : String}

theorem inPath_of_not_endsAuthority (inside : kind.endsAuthority c = false) : inPath c = true := by
  simp only [SchemeKind.endsAuthority, Bool.or_eq_false_iff, decide_eq_false_iff_not] at inside
  simp [inPath, inside]

theorem slash_endsAuthority (kind : SchemeKind) : kind.endsAuthority '/' = true := by
  simp [SchemeKind.endsAuthority, SchemeKind.separates]

theorem ClosesPath.of_splitUser {user : List Char} (closes : ClosesPath text)
    (split : splitUser kind text = .ok (user, rest)) : ClosesPath rest := by
  rw [splitUser] at split
  dsimp only at split
  split at split
  next =>
    split at split
    next => exact nomatch split
    next =>
      obtain ⟨-, rfl⟩ := Prod.mk.inj (Except.ok.inj split)
      refine (closes.dropWhile _ (by simp [slash_endsAuthority])).append fun c member => ?_
      have inside := (List.takeWhile_sublist _).subset (List.mem_reverse.mp member)
      have stays := List.all_eq_true.mp List.all_takeWhile c (List.mem_reverse.mp inside)
      exact inPath_of_not_endsAuthority (by simpa using stays)
  next =>
    obtain ⟨-, rfl⟩ := Prod.mk.inj (Except.ok.inj split)
    exact closes

theorem ClosesPath.splitHost (kind : SchemeKind) (inside : Bool) (closes : ClosesPath text) :
    ClosesPath (splitHost kind inside text).2 := by
  induction text generalizing inside with
  | nil => exact absurd rfl closes.ne_nil
  | cons c rest induction =>
      rw [Url.splitHost]
      split
      next => exact closes
      next goes_on =>
        have solid : c ≠ '/' := by
          rintro rfl
          simp [slash_endsAuthority] at goes_on
        exact induction _ (closes.of_cons solid)

theorem ClosesPath.of_readPort {implied port : Option Nat} (closes : ClosesPath text)
    (read : readPort implied text = .ok (port, rest)) : ClosesPath rest := by
  unfold readPort at read
  extract_lets digits behind number ended at read
  split at read
  next => exact nomatch read
  next =>
    obtain ⟨-, rfl⟩ := Prod.mk.inj (Except.ok.inj read)
    exact closes.dropWhile _ (by decide)

/-- What was read as an authority is a host, a name in front of it and a port behind it. -/
theorem exists_of_readAuthority {authority : Authority}
    (read : readAuthority scheme text = .ok (authority, rest)) : ∃ user after host behind,
    splitUser (SchemeKind.of scheme) text = .ok (user, after) ∧
      splitHost (SchemeKind.of scheme) false after = (host, behind) ∧
      (SchemeKind.of scheme = .common → host ≠ []) ∧
      (rest = behind ∨ ∃ digits port, behind = ':' :: digits ∧
        readPort (defaultPort? scheme) digits = .ok (port, rest)) := by
  rw [readAuthority] at read
  obtain ⟨⟨user, after⟩, split, read⟩ := exists_of_bind_eq_ok read
  rcases parted : splitHost (SchemeKind.of scheme) false after with ⟨host, behind⟩
  refine ⟨user, after, host, behind, split, parted, ?_⟩
  simp -zeta only [parted] at read
  -- The reading goes on alike with any host, and comes to its end alike with any port.
  extract_lets encoded username password located entered at read
  split at read
  next => exact nomatch read
  next named =>
    refine ⟨fun common empty => named (by simp [common, empty]), ?_⟩
    obtain ⟨place, stands⟩ : ∃ place, located place = .ok (authority, rest) := by
      simp only [entered] at read
      split at read <;>
      · obtain ⟨place, -, stands⟩ := exists_of_bind_eq_ok read
        exact ⟨place, stands⟩
    simp -zeta only [located] at stands
    extract_lets ending at stands
    have left {port : Option Nat} {more : List Char}
        (ended : ending (port, more) = .ok (authority, rest)) : rest = more := by
      simp only [ending] at ended
      split at ended
      next => exact nomatch ended
      next => exact (Prod.mk.inj (Except.ok.inj ended)).2.symm
    split at stands
    next _ digits =>
      split at stands
      next => exact nomatch stands
      next =>
        obtain ⟨⟨port, more⟩, ported, stands⟩ := exists_of_bind_eq_ok stands
        obtain rfl := left stands
        exact .inr ⟨digits, port, rfl, ported⟩
    next => exact .inl (left stands)

theorem ClosesPath.of_readAuthority {authority : Authority} (closes : ClosesPath text)
    (read : readAuthority scheme text = .ok (authority, rest)) : ClosesPath rest := by
  obtain ⟨user, after, host, behind, split, parted, -, ended⟩ := exists_of_readAuthority read
  have closes' := (closes.of_splitUser split).splitHost (SchemeKind.of scheme) false
  rw [parted] at closes'
  rcases ended with rfl | ⟨digits, port, rfl, ported⟩
  · exact closes'
  · exact (closes'.of_cons (by decide)).of_readPort ported

/-- An authority of which nothing is given has no host, which common schemes do not allow. -/
theorem of_readAuthority_of_isTail {authority : Authority} (tail : isTail text = true)
    (read : readAuthority scheme text = .ok (authority, rest)) :
    SchemeKind.of scheme ≠ .common ∧ rest = text := by
  obtain ⟨user, after, host, behind, split, parted, hosted, ended⟩ := exists_of_readAuthority read
  have stops : text = [] ∨ ∃ c more, text = c :: more ∧ (c = '?' ∨ c = '#') := by
    cases text with
    | nil => exact .inl rfl
    | cons c more => exact .inr ⟨c, more, rfl, by simpa [isTail] using tail⟩
  have split_eq : splitUser (SchemeKind.of scheme) text = .ok ([], text) := by
    rcases stops with rfl | ⟨c, more, rfl, rfl | rfl⟩ <;>
      simp [splitUser, SchemeKind.endsAuthority]
  obtain ⟨-, rfl⟩ := Prod.mk.inj (Except.ok.inj (split_eq.symm.trans split))
  have parted_eq : splitHost (SchemeKind.of scheme) false text = ([], text) := by
    rcases stops with rfl | ⟨c, more, rfl, rfl | rfl⟩ <;>
      simp [splitHost, SchemeKind.endsAuthority]
  obtain ⟨rfl, rfl⟩ := Prod.mk.inj (parted_eq.symm.trans parted)
  refine ⟨fun common => hosted common rfl, ?_⟩
  rcases ended with rfl | ⟨digits, port, rfl, -⟩
  · rfl
  · exact absurd tail (by simp [isTail])

end Authorities

/-! ## Reading whole URLs -/

/-- The path ends with a slash, or it is empty, as it may be with an uncommon scheme. -/
def IsClosed (url : Url) : Prop :=
  url.IsDirectory ∨ url.path = .segments [] ∧ SchemeKind.of url.scheme = .other

section Reading

variable {scheme : String} {url : Url}

theorem pathAfterAuthority_eq (kind : SchemeKind) (text : List Char) :
    pathAfterAuthority kind text =
      if isTail text && !kind.isSpecial then (⟨[], false⟩, text) else rootPath kind text := by
  cases text <;> rfl

theorem isClosed_of_afterSlashes (ordinary : SchemeKind.of scheme ≠ .file)
    (keeps : KeepsClosed text) (read : afterSlashes scheme text = .ok url) : url.IsClosed := by
  rw [afterSlashes] at read
  obtain ⟨⟨authority, rest⟩, parted, read⟩ := exists_of_bind_eq_ok read
  obtain rfl := Except.ok.inj read
  rcases keeps with closes | tail
  · have behind := closes.of_readAuthority parted
    have some_path : isTail rest = false := by
      cases rest with
      | nil => exact absurd rfl behind.ne_nil
      | cons c more =>
          rw [Bool.eq_false_iff, ne_eq, isTail_cons]
          simp [(closesPath_cons behind).1]
    refine .inl (isDirectory_withPath _ _ ?_)
    obtain ⟨input, path_eq, keeps⟩ := exists_rootPath_eq (SchemeKind.of scheme) rest
    rw [pathAfterAuthority_eq, if_neg (by simp [some_path]), path_eq]
    exact (keeps (.inl behind)).ended_read
  · obtain ⟨uncommon, rfl⟩ := of_readAuthority_of_isTail tail parted
    have other : SchemeKind.of scheme = .other := by
      cases kind_eq : SchemeKind.of scheme with
      | file => exact absurd kind_eq ordinary
      | common => exact absurd kind_eq uncommon
      | other => rfl
    obtain ⟨scheme_eq, -, segments_eq⟩ := withPath_frame scheme (some authority)
      (pathAfterAuthority (SchemeKind.of scheme) rest)
    refine .inr ⟨?_, by rw [scheme_eq, other]⟩
    rw [segments_eq, other, pathAfterAuthority_eq, if_pos (by simp [tail, SchemeKind.isSpecial])]
    rfl

theorem exists_of_fileAfterSlashes (read : fileAfterSlashes text = .ok url) :
    ∃ authority input, url = withPath "file" authority (PathText.read .file ['/'] input) ∧
      (KeepsClosed text → KeepsClosed input) := by
  rw [fileAfterSlashes] at read
  obtain ⟨⟨host, rest⟩, parted, read⟩ := exists_of_bind_eq_ok read
  have behind (keeps : KeepsClosed text) : KeepsClosed rest := by
    unfold fileHost at parted
    extract_lets isHost name after at parted
    have after_keeps : KeepsClosed after := keeps.dropWhile _ (by decide) (by decide)
    split at parted
    next =>
      obtain ⟨-, rfl⟩ := Prod.mk.inj (Except.ok.inj parted)
      exact keeps
    next =>
      split at parted
      next =>
        obtain ⟨-, rfl⟩ := Prod.mk.inj (Except.ok.inj parted)
        exact after_keeps
      next =>
        obtain ⟨_, -, parted⟩ := exists_of_bind_eq_ok parted
        obtain ⟨-, rfl⟩ := Prod.mk.inj (Except.ok.inj parted)
        exact after_keeps
  cases host with
  | none =>
      obtain rfl := Except.ok.inj read
      exact ⟨_, rest, rfl, behind⟩
  | some host =>
      obtain rfl := Except.ok.inj read
      obtain ⟨input, path_eq, keeps⟩ := exists_rootPath_eq .file rest
      exact ⟨_, input, congrArg _ path_eq, fun closed => keeps (behind closed)⟩

theorem KeepsClosed.of_next? {rest : List Char} (keeps : KeepsClosed text)
    (found : next? text = some (c, rest)) (slash : isSlash c = true) : KeepsClosed rest := by
  have solid := keeps.dropWhile isBreak (by decide) (by decide)
  have separates : SchemeKind.file.separates c = true := by
    simpa [isSlash, SchemeKind.separates, SchemeKind.isSpecial] using slash
  rw [next?] at found
  split at found
  next => cases found
  next same =>
    obtain ⟨rfl, rfl⟩ := Prod.mk.inj (Option.some.inj found)
    rw [same] at solid
    exact solid.of_cons (inPath_of_separates separates)

/-- The path of the URL was read as one of files, and text that closes a path has closed it. -/
def IsReadAsFile (text : List Char) (url : Url) : Prop := ∃ authority start input,
  url = withPath "file" authority (PathText.read .file start input) ∧
    (ClosesPath text → ClosesPath input ∨ isTail input = true ∧ start.getLast? = some '/')

theorem isReadAsFile_of_parseFile (read : parseFile none text = .ok url) :
    IsReadAsFile text url := by
  have relative : IsReadAsFile text (parseFile.relative none text) :=
    ⟨some nobody, ['/'], text, rfl, .inl⟩
  have rooted : IsReadAsFile text (fileFromRoot none text) := ⟨some nobody, [], text, rfl, .inl⟩
  rw [parseFile] at read
  split at read
  next first rest found =>
    split at read
    next slash =>
      split at read
      next second after found' =>
        split at read
        next slash' =>
          obtain ⟨authority, input, rfl, keeps⟩ := exists_of_fileAfterSlashes read
          refine ⟨authority, ['/'], input, rfl, fun closes => ?_⟩
          have behind := (KeepsClosed.of_next? (.inl closes) found slash).of_next? found' slash'
          exact (keeps behind).imp_right fun tail => ⟨tail, rfl⟩
        next => exact Except.ok.inj read ▸ rooted
      next => exact Except.ok.inj read ▸ rooted
    next => exact Except.ok.inj read ▸ relative
  next => exact Except.ok.inj read ▸ relative

theorem isClosed_of_parseAbsolute (closes : ClosesPath text)
    (read : parseAbsolute none scheme text = .ok url) (based : url.isRootless = false) :
    url.IsClosed := by
  have solid := closes.withoutBreaks
  unfold parseAbsolute at read
  dsimp only at read
  generalize withoutBreaks text = joined at read solid
  split at read
  next =>
    obtain ⟨authority, start, input, rfl, keeps⟩ := isReadAsFile_of_parseFile read
    exact .inl (isDirectory_withPath _ _ (PathText.ended_read (keeps closes)))
  next common =>
    refine isClosed_of_afterSlashes (by simp [common]) ?_ read
    exact KeepsClosed.dropWhile _ (by decide) (by decide) (.inl solid)
  next other =>
    split at read
    next after =>
      refine isClosed_of_afterSlashes (by simp [other]) ?_ read
      have behind : KeepsClosed ('/' :: '/' :: after) := .inl solid
      exact (behind.of_cons (by decide)).of_cons (by decide)
    next after _ =>
      obtain rfl := Except.ok.inj read
      have behind : KeepsClosed ('/' :: after) := .inl solid
      exact .inl (isDirectory_withPath _ _ (behind.of_cons (by decide)).ended_read)
    next =>
      obtain rfl := Except.ok.inj read
      unfold withTail at based
      dsimp only at based
      split at based <;> exact nomatch based

theorem exists_of_parse {text : String} (read : parse text = .ok url) : ∃ scheme rest,
    scheme? (trimmed text) = some (scheme, rest) ∧ parseAbsolute none scheme rest = .ok url := by
  unfold parse Url.read at read
  dsimp only at read
  split at read
  next scheme rest found => exact ⟨scheme, rest, found, read⟩
  next => exact nomatch read
  next absent => exact nomatch absent

/-- Text whose path ends with a slash is read as the URL of a directory, if names can be resolved
against it, or else of an uncommon scheme and without a path. -/
theorem isClosed_of_parse {text : String} (closes : ClosesPath text.toList)
    (read : parse text = .ok url) (based : url.isRootless = false) : url.IsClosed := by
  obtain ⟨scheme, rest, found, read⟩ := exists_of_parse read
  exact isClosed_of_parseAbsolute (closes.trimmed.of_scheme? found) read based

theorem scheme_of_afterSlashes (read : afterSlashes scheme text = .ok url) :
    url.scheme = scheme := by
  rw [afterSlashes] at read
  obtain ⟨_, -, read⟩ := exists_of_bind_eq_ok read
  obtain rfl := Except.ok.inj read
  exact (withPath_frame _ _ _).1

theorem exists_read_of_file {text : String} (read : parse text = .ok url)
    (file : url.scheme = "file") : ∃ start input,
    url.path = .segments (PathText.read .file start input).1.segments := by
  obtain ⟨scheme, rest, -, read⟩ := exists_of_parse read
  cases kind : SchemeKind.of scheme with
  | file =>
      unfold parseAbsolute at read
      simp only [kind] at read
      obtain ⟨authority, start, input, rfl, -⟩ := isReadAsFile_of_parseFile read
      exact ⟨start, input, (withPath_frame _ _ _).2.2⟩
  | common =>
      unfold parseAbsolute at read
      simp only [kind] at read
      rw [← scheme_of_afterSlashes read, file] at kind
      exact absurd kind (by decide)
  | other =>
      rw [← scheme_of_parseAbsolute kind read, file] at kind
      exact absurd kind (by decide)

end Reading

end Url
end Workbench
