import Workbench.Proofs.FileSystem.Addition
import Workbench.Proofs.FileSystem.PathTable

/-!
# The content of a file

An encoding writes a text as the bytes that it reads as that text, and no other bytes. A file keeps
its bytes until a write to its path is accepted, so what was written is read again, and a text that
is written back where and as it was read restores the bytes.
-/

namespace Workbench

/-! ## Encodings -/

namespace Encoding

variable {text : String} {content : ByteArray}

theorem latin1Byte?_eq_some_iff {c : Char} {byte : UInt8} :
    latin1Byte? c = some byte ↔ Char.ofNat byte.toNat = c := by
  have valid : byte.toNat.isValidChar := by
    have small := byte.toNat_lt
    exact .inl (by omega)
  have code : (Char.ofNat byte.toNat).toNat = byte.toNat := by
    rw [Char.ofNat, dif_pos valid]
    rfl
  rw [latin1Byte?]
  constructor
  · intro encoded
    split at encoded
    next small =>
      obtain rfl := Option.some.inj encoded
      rw [UInt8.toNat_ofNat_of_lt' small, Char.ofNat_toNat]
    next => exact nomatch encoded
  · rintro rfl
    rw [code, if_pos byte.toNat_lt, UInt8.ofNat_toNat]

theorem latin1Byte?_eq_none_iff {c : Char} : latin1Byte? c = none ↔ 0xFF < c.toNat := by
  simp only [latin1Byte?, ite_eq_right_iff, reduceCtorEq, imp_false]
  omega

theorem mapM_latin1Byte?_eq_some_iff {characters : List Char} {bytes : List UInt8} :
    characters.mapM latin1Byte? = some bytes ↔
      bytes.map (fun byte => Char.ofNat byte.toNat) = characters := by
  induction characters generalizing bytes with
  | nil =>
      rw [List.mapM_nil, List.map_eq_nil_iff]
      exact ⟨fun same => (Option.some.inj same).symm, fun empty => congrArg some empty.symm⟩
  | cons c characters induction =>
      simp only [List.mapM_cons, Option.bind_eq_bind, Option.bind_eq_some_iff, Option.pure_def,
        Option.some.injEq, latin1Byte?_eq_some_iff, induction, List.map_eq_cons_iff]
      constructor
      · rintro ⟨byte, first, bytes, rest, rfl⟩
        exact ⟨byte, bytes, rfl, first, rest⟩
      · rintro ⟨byte, bytes, rfl, first, rest⟩
        exact ⟨byte, first, bytes, rest, rfl⟩

theorem mapM_latin1Byte?_eq_none_iff {characters : List Char} :
    characters.mapM latin1Byte? = none ↔ ∃ c ∈ characters, 0xFF < c.toNat := by
  induction characters with
  | nil => simp
  | cons c characters induction =>
      rw [List.exists_mem_cons_iff, ← induction, ← latin1Byte?_eq_none_iff, List.mapM_cons]
      cases latin1Byte? c <;> cases characters.mapM latin1Byte? <;> simp

/-- The bytes that represent a text are those that are read as the text. -/
theorem encode?_eq_some_iff {encoding : Encoding} :
    encoding.encode? text = some content ↔ encoding.decode? content = some text := by
  cases encoding with
  | utf8 =>
      constructor
      · intro encoded
        obtain rfl := Option.some.inj encoded
        exact FileSystem.decode?_toUTF8 text
      · intro decoded
        by_cases valid : content.IsValidUTF8
        · obtain rfl := Option.some.inj ((dif_pos valid).symm.trans decoded)
          rfl
        · exact nomatch (dif_neg valid).symm.trans decoded
  | latin1 =>
      simp only [encode?, decode?, Option.map_eq_some_iff, mapM_latin1Byte?_eq_some_iff,
        Option.some.injEq]
      constructor
      · rintro ⟨bytes, same, rfl⟩
        rw [← String.ofList_toList (s := text), ← same]
      · rintro rfl
        exact ⟨content.data.toList, by rw [String.toList_ofList], rfl⟩

theorem latin1_encode?_eq_none_iff :
    latin1.encode? text = none ↔ ∃ c ∈ text.toList, 0xFF < c.toNat := by
  rw [encode?, Option.map_eq_none_iff, mapM_latin1Byte?_eq_none_iff]

theorem exists_utf8_decode?_iff :
    (∃ text, utf8.decode? content = some text) ↔ content.IsValidUTF8 := by
  rw [decode?, String.fromUTF8?]
  split <;> simp_all

end Encoding

namespace FileSystem

variable {fs left : FileSystem} {path : Path} {name text : String} {content : ByteArray}
  {encoding : Encoding} {request : FileRequest} {requests : List FileRequest}

/-! ## A run of requests -/

/-- What is left after the requests are served one after another. -/
def after (fs : FileSystem) (requests : List FileRequest) : FileSystem :=
  requests.foldl (fun fs request => (fs.serve request).2) fs

/-- The request is a write to the path that is accepted. -/
def Writes (fs : FileSystem) (path : Path) : FileRequest → Prop
  | .write name text encoding =>
    fs.resolve name = .ok path ∧ ∃ left, fs.write name text encoding = .ok left
  | _ => False

/-- No write to the path is accepted when the requests are served one after another. -/
def Spares (path : Path) : FileSystem → List FileRequest → Prop
  | _, [] => True
  | fs, request :: more => ¬fs.Writes path request ∧ Spares path (fs.serve request).2 more

/-- Serving a request changes no file but one that is written to, and takes nothing away. -/
theorem growth_serve {territory : Path → Prop}
    (inside : ∀ target, fs.Writes target request → territory target) :
    Growth territory fs (fs.serve request).2 := by
  cases request with
  | stat | read | list => exact .refl territory fs
  | write name text encoding =>
      rw [serve]
      cases success : fs.write name text encoding with
      | error cause => exact .refl territory fs
      | ok left =>
          obtain ⟨target, resolved, written⟩ := exists_writeAt_of_write success
          exact growth_of_writeAt (inside target ⟨resolved, left, success⟩) written
  | makeDirectory name =>
      rw [serve]
      cases success : fs.makeDirectory name with
      | error cause => exact .refl territory fs
      | ok left =>
          obtain ⟨_, _, made⟩ := exists_makeDirectoryAt_of_makeDirectory success
          obtain ⟨free, workingDirectory, view⟩ := view_of_makeDirectoryAt made
          exact (Growth.of_made free workingDirectory view).anywhere

theorem growth_after (fs : FileSystem) (requests : List FileRequest) :
    Growth Anywhere fs (fs.after requests) := by
  induction requests generalizing fs with
  | nil => exact .refl Anywhere fs
  | cons request more induction =>
      have step : Growth Anywhere fs (fs.serve request).2 := growth_serve fun _ _ => trivial
      exact step.trans (induction _)

/-- A file keeps its content as long as no write to it is accepted. -/
theorem growth_after_of_spares (spared : Spares path fs requests) :
    Growth (· ≠ path) fs (fs.after requests) := by
  induction requests generalizing fs with
  | nil => exact .refl _ fs
  | cons request more induction =>
      have step : Growth (· ≠ path) fs (fs.serve request).2 := by
        refine growth_serve fun target writes => ?_
        rintro rfl
        exact spared.1 writes
      exact step.trans (induction spared.2)

theorem Growth.resolve {territory : Path → Prop} (growth : Growth territory fs left)
    (name : String) : left.resolve name = fs.resolve name := by
  rw [FileSystem.resolve, FileSystem.resolve, growth.workingDirectory]

/-! ## Reading and writing -/

theorem read_of_file (resolved : fs.resolve name = .ok path)
    (there : fs.occupant? path = some (.file content)) :
    fs.read name encoding = match encoding.decode? content with
      | some text => .ok text
      | none => .error (.unencodable path encoding) := by
  have found := readAt_eq fs path encoding
  rw [there] at found
  rw [read, resolved]
  exact found

theorem read_eq_ok_iff (resolved : fs.resolve name = .ok path)
    (there : fs.occupant? path = some (.file content)) :
    fs.read name encoding = .ok text ↔ encoding.decode? content = some text := by
  rw [read_of_file resolved there]
  cases encoding.decode? content <;> simp

/-- A file is at the path, or one can be made there. -/
def Writable (fs : FileSystem) (path : Path) : Prop :=
  ∃ directory name, ∃ named : IsName name, path = directory.child name named ∧
    fs.occupant? directory = some .directory ∧ fs.occupant? path ≠ some .directory

theorem writable_of_file (there : fs.occupant? path = some (.file content)) : fs.Writable path := by
  have free : fs.occupant? path ≠ some .directory := by simp [there]
  rcases path.eq_root_or_child with rfl | ⟨directory, name, named, rfl⟩
  · exact absurd (occupant?_root fs) free
  · have occupied : fs.occupant? (directory.child name named) ≠ none := by simp [there]
    exact ⟨directory, name, named, rfl, directory_of_occupied occupied, free⟩

theorem writeAt_of_write (resolved : fs.resolve name = .ok path)
    (success : fs.write name text encoding = .ok left) :
    fs.writeAt path text encoding = .ok left := by
  rw [write, resolved] at success
  exact success

theorem writable_of_write (resolved : fs.resolve name = .ok path)
    (success : fs.write name text encoding = .ok left) : fs.Writable path := by
  obtain ⟨directory, last, named, _, same, _, lead, free, _, _⟩ :=
    view_of_writeAt (writeAt_of_write resolved success)
  exact ⟨directory, last, named, same, lead, free⟩

theorem write_ok (resolved : fs.resolve name = .ok path) (writable : fs.Writable path)
    (encoded : encoding.encode? text = some content) :
    ∃ left, fs.write name text encoding = .ok left ∧
      left.occupant? path = some (.file content) := by
  obtain ⟨directory, last, named, rfl, lead, free⟩ := writable
  obtain ⟨left, success, _, view⟩ := writeAt_ok encoded lead free
  refine ⟨left, ?_, by rw [view, if_pos rfl]⟩
  rw [write, resolved]
  exact success

theorem write_of_unencodable (resolved : fs.resolve name = .ok path) (writable : fs.Writable path)
    (unencodable : encoding.encode? text = none) :
    fs.write name text encoding = .error (.unencodable path encoding) := by
  obtain ⟨directory, last, named, rfl, _, _⟩ := writable
  rw [write, resolved]
  exact writeAt_of_unencodable unencodable

theorem exists_content_of_write (resolved : fs.resolve name = .ok path)
    (success : fs.write name text encoding = .ok left) :
    ∃ content, left.occupant? path = some (.file content) ∧
      encoding.decode? content = some text := by
  obtain ⟨_, _, _, content, _, encoded, _, _, _, view⟩ :=
    view_of_writeAt (writeAt_of_write resolved success)
  exact ⟨content, by rw [view, if_pos rfl], Encoding.encode?_eq_some_iff.mp encoded⟩

/-- What was written is read as it was written until another write to the path is accepted. -/
theorem read_after_write (resolved : fs.resolve name = .ok path)
    (success : fs.write name text encoding = .ok left) (spared : left.Spares path requests)
    {spelling : String} (spelled : (left.after requests).resolve spelling = .ok path) :
    (left.after requests).read spelling encoding = .ok text := by
  obtain ⟨content, there, decoded⟩ := exists_content_of_write resolved success
  have kept : (left.after requests).occupant? path = some (.file content) :=
    (growth_after_of_spares spared).content path content (not_not.mpr rfl) there
  exact (read_eq_ok_iff spelled kept).mpr decoded

/-- A text that was read can be written back whatever was asked since, which restores the bytes. -/
theorem write_after_read (resolved : fs.resolve name = .ok path)
    (there : fs.occupant? path = some (.file content)) (read_ok : fs.read name encoding = .ok text)
    (requests : List FileRequest) {spelling : String} (spelled : fs.resolve spelling = .ok path) :
    ∃ restored, (fs.after requests).write spelling text encoding = .ok restored ∧
      restored.occupant? path = some (.file content) := by
  have encoded : encoding.encode? text = some content :=
    Encoding.encode?_eq_some_iff.mpr ((read_eq_ok_iff resolved there).mp read_ok)
  have still : Occupant.IsFile ((fs.after requests).occupant? path) :=
    (growth_after fs requests).file path (by simp [there, Occupant.IsFile])
  obtain ⟨_, now⟩ := Occupant.isFile_iff.mp still
  have resolved' := ((growth_after fs requests).resolve spelling).trans spelled
  exact write_ok resolved' (writable_of_file now) encoded

/-- Where files can be written, a Latin-1 write fails because of a character past the first 256. -/
theorem latin1_write_eq_error_iff (resolved : fs.resolve name = .ok path)
    (writable : fs.Writable path) {cause : FileError} :
    fs.write name text .latin1 = .error cause ↔
      cause = .unencodable path .latin1 ∧ ∃ c ∈ text.toList, 0xFF < c.toNat := by
  rw [← Encoding.latin1_encode?_eq_none_iff]
  cases encoded : Encoding.latin1.encode? text with
  | none => simp [write_of_unencodable resolved writable encoded, eq_comm]
  | some content =>
      obtain ⟨left, success, _⟩ := write_ok resolved writable encoded
      simp [success]

/-- Content survives in both encodings, by any names of the path. What was written is read again
until the next accepted write to the path; a text that was read restores the bytes; every file is
read in Latin-1, and in UTF-8 those with valid bytes; and where UTF-8 can be written, Latin-1 is
refused for a character past U+00FF only, without any change. -/
theorem content_round_trips (resolved : fs.resolve name = .ok path) :
    (∀ text encoding left, fs.write name text encoding = .ok left →
      ∀ requests, left.Spares path requests →
      ∀ spelling, (left.after requests).resolve spelling = .ok path →
        (left.after requests).read spelling encoding = .ok text) ∧
    (∀ content, fs.occupant? path = some (.file content) →
      (∃ text, fs.read name .latin1 = .ok text) ∧
      ((∃ text, fs.read name .utf8 = .ok text) ↔ content.IsValidUTF8) ∧
      ∀ text encoding, fs.read name encoding = .ok text →
      ∀ requests spelling, fs.resolve spelling = .ok path →
        ∃ restored, (fs.after requests).write spelling text encoding = .ok restored ∧
          restored.occupant? path = some (.file content)) ∧
    ∀ other written, fs.write name other .utf8 = .ok written → ∀ text,
      ((∃ cause, fs.write name text .latin1 = .error cause) ↔ ∃ c ∈ text.toList, 0xFF < c.toNat) ∧
      ∀ cause, fs.write name text .latin1 = .error cause →
        cause = .unencodable path .latin1 ∧
          fs.serve (.write name text .latin1) = (.change (.error cause), fs) := by
  refine ⟨fun text encoding left success requests spared spelling spelled =>
    read_after_write resolved success spared spelled, ?_, ?_⟩
  · intro content there
    refine ⟨⟨_, (read_eq_ok_iff resolved there).mpr rfl⟩, ?_,
      fun text encoding read_ok requests spelling spelled =>
        write_after_read resolved there read_ok requests spelled⟩
    rw [← Encoding.exists_utf8_decode?_iff]
    exact exists_congr fun text => read_eq_ok_iff resolved there
  · intro other written success text
    have writable := writable_of_write resolved success
    refine ⟨?_, fun cause refused => ⟨?_, ?_⟩⟩
    · simp only [latin1_write_eq_error_iff resolved writable, exists_eq_left]
    · exact ((latin1_write_eq_error_iff resolved writable).mp refused).1
    · rw [serve, refused]
      rfl

end FileSystem

namespace Sample

/-- A file system with a note of one Latin-1 character, which is no UTF-8. -/
def noted : FileSystem := (FileSystem.serve (.bare .root) (.write "/note.txt" "é" .latin1)).2

/-- The path of the note. -/
def notePath : Path := Path.root.child "note.txt" (by decide)

/-- The note is overwritten and restored, and a snowman does not fit into it. -/
theorem content_round_trips_noted :
    (∃ left, noted.write "note.txt" "\ufeffé" .utf8 = .ok left ∧
      (left.after [.write "other.txt" "é" .latin1]).read "/./note.txt" .utf8 = .ok "\ufeffé") ∧
    (∃ text restored, noted.read "note.txt" .latin1 = .ok text ∧
      (noted.after [.write "note.txt" "☃" .utf8]).write "/./note.txt" text .latin1 = .ok restored ∧
      restored.occupant? notePath = some (.file ⟨#[0xE9]⟩)) ∧
    ¬(∃ text, noted.read "note.txt" .utf8 = .ok text) ∧
    noted.serve (.write "note.txt" "☃" .latin1) =
      (.change (.error (.unencodable notePath .latin1)), noted) := by
  have resolved : noted.resolve "note.txt" = .ok notePath := by
    rw [FileSystem.resolve_eq_ok_iff]
    decide +kernel
  have spelled : noted.resolve "/./note.txt" = .ok notePath := by
    rw [FileSystem.resolve_eq_ok_iff]
    decide +kernel
  have there : noted.occupant? notePath = some (.file ⟨#[0xE9]⟩) := by decide +kernel
  have writable := FileSystem.writable_of_file there
  obtain ⟨lasts, kept, refused⟩ := FileSystem.content_round_trips resolved
  obtain ⟨⟨text, read_ok⟩, valid, restores⟩ := kept _ there
  obtain ⟨left, success, _⟩ :=
    FileSystem.write_ok resolved writable (FileSystem.encode?_utf8 "\ufeffé")
  have names : ∀ name, left.resolve name = noted.resolve name :=
    (FileSystem.growth_of_write success).resolve
  have elsewhere : noted.resolve "other.txt" ≠ .ok notePath := by
    rw [Ne, FileSystem.resolve_eq_ok_iff]
    decide +kernel
  have spared : left.Spares notePath [.write "other.txt" "é" .latin1] :=
    ⟨fun writes => elsewhere ((names _).symm.trans writes.1), trivial⟩
  have still : (left.after [.write "other.txt" "é" .latin1]).resolve "/./note.txt" =
      .ok notePath :=
    ((FileSystem.growth_after _ _).resolve _).trans ((names _).trans spelled)
  obtain ⟨restored, rewritten, bytes⟩ :=
    restores text .latin1 read_ok [.write "note.txt" "☃" .utf8] "/./note.txt" spelled
  obtain ⟨fails, unchanged⟩ := refused _ left success "☃"
  obtain ⟨cause, failed⟩ := fails.mpr ⟨'☃', by decide, by decide⟩
  obtain ⟨rfl, same⟩ := unchanged cause failed
  exact ⟨⟨left, success, lasts _ _ left success _ spared _ still⟩,
    ⟨text, restored, read_ok, rewritten, bytes⟩, mt valid.mp (by decide +kernel), same⟩

end Sample
end Workbench
