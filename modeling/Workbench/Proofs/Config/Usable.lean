import Workbench.Proofs.Config.Accepted
import Workbench.Proofs.FileSystem.Storing
import Workbench.Session.Basic

/-!
# What accepted settings are good for

The working directory of a configuration that was built is spelled in one way only, and a session can
always be opened in it. The directory of the libraries is in the working directory or is the working
directory itself, and a new session can make it unless its setting holds a NUL.
-/

namespace Workbench

/-! ## Library directories -/

namespace Settings

variable {settings : Settings} {config : Config} {text inner : String}

theorem of_innerDirectory (accepted : innerDirectory text = .ok inner) :
    (∀ c, c ≠ '/' → (c ∈ inner.toList ↔ c ∈ text.toList)) ∧
      ['.', '.'] ∉ Text.pieces '/' inner.toList := by
  rw [innerDirectory] at accepted
  split at accepted
  next => exact nomatch accepted
  next screened =>
    obtain rfl := Except.ok.inj accepted
    rw [String.toList_ofList]
    refine ⟨fun c solid => ?_, fun upward => screened ?_⟩
    · rw [Spelling.mem_trimEnd_iff solid, Spelling.mem_trimStart_iff solid]
    · simp [upward]

theorem resolve?_libraryLocation (built : settings.build = .ok config) (base : Path) :
    ∃ location, config.currentDirectory ≤ location ∧ base.resolve? config.libraryLocation =
      if '\x00' ∈ settings.libraryDirectory.toList then none else some location := by
  have spellable := isSpellable_of_build built
  obtain ⟨directory, inner, _, _, _, accepted, _, _, rfl⟩ := exists_of_build built
  obtain ⟨mem_iff, downward⟩ := of_innerDirectory accepted
  have downward' : ['.', '.'] ∉ Text.pieces '/' (inner ++ "/").toList := by
    have cut : Text.pieces '/' (inner ++ "/").toList = Text.pieces '/' inner.toList ++ [[]] := by
      rw [String.toList_append]
      exact Text.pieces_append '/' inner.toList []
    rw [cut, List.mem_append, not_or]
    exact ⟨downward, by decide⟩
  have plain_iff : '\x00' ∈ (inner ++ "/").toList ↔ '\x00' ∈ settings.libraryDirectory.toList := by
    rw [String.toList_append, List.mem_append, mem_iff '\x00' (by decide)]
    exact or_iff_left (by decide)
  refine ⟨directory.walk (inner ++ "/"), Path.le_walk directory downward', ?_⟩
  rw [Config.libraryLocation, Path.resolve?_directoryText base spellable]
  simp only [plain_iff]

end Settings

/-! ## New sessions -/

theorem Session.exists_create_opened (config : Config) :
    ∃ files, Session.create config = .ok { config, files } ∧
      (FileSystem.makeDirectoriesAt config.currentDirectory).perform
        (.bare config.currentDirectory) = (.ok (), files) ∧
      FileSystem.Opened config.currentDirectory (.bare config.currentDirectory) files := by
  obtain ⟨files, made, opened, _⟩ := FileSystem.exists_opened fun upper _ =>
    FileSystem.not_isFile_bare config.currentDirectory upper
  refine ⟨files, ?_, made, opened⟩
  rw [create, made]
  rfl

/-! ## Directories that can be used -/

/-- The text of an absolute directory: a slash in front of every name and one at the end. No name is
empty, stands for a step or cannot be read. -/
def IsDirectoryText (text : String) : Prop :=
  ∃ names : List String, (∀ name ∈ names, IsName name ∧ '\x00' ∉ name.toList) ∧
    text.toList = (names.flatMap fun name => '/' :: name.toList) ++ ['/']

theorem Path.isDirectoryText {path : Path} (spellable : path.IsSpellable) :
    IsDirectoryText path.directoryText :=
  ⟨path.names, fun name member => ⟨path.ordinary name member, spellable name member⟩,
    path.toList_directoryText⟩

/-- The location of the libraries can be read, does not lie outside the working directory, and can be
made a directory. -/
def Config.CanStock (config : Config) (fs : FileSystem) : Prop :=
  ∃ location left, fs.resolve config.libraryLocation = .ok location ∧
    config.currentDirectory ≤ location ∧
    (FileSystem.makeDirectories config.libraryLocation).perform fs = (.ok (), left) ∧
    left.occupant? location = some .directory

/-- A configuration that was built has a working directory that is spelled as such. It is where a new
session works, and it is there. The session has room for libraries exactly if their directory was
given without a NUL. -/
theorem Settings.usable_of_build {settings : Settings} {config : Config}
    (built : settings.build = .ok config) :
    IsDirectoryText config.currentDirectory.directoryText ∧
      FileSystem.ofWorkingDirectory config.currentDirectory.directoryText =
        .ok (.bare config.currentDirectory) ∧
      ∃ session, Session.create config = .ok session ∧
        (FileSystem.makeDirectories config.currentDirectory.directoryText).perform
          (.bare config.currentDirectory) = (.ok (), session.files) ∧
        session.files.occupant? config.currentDirectory = some .directory ∧
        (config.CanStock session.files ↔ '\x00' ∉ settings.libraryDirectory.toList) := by
  have spellable := isSpellable_of_build built
  have resolve_self (fs : FileSystem) :
      fs.resolve config.currentDirectory.directoryText = .ok config.currentDirectory :=
    FileSystem.resolve_eq_ok_iff.mpr (Path.resolve?_directoryText_self spellable _)
  obtain ⟨files, created, made, opened⟩ := Session.exists_create_opened config
  refine ⟨Path.isDirectoryText spellable, ?_, _, created, ?_, opened.directory _ le_rfl, ?_⟩
  · rw [FileSystem.ofWorkingDirectory, resolve_self]
    rfl
  · rw [FileSystem.perform_makeDirectories, resolve_self]
    exact made
  · obtain ⟨location, below, resolve_eq⟩ := resolve?_libraryLocation built files.workingDirectory
    constructor
    · rintro ⟨_, _, resolved, _⟩ odd
      rw [FileSystem.resolve_eq_ok_iff, resolve_eq, if_pos odd] at resolved
      cases resolved
    · intro plain
      rw [if_neg plain] at resolve_eq
      have resolved := FileSystem.resolve_eq_ok_iff.mpr resolve_eq
      obtain ⟨left, made', opened', _⟩ := FileSystem.exists_opened fun upper (_ : upper ≤ location) =>
        opened.not_isFile (FileSystem.not_isFile_bare config.currentDirectory upper)
      refine ⟨location, left, resolved, below, ?_, opened'.directory location le_rfl⟩
      rw [FileSystem.perform_makeDirectories, resolved]
      exact made'

namespace Sample

/-- A project in a directory that is spelled in a roundabout way, as is that of its libraries. -/
def roundabout : Settings :=
  { shelved with currentDirectory := "work/./project/../tool//", libraryDirectory := "//lib/./ts/" }

/-- What the roundabout spellings come to. -/
def tidied : Config :=
  { servedBy shelf with
    currentDirectory := ⟨["work", "tool"], by decide⟩, libraryDirectory := "lib/./ts/" }

/-- A session in the roundabout directory has room for its libraries. -/
theorem usable_of_build_roundabout : roundabout.build = .ok tidied ∧
    ∃ session, Session.create tidied = .ok session ∧ tidied.CanStock session.files := by
  have built : roundabout.build = .ok tidied := eq_ok_of_toOption_eq_some (by decide +kernel)
  obtain ⟨_, _, session, created, _, _, canStock_iff⟩ := Settings.usable_of_build built
  exact ⟨built, session, created, canStock_iff.mpr (by decide)⟩

/-- Libraries are to be put into a directory whose name holds a NUL. -/
def unspellable : Settings := { shelved with libraryDirectory := "li\x00bs" }

/-- What is built all the same. -/
def unspelled : Config := { servedBy shelf with libraryDirectory := "li\x00bs/" }

/-- A NUL is accepted in the setting, and then nothing can be put where it says. -/
theorem build_accepts_nul : unspellable.build = .ok unspelled ∧
    ∃ session, Session.create unspelled = .ok session ∧
      session.files.resolve unspelled.libraryLocation = .error (.invalidPath "/li\x00bs/") ∧
      (FileSystem.makeDirectories unspelled.libraryLocation).perform session.files =
        (.error (.invalidPath "/li\x00bs/"), session.files) := by
  obtain ⟨files, created, _⟩ := Session.exists_create_opened unspelled
  have refused : files.resolve unspelled.libraryLocation = .error (.invalidPath "/li\x00bs/") :=
    FileSystem.resolve_of_not_readable (by decide +kernel)
  refine ⟨eq_ok_of_toOption_eq_some (by decide +kernel), _, created, refused, ?_⟩
  rw [FileSystem.perform_makeDirectories, refused]

end Sample
end Workbench
