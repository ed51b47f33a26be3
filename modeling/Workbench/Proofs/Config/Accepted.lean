import Workbench.Config
import Workbench.Proofs.Path.Resolution
import Workbench.Proofs.Url.References

/-!
# Settings that are accepted

A configuration that was built has a working directory that can be spelled. Its base URLs keep their
whole paths if the slash that is added to the text ends the path. A query or a fragment in the text
takes the slash instead, and names replace the last segment of such a path.
-/

namespace Workbench
namespace Settings

variable {settings : Settings} {config : Config} {text : String} {url : Url}

theorem exists_of_build (built : settings.build = .ok config) :
    ∃ directory inner registry library,
      Path.root.resolve? settings.currentDirectory = some directory ∧
      innerDirectory settings.libraryDirectory = .ok inner ∧
      baseUrl settings.registryUrl = .ok registry ∧ baseUrl settings.libraryUrl = .ok library ∧
      config = ⟨settings.userAgent, registry, library, directory, inner ++ "/",
        settings.packageVersion, settings.resolution⟩ := by
  rw [build] at built
  cases resolved : Path.root.resolve? settings.currentDirectory with
  | none =>
      rw [resolved] at built
      exact nomatch built
  | some directory =>
      rw [resolved] at built
      obtain ⟨path, same, built⟩ := exists_of_bind_eq_ok built
      obtain rfl := Except.ok.inj same
      obtain ⟨inner, inner_eq, built⟩ := exists_of_bind_eq_ok built
      obtain ⟨registry, registry_eq, built⟩ := exists_of_bind_eq_ok built
      obtain ⟨library, library_eq, built⟩ := exists_of_bind_eq_ok built
      exact ⟨directory, inner, registry, library, rfl, inner_eq, registry_eq, library_eq,
        (Except.ok.inj built).symm⟩

theorem isSpellable_of_build (built : settings.build = .ok config) :
    config.currentDirectory.IsSpellable := by
  obtain ⟨directory, _, _, _, resolved, _, _, _, rfl⟩ := exists_of_build built
  exact Path.isSpellable_of_resolve? resolved

/-! ## Base URLs -/

theorem of_baseUrl (read : baseUrl text = .ok url) :
    Url.parse (Spelling.asDirectory text) = .ok url ∧ url.isRootless = false := by
  rw [baseUrl] at read
  obtain ⟨found, parsed, read⟩ := exists_of_bind_eq_ok read
  have parsed_eq : Url.parse (Spelling.asDirectory text) = .ok found := by
    cases outcome : Url.parse (Spelling.asDirectory text) with
    | error cause =>
        rw [outcome] at parsed
        exact nomatch parsed
    | ok other =>
        rw [outcome] at parsed
        exact congrArg _ (Except.ok.inj parsed)
  split at read
  next => exact nomatch read
  next based =>
    obtain rfl := Except.ok.inj read
    exact ⟨parsed_eq, Bool.eq_false_iff.mpr based⟩

/-- The slash at the end of the text closes the path, if no query and no fragment is in front of it
or the path is closed already. -/
theorem closesPath_asDirectory (closes : text.toList.all Url.inPath = true ∨
    Url.ClosesPath text.toList) : Url.ClosesPath (Spelling.asDirectory text).toList := by
  have ends_in_slash {front : List Char} (inside : ∀ c ∈ front, Url.inPath c = true) :
      Url.ClosesPath (front ++ ['/']) := Url.closesPath_iff.mpr ⟨front, [], rfl, inside, rfl⟩
  rw [List.all_eq_true] at closes
  rw [Spelling.asDirectory]
  split
  next ended =>
    obtain ⟨init, text_eq⟩ := List.getLast?_eq_some_iff.mp ended
    rcases closes with inside | closed
    · rw [text_eq] at inside ⊢
      exact ends_in_slash fun c member => inside c (List.mem_append_left _ member)
    · exact closed
  next unended =>
    rw [String.toList_append]
    rcases closes with inside | closed
    · exact ends_in_slash inside
    · obtain ⟨front, tail, text_eq, inside, marked⟩ := Url.closesPath_iff.mp closed
      rw [text_eq, List.append_assoc, List.cons_append]
      cases tail with
      | nil => exact absurd (by rw [text_eq, List.getLast?_concat]) unended
      | cons mark rest => exact Url.closesPath_iff.mpr ⟨front, _, rfl, inside, marked⟩

/-- What becomes of the path of a mirror that is given as text. -/
structure Mirrors (text : String) (url : Url) : Prop where
  /-- The slash that is added closes the path, if no query and no fragment takes it. With an uncommon
  scheme there may be no path at all. -/
  closed : text.toList.all Url.inPath = true ∨ Url.ClosesPath text.toList →
    url.EndsInSlash ∨ url.path.text = "" ∧ Url.SchemeKind.of url.scheme = .other
  /-- References are put behind a path with a slash at its end. -/
  kept : url.EndsInSlash → url.KeepsPath
  /-- Outside files, they replace the end of any other path. -/
  lost : url.scheme ≠ "file" → url.KeepsPath → url.EndsInSlash

theorem mirrors_of_baseUrl (read : baseUrl text = .ok url) : Mirrors text url := by
  obtain ⟨parsed, based⟩ := of_baseUrl read
  refine ⟨fun closes => ?_, fun ended => ?_, fun foreign => (Url.keepsPath_iff based foreign).mp⟩
  · have closed := Url.isClosed_of_parse (closesPath_asDirectory closes) parsed based
    refine closed.imp Url.IsDirectory.ended fun ⟨path_eq, other⟩ => ⟨?_, other⟩
    rw [path_eq]
    rfl
  · exact Url.keepsPath_of_endsInSlash based ended fun file => Url.isTidy_of_file parsed file

/-- Every mirror of an accepted configuration keeps its whole path if the path ends with a slash, and
only then outside files. It ends with a slash if the text gives no query and no fragment, or a slash
right in front of them, unless the scheme is uncommon and there is no path. -/
theorem mirrors_of_build (built : settings.build = .ok config) :
    Mirrors settings.registryUrl config.registry ∧ Mirrors settings.libraryUrl config.library := by
  obtain ⟨_, _, registry, library, _, _, registry_read, library_read, rfl⟩ := exists_of_build built
  exact ⟨mirrors_of_baseUrl registry_read, mirrors_of_baseUrl library_read⟩

end Settings

namespace Sample

/-- Packages come from a directory of a server. -/
def shelved : Settings := { registryUrl := "http://npm/mirror", libraryUrl := "http://lib" }

/-- The directory that packages come from. -/
def shelf : Url := ⟨"http", some { host := .domain "npm" }, .segments ["mirror", ""], none, none⟩

/-- What is built from a registry and a server of libraries. -/
def servedBy (registry : Url) : Config where
  userAgent := "playground-host/0.1.0"
  registry := registry
  library := ⟨"http", some { host := .domain "lib" }, .segments [""], none, none⟩
  currentDirectory := .root
  libraryDirectory := "libs/"
  packageVersion := "0.0.0-alpha5"
  resolution := .shallow

theorem build_shelved : shelved.build = .ok (servedBy shelf) :=
  eq_ok_of_toOption_eq_some (by decide +kernel)

/-- The slash that is added to the registry closes its path, so that names are put behind it. -/
theorem mirrors_of_build_shelved : shelved.build = .ok (servedBy shelf) ∧ shelf.EndsInSlash ∧
    shelf.KeepsPath := by
  have mirrors := (Settings.mirrors_of_build build_shelved).1
  have ended := (mirrors.closed (.inl (by decide))).resolve_right fun uncommon =>
    absurd uncommon.2 (by decide)
  exact ⟨build_shelved, ended, mirrors.kept ended⟩

/-- Packages come from a directory of a server that wants to be told a token. -/
def tokened : Settings := { shelved with registryUrl := "http://npm/mirror?token=1" }

/-- What the registry is read as, with the slash behind the token. -/
def gate : Url :=
  ⟨"http", some { host := .domain "npm" }, .segments ["mirror"], some "token=1/", none⟩

/-- The query takes the slash, and a manifest is requested from beside the directory. -/
theorem mirror_loses_path : tokened.build = .ok (servedBy gate) ∧ ¬gate.EndsInSlash ∧
    Url.IsReference "p/package.json" ∧ gate.path.text = "/mirror" ∧
    ∃ url, gate.join "p/package.json" = .ok url ∧ url.path.text = "/p/package.json" := by
  have built : tokened.build = .ok (servedBy gate) := eq_ok_of_toOption_eq_some (by decide +kernel)
  have open_ended : ¬gate.EndsInSlash := by
    rw [Url.EndsInSlash]
    decide
  have joined : gate.join "p/package.json" = .ok { gate with
      path := .segments ["p", "package.json"], query := none } :=
    eq_ok_of_toOption_eq_some (by decide +kernel)
  exact ⟨built, open_ended, by decide, by decide, _, joined, by decide⟩

end Sample
end Workbench
