import Workbench.Compile.Options
import Workbench.FileSystem.Directories
import Workbench.NameTable
import Workbench.Path.Spelling
import Workbench.Remote.Progress
import Workbench.Text.Pieces
import Workbench.Url.Parse

/-!
# Loading libraries

A library file refers to others by lines such as `/// <reference lib="es5" />`. The library files
that compiler options ask for are loaded together with all that they refer to, directly or through
other files. Files are requested in the order in which they were found, each of them once, so that a
circle of references does no harm. What has come is put into one directory.
-/

namespace Workbench

/-! ## References -/

namespace Library

/-- How the attribute starts. -/
def attributeMark : List Char := ['l', 'i', 'b', '=']

/-- The value of the first attribute `lib` that has a blank right before it; `afterBlank` tells
whether one is before this text. -/
def attribute? (afterBlank : Bool) : List Char → Option (List Char)
  | [] => none
  | c :: rest =>
    if afterBlank && attributeMark.isPrefixOf (c :: rest) then
      Text.quoted? ((c :: rest).drop attributeMark.length)
    else attribute? (Text.isBlank c) rest

/-- The library that a line refers to. -/
def reference? (line : List Char) : Option (List Char) :=
  let line := Text.trimStart line
  if "///".toList.isPrefixOf line && Text.contains "<reference".toList line then
    attribute? false line
  else none

/-- The libraries that a text refers to, in the order of its lines. -/
def references (text : String) : List String :=
  ((Text.lines text.toList).filterMap reference?).map String.ofList

end Library

/-! ## Sets of library files -/

/-- Texts of library files by their names. -/
abbrev LibraryFiles := NameMap String

namespace LibraryFiles

/-- Writes files into the directory with the given text in order, and gives their paths. -/
def writeAll (location : String) : List (String × String) → FileActivity (List String)
  | [] => return []
  | (name, text) :: more => do
    let target := Spelling.join location name
    FileActivity.ofOperation (·.write target text .utf8)
    return target :: (← writeAll location more)

/-- Puts the files into the directory at `location`, which is made if it is missing. -/
def install (files : LibraryFiles) (location : String) : FileActivity (List String) := do
  let directory ← FileActivity.ofQuery (·.resolve location)
  FileSystem.makeDirectoriesAt directory
  writeAll directory.text files.entries

end LibraryFiles

/-! ## Loads -/

/-- A site that serves library files. -/
structure LibrarySite where
  /-- Where the files are; the path ends with a slash. -/
  url : Url
deriving DecidableEq, Repr

namespace LibrarySite

/-- The name can be a file name at the site. -/
def isFileName (name : String) : Bool :=
  !name.toList.contains '/' && !Text.contains ['.', '.'] name.toList

/-- The URL of a library file. -/
def fileUrl (site : LibrarySite) (name : String) : Except FetchError Url :=
  if isFileName name then (site.url.join name).mapError fun _ => .invalidReference name
  else .error (.invalidReference name)

/-- How the site is shown to developers. -/
def summary (site : LibrarySite) : String :=
  "LibraryLoader \x7b base: " ++ Text.quote site.url.text ++ ", .. \x7d"

end LibrarySite

/-- A load that waits for a file. -/
structure LibraryLoad where
  /-- Where the files come from. -/
  site : LibrarySite
  /-- The files that have come, in the order of their requests. -/
  loaded : List (String × String)
  /-- The name of the file that is waited for. -/
  awaited : String
  /-- The URL of that file. -/
  url : Url
  /-- The names found but not yet requested. -/
  pending : List String
deriving DecidableEq, Repr

namespace LibraryLoad

/-- The names that are not among the known ones, each at its first place only. -/
def unknown (known : List String) : List String → List String
  | [] => []
  | name :: more =>
    if name ∈ known then unknown known more else name :: unknown (name :: known) more

/-- Goes on to the next pending name. -/
def request (site : LibrarySite) (loaded : List (String × String)) :
    List String → Progress LibraryLoad (Except FetchError LibraryFiles)
  | [] => .done (.ok (NameMap.ofList loaded))
  | name :: pending =>
    Progress.ofAttempt do
      let url ← site.fileUrl name
      return .waiting url ⟨site, loaded, name, url, pending⟩

/-- Starts to load the libraries of the options. -/
def start (site : LibrarySite) (options : CompilerOptions) :
    Progress LibraryLoad (Except FetchError LibraryFiles) :=
  request site [] (unknown [] options.rootLibraries)

/-- The names found so far. -/
def known (load : LibraryLoad) : List String :=
  load.loaded.map (·.1) ++ load.awaited :: load.pending

/-- Goes on with what came of the request. -/
def resume (load : LibraryLoad) (reply : Reply) :
    Progress LibraryLoad (Except FetchError LibraryFiles) :=
  Progress.ofAttempt do
    let text ← reply.content load.url
    let found := (Library.references text).map libraryFileName
    return request load.site (load.loaded ++ [(load.awaited, text)])
      (load.pending ++ unknown load.known found)

/-- A bound on the number of files that a load can request from stored responses: those asked for
and those referred to in some response. -/
def rounds (responses : CannedResponses) (options : CompilerOptions) : Nat :=
  options.rootLibraries.length +
    (responses.entries.flatMap fun entry => Library.references entry.2.body).length

/-- Loads libraries from stored responses in one go. -/
def run (responses : CannedResponses) (site : LibrarySite) (options : CompilerOptions) :
    Settled LibraryLoad (Except FetchError LibraryFiles) Unit :=
  settle responses.transport (fun load reply => pure (load.resume reply))
    (rounds responses options) (start site options) ()

end LibraryLoad
end Workbench
