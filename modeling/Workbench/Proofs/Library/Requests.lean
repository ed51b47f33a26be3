import Workbench.Proofs.Library.Loading
import Workbench.Proofs.Url.Naming

/-!
# Where libraries are requested

The names of libraries come from options and from the texts of other libraries. They are checked as
they are given, but URLs are read from them. A library is requested from the directory of its site,
under its own name, exactly if that is a single name to URLs as well. Names that backslashes divide
and names that start with a scheme are accepted too, and lead elsewhere.
-/

namespace Workbench

open Url (EncodeSet encode pathPart)

theorem startsName_l : Url.StartsName 'l' := ⟨by decide, by decide, by decide, by decide⟩

theorem schemeKind_of_head {scheme : String} (head : scheme.toList.head? = some 'l') :
    Url.SchemeKind.of scheme = .other := by
  have unlike : ∀ common ∈ ["file", "http", "ws", "https", "wss", "ftp"],
      common.toList.head? ≠ some 'l' := by decide
  have distinct : ∀ common ∈ ["file", "http", "ws", "https", "wss", "ftp"], scheme ≠ common := by
    rintro common listed rfl
    exact unlike _ listed head
  simp only [List.forall_mem_cons] at distinct
  obtain ⟨file, http, ws, https, wss, ftp, _⟩ := distinct
  simp [Url.SchemeKind.of, Url.defaultPort?, file, http, ws, https, wss, ftp]

theorem IsLibraryName.exists_eq_cons {name : String} (library : IsLibraryName name) :
    ∃ rest, name.toList = 'l' :: rest := by
  obtain ⟨rest, name_eq⟩ := library
  exact ⟨_, name_eq.symm⟩

namespace LibrarySite

variable {site : LibrarySite} {name : String} {url : Url}

theorem isFile_fileUrl_iff (web : site.url.scheme = "http" ∨ site.url.scheme = "https")
    (directory : site.url.IsDirectory) (library : IsLibraryName name)
    (asked : site.fileUrl name = .ok url) :
    site.url.IsFile (encode EncodeSet.path (pathPart name.toList)) url ↔ Url.IsSingleName name := by
  obtain ⟨rest, name_eq⟩ := library.exists_eq_cons
  have accepted := LibraryLoad.isFileName_of_accepted asked
  rw [fileUrl, if_pos accepted] at asked
  have whole : '/' ∉ name.toList := by
    rw [isFileName, Bool.and_eq_true] at accepted
    simpa using accepted.1
  cases joined : site.url.join name with
  | error cause =>
      rw [joined] at asked
      cases asked
  | ok own =>
      rw [joined] at asked
      obtain rfl := Except.ok.inj asked
      refine Url.isFile_join_iff (Url.SchemeKind.of_web web) directory startsName_l name_eq ?_ whole joined
      intro scheme after found
      obtain ⟨more, trimmed_eq, _⟩ := Url.exists_trimmed_eq startsName_l name_eq
      rw [trimmed_eq] at found
      exact schemeKind_of_head (Url.head?_of_scheme? (by decide) found)

end LibrarySite

namespace LibraryLoad

variable {site : LibrarySite}

/-- What a load waits for is a library at the site, and so is what it is going to request. -/
def Asks (site : LibrarySite) : Progress LibraryLoad (Except FetchError LibraryFiles) → Prop
  | .waiting url load => load.site = site ∧ site.fileUrl load.awaited = .ok url ∧
      ∀ name ∈ load.awaited :: load.pending, IsLibraryName name
  | .done _ => True

theorem asks_request {loaded : List (String × String)} {pending : List String}
    (library : ∀ name ∈ pending, IsLibraryName name) : Asks site (request site loaded pending) := by
  cases pending with
  | nil => trivial
  | cons name pending =>
      cases accepted : site.fileUrl name with
      | error cause =>
          rw [request_of_refused accepted]
          trivial
      | ok url =>
          rw [request_of_accepted accepted]
          exact ⟨rfl, accepted, library⟩

theorem asks_start (site : LibrarySite) (options : CompilerOptions) :
    Asks site (start site options) :=
  asks_request fun _ member =>
    isLibraryName_of_mem_rootLibraries ((unknown_spec [] options.rootLibraries).2.2 member)

theorem asks_resume (url : Url) (load : LibraryLoad) (reply : Reply)
    (asks : Asks site (.waiting url load)) : Asks site (load.resume reply) := by
  obtain ⟨rfl, _, library⟩ := asks
  cases content : reply.content load.url with
  | error cause =>
      rw [resume_of_failed content]
      trivial
  | ok text =>
      rw [resume_of_content content]
      refine asks_request fun name member => ?_
      rcases List.mem_append.mp member with old | new
      · exact library name (List.mem_cons_of_mem _ old)
      · obtain ⟨reference, _, rfl⟩ := List.mem_map.mp ((unknown_spec _ _).2.2 new)
        exact isLibraryName_libraryFileName reference

/-- Whatever is asked for and whatever is answered, a library is requested as a file of the site,
under its own name, exactly if that is a single name. -/
theorem requests_stay_at_site (web : site.url.scheme = "http" ∨ site.url.scheme = "https")
    (directory : site.url.IsDirectory) {options : CompilerOptions} {replies : List Reply} {url : Url}
    {load : LibraryLoad} (waits : (start site options).follow resume replies = .waiting url load) :
    site.url.IsFile (encode EncodeSet.path (pathPart load.awaited.toList)) url ↔
      Url.IsSingleName load.awaited := by
  have asks := Progress.follow_induction asks_resume (asks_start site options) replies
  rw [waits] at asks
  obtain ⟨_, asked, library⟩ := asks
  exact site.isFile_fileUrl_iff web directory (library _ List.mem_cons_self) asked

end LibraryLoad

namespace Sample

/-- A site with its libraries in a directory. -/
def librarySite : LibrarySite :=
  ⟨⟨"https", some { host := .domain "libs.test" }, .segments ["lib", ""], none, none⟩⟩

/-- A library that refers to one whose name looks like dots, a query and a scheme. -/
def oddReference : Reply := .ok ⟨200, "/// <reference lib=\"ES2015.%2E%2E?x:y\" />"⟩

/-- The odd library is still requested from the directory of the site. -/
theorem requests_stay_at_site_oddReference :
    ∃ url load, (LibraryLoad.start librarySite {}).follow LibraryLoad.resume [oddReference] =
        .waiting url load ∧ load.awaited = "lib.es2015.%2e%2e?x:y.d.ts" ∧
      librarySite.url.IsFile (encode EncodeSet.path (pathPart load.awaited.toList)) url := by
  have stands : ((LibraryLoad.start librarySite {}).follow LibraryLoad.resume
      [oddReference]).awaited?.map (·.2.awaited) = some "lib.es2015.%2e%2e?x:y.d.ts" := by
    decide +kernel
  obtain ⟨⟨url, load⟩, found, awaited⟩ := Option.map_eq_some_iff.mp stands
  have waits := Progress.awaited?_eq_some_iff.mp found
  have single : Url.IsSingleName "lib.es2015.%2e%2e?x:y.d.ts" := ⟨by decide, by decide⟩
  rw [← awaited] at single
  exact ⟨url, load, waits, awaited,
    (LibraryLoad.requests_stay_at_site (.inr rfl) ⟨["lib"], rfl⟩ waits).mpr single⟩

/-- A library that refers to one whose name backslashes and encoded dots divide. -/
def upwardReference : Reply := .ok ⟨200, "/// <reference lib=\"\\%2e%2e\\%2e%2e\\secret\" />"⟩

/-- The library is requested from above the directory of the site. -/
theorem requests_leave_site : librarySite.url.scheme = "https" ∧ librarySite.url.IsDirectory ∧
    librarySite.url.query = none ∧ librarySite.url.fragment = none ∧
    ∃ url load, (LibraryLoad.start librarySite {}).follow LibraryLoad.resume [upwardReference] =
        .waiting url load ∧ load.awaited = "lib.\\%2e%2e\\%2e%2e\\secret.d.ts" ∧
      ∀ segment, ¬librarySite.url.IsFile segment url := by
  have stands : ((LibraryLoad.start librarySite {}).follow LibraryLoad.resume
      [upwardReference]).awaited?.map (fun waiting => (waiting.1, waiting.2.awaited)) =
        some (⟨"https", some { host := .domain "libs.test" }, .segments ["secret.d.ts"], none, none⟩,
          "lib.\\%2e%2e\\%2e%2e\\secret.d.ts") := by
    decide +kernel
  obtain ⟨⟨url, load⟩, found, asked⟩ := Option.map_eq_some_iff.mp stands
  obtain ⟨url_eq, awaited⟩ := Prod.mk.inj asked
  refine ⟨rfl, ⟨["lib"], rfl⟩, rfl, rfl, url, load, Progress.awaited?_eq_some_iff.mp found, awaited,
    fun segment isFile => ?_⟩
  have front : "/lib/".toList <+: "/secret.d.ts".toList := by
    have path_eq := isFile.path
    dsimp only at url_eq
    rw [url_eq] at path_eq
    exact ⟨segment, path_eq.symm⟩
  exact absurd front (by decide)

end Sample
end Workbench
