import Workbench.Proofs.Package.Fetching
import Workbench.Proofs.Url.Joining

/-!
# Where packages are requested

The name of a package and the path of its types are checked as they are given, but URLs are read
from them. Requests stay in the directory of the package on its registry if the name means to a URL
what it says and segments of dots in the path of the types, encoded ones included, lead up no
further than others led down. Names and paths that mean something else to a URL can be requested
from anywhere.
-/

namespace Workbench

open Url (EncodeSet encode pathPart)

namespace PackageRegistry

/-- The URL is in the directory of the package on the registry. -/
structure Contains (registry : PackageRegistry) (name : String) (url : Url) : Prop where
  scheme : url.scheme = registry.url.scheme
  authority : url.authority = registry.url.authority
  path : registry.url.path.text.toList ++ encode EncodeSet.path name.toList ++ ['/'] <+:
    url.path.text.toList

end PackageRegistry

namespace Package

/-- To URLs the name means what it says: no scheme is in front, nothing in it starts a query or a
fragment, and none of its segments is made of encoded dots. -/
structure IsLiteral (name : String) : Prop where
  schemeless : Url.scheme? name.toList = none
  inPath : name.toList.all Url.inPath = true
  named : ∀ piece ∈ Text.pieces '/' name.toList,
    Url.PathText.isDoubleDot (Url.segment piece) = false ∧
      Url.PathText.isSingleDot (Url.segment piece) = false

variable {name : String}

theorem IsLiteral.isPlain (isLiteral : IsLiteral name) (valid : isName name = true) :
    Url.IsPlain name.toList where
  relative := by
    refine Text.exists_cons_of_pieces fun piece member => ?_
    rintro rfl
    exact absurd (isNameSegment_of_isName valid member) (by decide)
  visible c member := by
    by_cases slash : c = '/'
    · subst slash
      decide
    · obtain ⟨blank, control, _⟩ := harmless_of_isName valid member slash
      by_contra hidden
      have low : c.toNat ≤ 0x20 := Nat.le_of_not_lt hidden
      rcases Nat.le_succ_iff.mp low with below | space
      · simp [Text.isControl, below] at control
      · simp [Text.isBlank, space] at blank
  inPath := List.all_eq_true.mp isLiteral.inPath
  slashed member := (harmless_of_isName valid member (by decide)).2.2 rfl
  schemeless := isLiteral.schemeless
  named := isLiteral.named

end Package

namespace PackageRegistry

variable {registry : PackageRegistry} {name file : String}

/-- A file of a package whose name is literal is in the directory of the package, as long as
segments of dots in its path stay below it. -/
theorem exists_fileUrl (web : registry.url.scheme = "http" ∨ registry.url.scheme = "https")
    (directory : registry.url.IsDirectory) (valid : Package.isName name = true)
    (isLiteral : Package.IsLiteral name) (stays : Url.PathText.staysBelow 0
      (Text.piecesBy Url.SchemeKind.common.separates (pathPart file.toList)) = true) :
    ∃ url, registry.fileUrl name file = .ok url ∧ registry.Contains name url := by
  have text_eq : (name ++ "/" ++ file).toList = name.toList ++ '/' :: file.toList := by simp
  obtain ⟨url, joined, scheme, authority, path⟩ := Url.exists_join_of_isPlain (Url.SchemeKind.of_web web) directory
    (isLiteral.isPlain valid) text_eq stays
  refine ⟨url, ?_, scheme, authority, path⟩
  rw [fileUrl, joined]
  rfl

end PackageRegistry

namespace PackageFetch

variable {registry : PackageRegistry} {name : String}

/-- The file that a fetch waits for. -/
def file : PackageFetch → String
  | manifest .. => Package.manifestName
  | declarations descriptor .. => descriptor.entry

/-- What a fetch waits for is a file of the package. -/
def Asks (registry : PackageRegistry) (name : String) :
    Progress PackageFetch (Except FetchError FetchedPackage) → Prop
  | .waiting url fetch => Package.isName name = true ∧ registry.fileUrl name fetch.file = .ok url ∧
      ∀ own asked awaited, fetch = .manifest own asked awaited → own = registry ∧ asked = name
  | .done _ => True

theorem start_of_fileUrl (valid : Package.isName name = true) {url : Url}
    (asked : registry.fileUrl name Package.manifestName = .ok url) :
    start registry name = .waiting url (.manifest registry name url) := by
  rw [start, Package.checkName, if_pos valid, asked]
  rfl

theorem asks_start (registry : PackageRegistry) (name : String) :
    Asks registry name (start registry name) := by
  refine Progress.holds_ofAttempt (fun _ => trivial) fun progress success => ?_
  obtain ⟨_, checked, success⟩ := exists_of_bind_eq_ok success
  obtain ⟨url, asked, success⟩ := exists_of_bind_eq_ok success
  obtain rfl := Except.ok.inj success
  rw [Package.checkName] at checked
  split at checked
  next valid =>
    refine ⟨valid, asked, fun own asked awaited same => ?_⟩
    obtain ⟨rfl, rfl, _⟩ := PackageFetch.manifest.inj same
    exact ⟨rfl, rfl⟩
  next => cases checked

theorem asks_resume (url : Url) (fetch : PackageFetch) (reply : Reply)
    (asks : Asks registry name (.waiting url fetch)) : Asks registry name (fetch.resume reply) := by
  refine Progress.holds_ofAttempt (fun _ => trivial) fun progress success => ?_
  obtain ⟨valid, _, own⟩ := asks
  cases fetch with
  | manifest registry asked awaited =>
      obtain ⟨rfl, rfl⟩ := own _ _ _ rfl
      obtain ⟨text, _, success⟩ := exists_of_bind_eq_ok success
      obtain ⟨declared, _, success⟩ := exists_of_bind_eq_ok success
      cases entry_eq : declared.typesEntry? with
      | none =>
          rw [entry_eq] at success
          exact nomatch success
      | some given =>
          rw [entry_eq] at success
          obtain ⟨entry, _, success⟩ := exists_of_bind_eq_ok success
          obtain ⟨url, asked, success⟩ := exists_of_bind_eq_ok success
          obtain rfl := Except.ok.inj success
          refine ⟨valid, asked, fun _ _ _ same => ?_⟩
          exact nomatch same
  | declarations descriptor version manifest awaited =>
      obtain ⟨text, _, success⟩ := exists_of_bind_eq_ok success
      obtain rfl := Except.ok.inj success
      trivial

/-- Whatever is answered, a package whose name is literal is requested in its directory on the
registry, as long as segments of dots in the path of its types stay below it. -/
theorem requests_stay_in_package
    (web : registry.url.scheme = "http" ∨ registry.url.scheme = "https")
    (directory : registry.url.IsDirectory) (isLiteral : Package.IsLiteral name)
    {replies : List Reply} {url : Url} {fetch : PackageFetch}
    (waits : (start registry name).follow resume replies = .waiting url fetch)
    (stays : Url.PathText.staysBelow 0
      (Text.piecesBy Url.SchemeKind.common.separates (pathPart fetch.file.toList)) = true) :
    registry.Contains name url := by
  have asks := Progress.follow_induction asks_resume (asks_start registry name) replies
  rw [waits] at asks
  obtain ⟨valid, asked, _⟩ := asks
  obtain ⟨own, own_eq, contains⟩ :=
    registry.exists_fileUrl web directory valid isLiteral stays
  obtain rfl := Except.ok.inj (own_eq.symm.trans asked)
  exact contains

end PackageFetch

namespace Sample

/-- A registry at the root of its host. -/
def rootRegistry : PackageRegistry :=
  ⟨⟨"https", some { host := .domain "registry.test" }, .segments [""], none, none⟩⟩

/-- A manifest whose types lead up once in an encoded form. -/
def upwardManifest : Reply := .ok ⟨200, "\x7b\"types\":\"dist/%2e%2E/index.d.ts\"\x7d"⟩

/-- Where the types of a package with that manifest are awaited. -/
def upward : Option (Url × PackageFetch) :=
  match (PackageFetch.start rootRegistry "@scope/p").follow PackageFetch.resume
    [upwardManifest] with
  | .waiting url fetch =>
    if fetch.file = "dist/%2e%2E/index.d.ts" then some (url, fetch) else none
  | .done _ => none

/-- The types are still requested in the directory of the package. -/
theorem requests_stay_in_package_upward :
    ∃ url fetch, (PackageFetch.start rootRegistry "@scope/p").follow PackageFetch.resume
        [upwardManifest] = .waiting url fetch ∧
      fetch.file = "dist/%2e%2E/index.d.ts" ∧ rootRegistry.Contains "@scope/p" url := by
  have stands : upward.isSome := by decide +kernel
  obtain ⟨⟨url, fetch⟩, found_eq⟩ := Option.isSome_iff_exists.mp stands
  rw [upward] at found_eq
  split at found_eq
  next waits =>
    split at found_eq
    next file_eq =>
      have isLiteral : Package.IsLiteral "@scope/p" :=
        ⟨by decide, by decide, by decide⟩
      have stays : Url.PathText.staysBelow 0 (Text.piecesBy Url.SchemeKind.common.separates
          (pathPart "dist/%2e%2E/index.d.ts".toList)) = true := by decide
      rw [← file_eq] at stays
      exact ⟨_, _, waits, file_eq, PackageFetch.requests_stay_in_package (.inr rfl) ⟨[], rfl⟩
        isLiteral waits stays⟩
    next => exact nomatch found_eq
  next => exact nomatch found_eq

/-- A name that is accepted is read as the URL of another host. -/
theorem requests_leave_registry : Package.isName "http:evil.test" = true ∧
    rootRegistry.url.scheme = "https" ∧ rootRegistry.url.IsDirectory ∧
    rootRegistry.url.query = none ∧ rootRegistry.url.fragment = none ∧
    ∃ url fetch, PackageFetch.start rootRegistry "http:evil.test" = .waiting url fetch ∧
      fetch.file = Package.manifestName ∧ ¬rootRegistry.Contains "http:evil.test" url := by
  have valid : Package.isName "http:evil.test" = true := by decide
  have asked : rootRegistry.fileUrl "http:evil.test" Package.manifestName = .ok
      ⟨"http", some { host := .domain "evil.test" }, .segments ["package.json"], none, none⟩ := by
    decide +kernel
  refine ⟨valid, rfl, ⟨[], rfl⟩, rfl, rfl, _, _, PackageFetch.start_of_fileUrl valid asked, rfl,
    fun contains => ?_⟩
  exact absurd contains.scheme (by decide)

end Sample
end Workbench
