import Mathlib.Data.List.Perm.Subperm
import Workbench.Library.Load
import Workbench.Proofs.FileSystem.View
import Workbench.Proofs.Remote.Settlement

/-!
# What loading libraries comes to

A load requests a name at most once. So where only so many documents are to be had, and they refer
to so many names, a load comes to an end, in a way that depends on the answers alone. The files it
brings have names that a directory can hold.
-/

namespace Workbench

/-! ## Names of library files -/

/-- The text starts like the name of a library file. -/
def IsLibraryName (name : String) : Prop := "lib.".toList <+: name.toList

theorem isLibraryName_append (rest : String) : IsLibraryName ("lib." ++ rest) := by
  rw [IsLibraryName, String.toList_append]
  exact List.prefix_append _ _

theorem isLibraryName_libraryFileName (entry : String) : IsLibraryName (libraryFileName entry) := by
  rw [libraryFileName, String.append_assoc]
  exact isLibraryName_append _

theorem isLibraryName_defaultLibrary (target : LanguageTarget) :
    IsLibraryName target.defaultLibrary := by
  unfold IsLibraryName
  cases target <;> decide

theorem isLibraryName_of_mem_rootLibraries {options : CompilerOptions} {name : String}
    (member : name ∈ options.rootLibraries) : IsLibraryName name := by
  rw [CompilerOptions.rootLibraries] at member
  split at member
  · exact nomatch member
  · split at member
    · rw [List.mem_singleton.mp member]
      exact isLibraryName_defaultLibrary options.target
    · obtain ⟨entry, _, rfl⟩ := List.mem_map.mp member
      exact isLibraryName_libraryFileName entry

/-- A library name that the site accepts is one that a directory can hold. -/
theorem IsLibraryName.isName {name : String} (library : IsLibraryName name)
    (accepted : LibrarySite.isFileName name = true) : IsName name := by
  have long := library.length_le
  rw [LibrarySite.isFileName, Bool.and_eq_true, Bool.not_eq_true'] at accepted
  have short : ∀ {text : String}, name = text → 4 ≤ text.toList.length := by
    rintro text rfl
    exact long
  refine ⟨fun empty => ?_, fun dot => ?_, fun dots => ?_, ?_⟩
  · exact absurd (short empty) (by decide)
  · exact absurd (short dot) (by decide)
  · exact absurd (short dots) (by decide)
  · simpa using accepted.1

/-! ## New names -/

namespace LibraryLoad

theorem unknown_spec (known names : List String) :
    (unknown known names).Nodup ∧ (∀ name ∈ unknown known names, name ∉ known) ∧
      unknown known names ⊆ names := by
  induction names generalizing known with
  | nil => exact ⟨List.nodup_nil, fun _ member => (nomatch member), List.Subset.refl _⟩
  | cons name names induction =>
      rw [unknown]
      split
      next =>
        obtain ⟨once, fresh, listed⟩ := induction known
        exact ⟨once, fresh, List.subset_cons_of_subset name listed⟩
      next absent =>
        obtain ⟨once, fresh, listed⟩ := induction (name :: known)
        refine ⟨List.nodup_cons.mpr ⟨fun again => fresh name again List.mem_cons_self, once⟩, ?_,
          List.cons_subset_cons name listed⟩
        intro other member
        rcases List.mem_cons.mp member with rfl | later
        · exact absent
        · exact fun here => fresh other later (List.mem_cons_of_mem name here)

theorem nodup_append_unknown {known : List String} (once : known.Nodup) (names : List String) :
    (known ++ unknown known names).Nodup := by
  obtain ⟨once', fresh, _⟩ := unknown_spec known names
  exact List.nodup_append.mpr ⟨once, once', fun name old other new same =>
    fresh other new (same ▸ old)⟩

/-! ## The end of a load -/

theorem mem_of_mem_ofList {α : Type} {pairs : List (String × α)} {entry : String × α}
    (member : entry ∈ (NameMap.ofList pairs).entries) : entry ∈ pairs := by
  have folded : ∀ (pairs : List (String × α)) (map : NameMap α),
      entry ∈ (pairs.foldl (fun map pair => map.insert pair.1 pair.2) map).entries →
        entry ∈ map.entries ∨ entry ∈ pairs := by
    intro pairs
    induction pairs with
    | nil => exact fun map member => .inl member
    | cons pair pairs induction =>
        intro map member
        rcases induction (map.insert pair.1 pair.2) member with inserted | later
        · rcases Entries.mem_insert inserted with rfl | old
          · exact .inr List.mem_cons_self
          · exact .inl old
        · exact .inr (List.mem_cons_of_mem pair later)
  rcases folded pairs .empty member with impossible | found
  · exact absurd impossible List.not_mem_nil
  · exact found

theorem mem_names_ofList {α : Type} {pairs : List (String × α)} {name : String}
    (member : name ∈ pairs.map (·.1)) : name ∈ (NameMap.ofList pairs).names := by
  have folded : ∀ (pairs : List (String × α)) (map : NameMap α),
      name ∈ pairs.map (·.1) ∨ map.get? name ≠ none →
        (pairs.foldl (fun map pair => map.insert pair.1 pair.2) map).get? name ≠ none := by
    intro pairs
    induction pairs with
    | nil => exact fun map known => known.resolve_left List.not_mem_nil
    | cons pair pairs induction =>
        intro map known
        refine induction (map.insert pair.1 pair.2) ?_
        by_cases same : name = pair.1
        · subst same
          exact .inr (by simp)
        · rw [map.get?_insert_of_ne same]
          exact known.imp_left fun listed => (List.mem_cons.mp listed).resolve_left same
  exact Entries.mem_names_iff.mpr (folded pairs .empty (.inl member))

variable (transport : Transport) (served : List Url) (options : CompilerOptions)

/-- The names that a load can come across: those asked for, and those that a document refers to. -/
def reachable : List String :=
  options.rootLibraries ++ served.flatMap fun url =>
    match (transport url).content url with
    | .ok text => (Library.references text).map libraryFileName
    | .error _ => []

variable {transport served options}

theorem isLibraryName_of_mem_reachable {name : String}
    (member : name ∈ reachable transport served options) : IsLibraryName name := by
  rcases List.mem_append.mp member with root | referred
  · exact isLibraryName_of_mem_rootLibraries root
  · obtain ⟨url, _, found⟩ := List.mem_flatMap.mp referred
    split at found
    · obtain ⟨entry, _, rfl⟩ := List.mem_map.mp found
      exact isLibraryName_libraryFileName entry
    · exact nomatch found

theorem references_subset_reachable {url : Url} {text : String} (listed : url ∈ served)
    (content : (transport url).content url = .ok text) :
    (Library.references text).map libraryFileName ⊆ reachable transport served options := by
  intro name member
  refine List.mem_append_right _ (List.mem_flatMap.mpr ⟨url, listed, ?_⟩)
  rw [content]
  exact member

/-- Where a load may stand that is to end within so many rounds. -/
structure Bounded (names : List String) (rounds : Nat) (loaded : List (String × String))
    (pending : List String) : Prop where
  /-- No name is known twice. -/
  once : (loaded.map (·.1) ++ pending).Nodup
  /-- All names are among those to come across. -/
  within : loaded.map (·.1) ++ pending ⊆ names
  /-- A directory can hold the files. -/
  files : ∀ entry ∈ loaded, IsName entry.1
  /-- No more names than rounds are left. -/
  left : names.length ≤ loaded.length + rounds

namespace Bounded

variable {names : List String} {rounds : Nat} {loaded : List (String × String)}
  {pending : List String} {name : String}

theorem rounds_pos (bounded : Bounded names rounds loaded (name :: pending)) : 0 < rounds := by
  have fewer := (List.subperm_of_subset bounded.once bounded.within).length_le
  have left := bounded.left
  rw [List.length_append, List.length_map, List.length_cons] at fewer
  omega

theorem isName_of_mem (bounded : Bounded names rounds loaded pending) (libraries : LibraryFiles)
    (complete : Except.ok (NameMap.ofList loaded) = (.ok libraries : Except FetchError _)) :
    ∀ entry ∈ libraries.entries, IsName entry.1 := by
  intro entry member
  obtain rfl := Except.ok.inj complete
  exact bounded.files entry (mem_of_mem_ofList member)

theorem step (bounded : Bounded names (rounds + 1) loaded (name :: pending)) (named : IsName name)
    (text : String) {found : List String} (listed : found ⊆ names) :
    Bounded names rounds (loaded ++ [(name, text)])
      (pending ++ unknown (loaded.map (·.1) ++ name :: pending) found) where
  once := by
    simpa using nodup_append_unknown bounded.once found
  within := by
    obtain ⟨_, _, new⟩ := unknown_spec (loaded.map (·.1) ++ name :: pending) found
    simpa [and_assoc] using And.intro bounded.within (List.Subset.trans new listed)
  files entry member := by
    rcases List.mem_append.mp member with old | new
    · exact bounded.files entry old
    · rw [List.mem_singleton.mp new]
      exact named
  left := by
    have left := bounded.left
    rw [List.length_append, List.length_singleton]
    omega

end Bounded

theorem request_of_refused {site : LibrarySite} {loaded : List (String × String)} {name : String}
    {pending : List String} {cause : FetchError} (refused : site.fileUrl name = .error cause) :
    request site loaded (name :: pending) = .done (.error cause) := by
  rw [request, refused]
  rfl

theorem request_of_accepted {site : LibrarySite} {loaded : List (String × String)} {name : String}
    {pending : List String} {url : Url} (accepted : site.fileUrl name = .ok url) :
    request site loaded (name :: pending) = .waiting url ⟨site, loaded, name, url, pending⟩ := by
  rw [request, accepted]
  rfl

theorem resume_of_failed {load : LibraryLoad} {reply : Reply} {cause : FetchError}
    (failed : reply.content load.url = .error cause) : load.resume reply = .done (.error cause) := by
  rw [resume, failed]
  rfl

theorem resume_of_content {load : LibraryLoad} {reply : Reply} {text : String}
    (content : reply.content load.url = .ok text) :
    load.resume reply = request load.site (load.loaded ++ [(load.awaited, text)])
      (load.pending ++ unknown load.known ((Library.references text).map libraryFileName)) := by
  rw [resume, content]
  rfl

theorem isFileName_of_accepted {site : LibrarySite} {name : String} {url : Url}
    (accepted : site.fileUrl name = .ok url) : LibrarySite.isFileName name = true := by
  rw [LibrarySite.fileUrl] at accepted
  split at accepted
  next fine => exact fine
  next => exact nomatch accepted

/-- A load ends when there are finitely many documents, and a directory can hold what it brings. -/
theorem exists_settles_request (finite : ∀ url text, (transport url).content url = .ok text →
      url ∈ served) (site : LibrarySite) {rounds : Nat} {loaded : List (String × String)}
    {pending : List String}
    (bounded : Bounded (reachable transport served options) rounds loaded pending) :
    ∃ result requests, SettlesAlone transport resume (request site loaded pending) result requests ∧
      ∀ libraries, result = .ok libraries → ∀ entry ∈ libraries.entries, IsName entry.1 := by
  induction rounds generalizing loaded pending with
  | zero =>
      cases pending with
      | nil => exact ⟨_, _, .done _ _, bounded.isName_of_mem⟩
      | cons name pending => exact absurd bounded.rounds_pos (Nat.lt_irrefl 0)
  | succ rounds induction =>
      cases pending with
      | nil => exact ⟨_, _, .done _ _, bounded.isName_of_mem⟩
      | cons name pending =>
          cases accepted : site.fileUrl name with
          | error cause =>
              rw [request_of_refused accepted]
              exact ⟨.error cause, [], .done _ _, nofun⟩
          | ok url =>
              rw [request_of_accepted accepted]
              cases content : (transport url).content url with
              | error cause =>
                  refine ⟨.error cause, [url], .waiting ?_ (.done _ ()), nofun⟩
                  rw [resume_of_failed content]
                  rfl
              | ok text =>
                  have library := isLibraryName_of_mem_reachable
                    (bounded.within (List.mem_append_right _ List.mem_cons_self))
                  have named := library.isName (isFileName_of_accepted accepted)
                  have listed : _ ⊆ reachable transport served options :=
                    references_subset_reachable (finite url text content) content
                  obtain ⟨result, requests, settles, files⟩ :=
                    induction (bounded.step named text listed)
                  refine ⟨result, url :: requests, .waiting ?_ settles, files⟩
                  rw [resume_of_content content]
                  rfl

theorem exists_settles_start (finite : ∀ url text, (transport url).content url = .ok text →
      url ∈ served) (site : LibrarySite) (options : CompilerOptions) :
    ∃ result requests, SettlesAlone transport resume (start site options) result requests ∧
      ∀ libraries, result = .ok libraries → ∀ entry ∈ libraries.entries, IsName entry.1 := by
  obtain ⟨once, _, listed⟩ := unknown_spec [] options.rootLibraries
  have bounded : Bounded (reachable transport served options)
      (reachable transport served options).length [] (unknown [] options.rootLibraries) :=
    ⟨once, List.subset_append_of_subset_left _ listed, nofun, Nat.le_add_left _ _⟩
  exact exists_settles_request finite site bounded

/-! ## Answers of any kind -/

/-- The files that have come, and the one that is waited for, can be held by a directory, and no
name that was asked for has got lost. -/
structure Sound (wanted : List String) (load : LibraryLoad) : Prop where
  loaded : ∀ entry ∈ load.loaded, IsName entry.1
  awaited : IsName load.awaited
  pending : ∀ name ∈ load.pending, IsLibraryName name
  covers : wanted ⊆ load.known

/-- A directory can hold the files, and all that were asked for are among them. -/
structure Supplies (wanted : List String) (libraries : LibraryFiles) : Prop where
  named : ∀ entry ∈ libraries.entries, IsName entry.1
  covers : wanted ⊆ libraries.names

/-- Where a load may stand, whatever was answered. -/
def Standing (wanted : List String) : Progress LibraryLoad (Except FetchError LibraryFiles) → Prop
  | .waiting _ load => load.Sound wanted
  | .done (.ok libraries) => Supplies wanted libraries
  | .done (.error _) => True

variable {wanted : List String}

theorem standing_request {site : LibrarySite} {loaded : List (String × String)}
    {pending : List String} (files : ∀ entry ∈ loaded, IsName entry.1)
    (library : ∀ name ∈ pending, IsLibraryName name) (covers : wanted ⊆ loaded.map (·.1) ++ pending) :
    Standing wanted (request site loaded pending) := by
  cases pending with
  | nil =>
      rw [List.append_nil] at covers
      exact ⟨fun entry member => files entry (mem_of_mem_ofList member),
        fun _ member => mem_names_ofList (covers member)⟩
  | cons name pending =>
      cases accepted : site.fileUrl name with
      | error cause =>
          rw [request_of_refused accepted]
          trivial
      | ok url =>
          rw [request_of_accepted accepted]
          exact ⟨files,
            (library name List.mem_cons_self).isName (isFileName_of_accepted accepted),
            fun other member => library other (List.mem_cons_of_mem name member), covers⟩

theorem subset_append_unknown (known names : List String) : names ⊆ known ++ unknown known names := by
  induction names generalizing known with
  | nil => exact List.nil_subset _
  | cons name names induction =>
      rw [unknown]
      split
      next old => exact List.cons_subset.mpr ⟨List.mem_append_left _ old, induction known⟩
      next =>
        refine List.cons_subset.mpr ⟨by simp, fun other member => ?_⟩
        have found := induction (name :: known) member
        simp only [List.mem_append, List.mem_cons] at found ⊢
        tauto

theorem standing_start (site : LibrarySite) (options : CompilerOptions) :
    Standing options.rootLibraries (start site options) :=
  standing_request nofun
    (fun _ member =>
      isLibraryName_of_mem_rootLibraries ((unknown_spec [] options.rootLibraries).2.2 member))
    (subset_append_unknown [] options.rootLibraries)

theorem standing_resume {load : LibraryLoad} (sound : load.Sound wanted) (reply : Reply) :
    Standing wanted (load.resume reply) := by
  cases content : reply.content load.url with
  | error cause =>
      rw [resume_of_failed content]
      trivial
  | ok text =>
      rw [resume_of_content content]
      refine standing_request (fun entry member => ?_) (fun name member => ?_) ?_
      · rcases List.mem_append.mp member with old | new
        · exact sound.loaded entry old
        · rw [List.mem_singleton.mp new]
          exact sound.awaited
      · rcases List.mem_append.mp member with old | new
        · exact sound.pending name old
        · obtain ⟨reference, _, rfl⟩ := List.mem_map.mp ((unknown_spec _ _).2.2 new)
          exact isLibraryName_libraryFileName reference
      · have known_eq : (load.loaded ++ [(load.awaited, text)]).map (·.1) ++ load.pending =
            load.known := by
          simp [known]
        rw [← List.append_assoc, known_eq]
        exact List.subset_append_of_subset_left _ sound.covers

end LibraryLoad
end Workbench
