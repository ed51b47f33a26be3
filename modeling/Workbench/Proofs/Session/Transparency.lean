import Workbench.Proofs.Config.Usable
import Workbench.Proofs.Session.Advance
import Workbench.Proofs.Session.Faithful
import Workbench.Session.Basic

/-!
# The records of a session are transparent

Calls that do not overlap leave a session faithful. A preparation in a faithful session comes to what
the verdicts on its libraries and packages say, so that its outcome does not depend on what other
calls did before. It makes no request for what is recorded.
-/

namespace Workbench
namespace Invocation

variable {transport : Transport} {config : Config} {session : Session} {name : String}
  {number : Nat} {purpose : Purpose} {more names packages : List String}

/-! ## Calls that do not overlap -/

/-- The call ends with the outcome, and leaves the session after these requests. -/
def Completes (transport : Transport) (purpose : Purpose) (packages : List String)
    (before : Session) (outcome : InvocationOutcome) (after : Session) (requests : List Url) : Prop :=
  Settles transport resume ((start purpose packages).run before).1
    ((start purpose packages).run before).2 outcome after requests

/-- What a preparation comes to, apart from its number, if nothing is wrong with its libraries. -/
def allReady (transport : Transport) (config : Config) (packages : List String) :
    Except CompileError Unit :=
  packages.forM fun name => (verdict transport config name).result

/-! ## Packages -/

theorem run_seePackages_of_unrecorded (unrecorded : session.packages.get? name = none) :
    (seePackages number purpose (name :: more)).run session =
      (PackageFetch.start session.registry name).lift
        (fun fetch => awaitPackage number purpose name fetch more)
        (fun fetched session =>
          onward number purpose more ((settlePackage number name fetched).run session)) session := by
  have run := @run_ensurePackage_of_unrecorded number name session unrecorded
  cases started : PackageFetch.start session.registry name with
  | waiting url fetch =>
      rw [started] at run
      exact run_seePackages_of_waiting run
  | done fetched =>
      rw [started] at run
      exact run_seePackages_of_done run

/-- What seeing to packages does to a faithful session. -/
structure Sees (transport : Transport) (config : Config) (session : Session) (purpose : Purpose)
    (names : List String) (outcome : InvocationOutcome) (left : Session) (requests : List Url) :
    Prop where
  /-- The session stays faithful. -/
  faithful : left.Faithful transport config
  /-- Records stay. -/
  kept : ∀ name, session.packages.get? name ≠ none → left.packages.get? name ≠ none
  /-- A preparation comes to what the verdicts say. -/
  prepared : ∀ options, purpose = .prepare options →
    outcome.map (fun _ => ()) = allReady transport config names
  /-- A fetch ahead of time leaves a record of every package. -/
  recorded : purpose = .preload → ∀ name ∈ names, left.packages.get? name ≠ none
  /-- Requests are made for packages without a record, once for each. -/
  requested : ∃ fetched : List String, fetched ⊆ names ∧ fetched.Nodup ∧
    (∀ name ∈ fetched, session.packages.get? name = none) ∧
      requests = fetched.flatMap (PackageFetch.requests transport ⟨config.registry⟩)

theorem allReady_cons (name : String) (more : List String) :
    allReady transport config (name :: more) =
      (verdict transport config name).result >>= fun _ => allReady transport config more := rfl

theorem exists_sees_onward {middle : Session} (faithful : middle.Faithful transport config)
    (recorded : middle.packages.get? name = some (verdict transport config name))
    (rest : ∃ outcome left requests, Settles transport resume
      ((seePackages middle.generation purpose more).run middle).1
      ((seePackages middle.generation purpose more).run middle).2 outcome left requests ∧
        Sees transport config middle purpose more outcome left requests) :
    ∃ outcome left requests, Settles transport resume
      (onward middle.generation purpose more ((verdict transport config name).result, middle)).1
      (onward middle.generation purpose more ((verdict transport config name).result, middle)).2
      outcome left requests ∧
        Sees transport config middle purpose (name :: more) outcome left requests := by
  rw [onward]
  dsimp only
  cases survived : purpose.failure? (verdict transport config name).result with
  | some cause =>
      refine ⟨.error cause, middle, [], .done _ _, faithful, fun _ => id, ?_, ?_,
        [], List.nil_subset _, List.nodup_nil, List.forall_mem_nil _, rfl⟩
      · rintro options rfl
        rw [allReady_cons, result_eq_error_of_failure? survived]
        rfl
      · rintro rfl
        cases survived
  | none =>
      obtain ⟨outcome, left, requests, settles, faithful', kept, prepared, all, fetched, among, once,
        unrecorded, requests_eq⟩ := rest
      refine ⟨outcome, left, requests, settles, faithful', kept, ?_, ?_, fetched,
        List.subset_cons_of_subset name among, once, unrecorded, requests_eq⟩
      · rintro options rfl
        rw [allReady_cons, eq_ok_of_failure?_eq_none survived]
        exact prepared options rfl
      · rintro rfl other member
        rcases List.mem_cons.mp member with rfl | later
        · exact kept other (by simp [recorded])
        · exact all rfl other later

/-- What was seen after a package had been fetched was seen with the requests for it. -/
theorem Sees.fetched {middle left : Session} {outcome : InvocationOutcome} {requests : List Url}
    (sees : Sees transport config middle purpose (name :: more) outcome left requests)
    (unrecorded : session.packages.get? name = none) {state : PackageState}
    (recorded : middle.packages.get? name = some state)
    (others : ∀ other ≠ name, middle.packages.get? other = session.packages.get? other) :
    Sees transport config session purpose (name :: more) outcome left
      (PackageFetch.requests transport ⟨config.registry⟩ name ++ requests) where
  faithful := sees.faithful
  kept other known := by
    have distinct : other ≠ name := by
      rintro rfl
      exact known unrecorded
    exact sees.kept other (by rwa [others other distinct])
  prepared := sees.prepared
  recorded := sees.recorded
  requested := by
    obtain ⟨fetched, among, once, unknown, rfl⟩ := sees.requested
    have distinct : ∀ other ∈ fetched, other ≠ name := by
      rintro other member rfl
      exact nomatch recorded.symm.trans (unknown other member)
    refine ⟨name :: fetched, List.cons_subset.mpr ⟨List.mem_cons_self, among⟩,
      List.nodup_cons.mpr ⟨fun member => distinct name member rfl, once⟩, ?_, rfl⟩
    intro other member
    rcases List.mem_cons.mp member with rfl | later
    · exact unrecorded
    · rw [← others other (distinct other later)]
      exact unknown other later

/-- Seeing to packages in a faithful session. -/
theorem exists_sees (names : List String) (session : Session)
    (faithful : session.Faithful transport config) :
    ∃ outcome left requests, Settles transport resume
      ((seePackages session.generation purpose names).run session).1
      ((seePackages session.generation purpose names).run session).2 outcome left requests ∧
        Sees transport config session purpose names outcome left requests := by
  induction names generalizing session with
  | nil =>
      rw [run_seePackages_nil]
      refine ⟨_, session, [], .done _ _, faithful, fun _ => id, ?_, fun _ _ member => (nomatch member),
        [], List.Subset.refl _, List.nodup_nil, nofun, rfl⟩
      rintro options rfl
      rw [finish_prepare_eq_ok_iff.mpr ⟨rfl, rfl⟩]
      rfl
  | cons name more induction =>
      cases recorded : session.packages.get? name with
      | some state =>
          obtain rfl := faithful.records name state recorded
          rw [run_seePackages_of_done (run_ensurePackage_of_recorded recorded)]
          exact exists_sees_onward faithful recorded (induction session faithful)
      | none =>
          obtain ⟨middle, settle, faithful', generation, recorded', others⟩ :=
            faithful.run_settlePackage recorded
          have rest := induction middle faithful'
          obtain ⟨outcome, left, requests, settles, sees⟩ :=
            exists_sees_onward faithful' recorded' rest
          rw [run_seePackages_of_unrecorded recorded]
          have registry : session.registry = ⟨config.registry⟩ := by
            rw [Session.registry, faithful.config_eq]
          rw [registry]
          refine ⟨outcome, left, PackageFetch.requests transport ⟨config.registry⟩ name ++ requests,
            .lift ?_ (PackageFetch.settles_start transport _ name) ?_,
            sees.fetched recorded recorded' others⟩
          · intro fetch reply world
            rw [run_resume_awaitPackage]
            cases fetch.resume reply <;> rfl
          · rw [settle, ← generation]
            exact settles

/-! ## Whole calls -/

theorem faithful_begun (faithful : session.Faithful transport config) :
    (begun session).Faithful transport config :=
  ⟨faithful.config_eq, faithful.workingDirectory, faithful.records, faithful.vacant,
    faithful.shelf, faithful.installed⟩

/-- What a preparation comes to, apart from its number, when this becomes of its libraries. -/
def prepared (transport : Transport) (config : Config) (options : CompilerOptions)
    (loaded : Except FetchError LibraryFiles) (packages : List String) : Except CompileError Unit :=
  if options.noLib then allReady transport config packages
  else libraryVerdict config loaded >>= fun _ => allReady transport config packages

/-- What a preparation does to a faithful session, when loading libraries makes these requests. -/
structure Prepares (transport : Transport) (config : Config) (session : Session)
    (options : CompilerOptions) (packages : List String) (result : Except CompileError Unit)
    (loadRequests : List Url) (outcome : InvocationOutcome) (left : Session)
    (requests : List Url) : Prop where
  /-- The session stays faithful. -/
  faithful : left.Faithful transport config
  /-- Records stay. -/
  kept : ∀ name, session.packages.get? name ≠ none → left.packages.get? name ≠ none
  /-- It comes to the result. -/
  outcome_eq : outcome.map (fun _ => ()) = result
  /-- Requests are made for libraries that are not in place, and for packages without a record. -/
  requested : ∃ libraryRequests fetched, requests = libraryRequests ++
      fetched.flatMap (PackageFetch.requests transport ⟨config.registry⟩) ∧
    libraryRequests = (if hasLibraries session options.libraries then [] else loadRequests) ∧
      fetched ⊆ packages ∧ fetched.Nodup ∧
        ∀ name ∈ fetched, session.packages.get? name = none

theorem Sees.prepares {options : CompilerOptions} {middle left : Session}
    {outcome : InvocationOutcome} {requests loadRequests libraryRequests : List Url}
    (sees : Sees transport config middle (.prepare options) packages outcome left requests)
    (records : middle.packages = session.packages)
    (libraries : libraryRequests =
      if hasLibraries session options.libraries then [] else loadRequests) :
    Prepares transport config session options packages (allReady transport config packages)
      loadRequests outcome left (libraryRequests ++ requests) where
  faithful := sees.faithful
  kept := records ▸ sees.kept
  outcome_eq := sees.prepared options rfl
  requested := by
    obtain ⟨fetched, among, once, unknown, rfl⟩ := sees.requested
    rw [records] at unknown
    exact ⟨libraryRequests, fetched, rfl, libraries, among, once, unknown⟩

theorem run_resume_awaitLibraries_eq_lift {options : CompilerOptions} (load : LibraryLoad)
    (reply : Reply) (world : Session) :
    (resume (awaitLibraries number options load packages) reply).run world =
      (load.resume reply).lift (fun load => awaitLibraries number options load packages)
        (fun loaded world => (afterLibraries number options packages loaded).run world) world := by
  rw [run_resume_awaitLibraries]
  cases load.resume reply <;> rfl

theorem run_prepare_of_unequipped {options : CompilerOptions}
    (bare : ¬session.IsEquipped options) :
    (prepare options packages).run session =
      (LibraryLoad.start session.site options).lift
        (fun load => awaitLibraries (session.generation + 1) options load packages)
        (fun loaded world =>
          (afterLibraries (session.generation + 1) options packages loaded).run world)
        (begun session) := by
  rw [run_prepare_of_not_equipped bare]
  cases LibraryLoad.start session.site options <;> rfl

theorem exists_prepares (standard : config.Standard) {options : CompilerOptions}
    {loaded : Except FetchError LibraryFiles} {loadRequests : List Url}
    (loading : SettlesAlone transport LibraryLoad.resume
      (LibraryLoad.start ⟨config.library⟩ options) loaded loadRequests)
    (named : ∀ libraries, loaded = .ok libraries → ∀ file ∈ libraries.entries, IsName file.1)
    (faithful : session.Faithful transport config) (packages : List String) :
    ∃ outcome left requests, Completes transport (.prepare options) packages session outcome left
        requests ∧
      Prepares transport config session options packages
        (prepared transport config options loaded packages) loadRequests outcome left requests := by
  by_cases equipped : session.IsEquipped options
  · have result : prepared transport config options loaded packages =
        allReady transport config packages := by
      rw [prepared]
      rcases equipped with noLib | member
      · rw [if_pos noLib]
      · obtain ⟨loaded', requests', loading', success⟩ := faithful.installed options member
        rw [(loading.unique loading').1, success]
        exact ite_self _
    obtain ⟨outcome, left, requests, settles, sees⟩ :=
      @exists_sees _ _ (.prepare options) packages (begun session) (faithful_begun faithful)
    rw [result]
    refine ⟨outcome, left, [] ++ requests, ?_, sees.prepares rfl ?_⟩
    · rw [Completes, start, run_prepare_of_equipped equipped]
      exact settles
    · rw [if_pos (hasLibraries_iff.mpr equipped)]
  · have absent : ¬hasLibraries session options.libraries = true := mt hasLibraries_iff.mp equipped
    have noLib : ¬options.noLib = true := fun noLib => equipped (.inl noLib)
    have site : session.site = ⟨config.library⟩ := by rw [Session.site, faithful.config_eq]
    obtain ⟨middle, settle, faithful', generation, records⟩ :=
      (faithful_begun faithful).run_settleLibraries standard loading named
    cases verdict_eq : libraryVerdict config loaded with
    | error cause =>
        rw [verdict_eq] at settle
        refine ⟨.error cause, middle, loadRequests ++ [], ?_, faithful', ?_, ?_, loadRequests, [],
          rfl, (if_neg absent).symm, List.nil_subset _, List.nodup_nil, nofun⟩
        · rw [Completes, start, run_prepare_of_unequipped equipped, site]
          refine .lift run_resume_awaitLibraries_eq_lift loading ?_
          exact run_afterLibraries_of_error settle ▸ .done _ _
        · rw [records]
          exact fun _ => id
        · rw [prepared, if_neg noLib, verdict_eq]
          rfl
    | ok value =>
        rw [verdict_eq] at settle
        obtain ⟨outcome, left, requests, settles, sees⟩ :=
          @exists_sees _ _ (.prepare options) packages middle faithful'
        have result : prepared transport config options loaded packages =
            allReady transport config packages := by
          rw [prepared, if_neg noLib, verdict_eq]
          rfl
        rw [result]
        refine ⟨outcome, left, loadRequests ++ requests, ?_,
          sees.prepares records (if_neg absent).symm⟩
        rw [Completes, start, run_prepare_of_unequipped equipped, site]
        refine .lift run_resume_awaitLibraries_eq_lift loading ?_
        rw [generation] at settles
        exact run_afterLibraries_of_ok settle ▸ settles

theorem exists_preloads (faithful : session.Faithful transport config) (packages : List String) :
    ∃ outcome left requests, Completes transport .preload packages session outcome left requests ∧
      Sees transport config session .preload packages outcome left requests :=
  exists_sees packages session faithful

theorem exists_completes (standard : config.Standard) {served : List Url}
    (finite : ∀ url text, (transport url).content url = .ok text → url ∈ served)
    (faithful : session.Faithful transport config) (purpose : Purpose) (packages : List String) :
    ∃ outcome left requests, Completes transport purpose packages session outcome left requests ∧
      left.Faithful transport config ∧
      (∀ name, session.packages.get? name ≠ none → left.packages.get? name ≠ none) ∧
      (purpose = .preload → ∀ name ∈ packages, left.packages.get? name ≠ none) := by
  cases purpose with
  | preload =>
      obtain ⟨outcome, left, requests, completes, sees⟩ := exists_preloads faithful packages
      exact ⟨outcome, left, requests, completes, sees.faithful, sees.kept, sees.recorded⟩
  | prepare options =>
      obtain ⟨loaded, loadRequests, loading, named⟩ :=
        LibraryLoad.exists_settles_start finite ⟨config.library⟩ options
      obtain ⟨outcome, left, requests, completes, prepares⟩ :=
        exists_prepares standard loading named faithful packages
      exact ⟨outcome, left, requests, completes, prepares.faithful, prepares.kept, nofun⟩

end Invocation

namespace Session

variable {transport : Transport} {config : Config} {served : List Url}

/-- The calls end one after the other and leave the session. -/
def Serves (transport : Transport) : Session → List (Purpose × List String) → Session → Prop
  | before, [], after => before = after
  | before, (purpose, packages) :: calls, after => ∃ outcome middle requests,
    Invocation.Completes transport purpose packages before outcome middle requests ∧
      Serves transport middle calls after

theorem exists_serves (standard : config.Standard)
    (finite : ∀ url text, (transport url).content url = .ok text → url ∈ served)
    (calls : List (Purpose × List String)) (session : Session)
    (faithful : session.Faithful transport config) : ∃ after, Serves transport session calls after := by
  induction calls generalizing session with
  | nil => exact ⟨session, rfl⟩
  | cons call calls induction =>
      obtain ⟨outcome, middle, requests, completes, faithful', _⟩ :=
        Invocation.exists_completes standard finite faithful call.1 call.2
      obtain ⟨after, serves⟩ := induction middle faithful'
      exact ⟨after, outcome, middle, requests, completes, serves⟩

/-- Calls that do not overlap leave a session faithful, with a record of all that was fetched ahead
of time. -/
theorem faithful_of_serves (standard : config.Standard)
    (finite : ∀ url text, (transport url).content url = .ok text → url ∈ served)
    {calls : List (Purpose × List String)} {before after : Session}
    (faithful : before.Faithful transport config) (serves : Serves transport before calls after) :
    after.Faithful transport config ∧
      (∀ name, before.packages.get? name ≠ none → after.packages.get? name ≠ none) ∧
      ∀ names, (Purpose.preload, names) ∈ calls → ∀ name ∈ names, after.packages.get? name ≠ none := by
  induction calls generalizing before with
  | nil =>
      obtain rfl := serves
      exact ⟨faithful, fun _ => id, fun _ member => nomatch member⟩
  | cons call calls induction =>
      obtain ⟨purpose, packages⟩ := call
      obtain ⟨outcome, middle, requests, completes, serves⟩ := serves
      obtain ⟨outcome', middle', requests', completes', faithful', kept, recorded⟩ :=
        Invocation.exists_completes standard finite faithful purpose packages
      obtain rfl := (completes.unique completes').2.1
      obtain ⟨faithful'', kept', recorded'⟩ := induction faithful' serves
      refine ⟨faithful'', fun name known => kept' name (kept name known), ?_⟩
      intro names member name listed
      rcases List.mem_cons.mp member with first | later
      · obtain ⟨rfl, rfl⟩ := Prod.mk.inj first
        exact kept' name (recorded rfl name listed)
      · exact recorded' names later name listed

/-! ## Fresh sessions -/

theorem exists_create (transport : Transport) (config : Config) :
    ∃ fresh, create config = .ok fresh ∧ fresh.Faithful transport config := by
  obtain ⟨files, created, _, opened⟩ := exists_create_opened config
  have no_file : ∀ path, ¬Occupant.IsFile (files.occupant? path) := fun path =>
    opened.not_isFile (FileSystem.not_isFile_bare config.currentDirectory path)
  have empty : ∀ {name : String} {named : IsName name} {path : Path},
      config.currentDirectory.child name named ≤ path → files.occupant? path = none := by
    intro name named path below
    have outside : ¬path ≤ config.currentDirectory :=
      fun leads => absurd (below.trans leads) (Path.not_child_le _ name named)
    rw [opened.view, if_neg fun both => outside both.1, FileSystem.occupant?_bare, if_neg]
    rintro rfl
    exact outside (Path.root_le _)
  refine ⟨{ config, files }, created, rfl, opened.workingDirectory, nofun, ?_, ?_, nofun⟩
  · intro name valid _
    exact ⟨fun path inside => empty ((Package.directory_le_home _ valid).trans inside),
      fun path _ => no_file path⟩
  · refine ⟨fun path _ => no_file path, fun name named => ?_⟩
    rw [empty (Path.le_child config.shelf name named)]
    exact nofun

end Session

/-- What a session has recorded changes nothing but the requests it makes. With answers that never
change, of which finitely many bring a document, calls that do not overlap all end, and they leave
a record of every package that was fetched ahead of time. After them a preparation comes to the same
as in a new session, except for its number; it loads its libraries only if they are not in place,
and it fetches packages without a record only, each of them once. -/
theorem Session.records_transparent (settings : Settings) (config : Config)
    (built : settings.build = .ok config) (libraries : config.libraryDirectory = "libs/")
    (transport : Transport) (served : List Url)
    (finite : ∀ url text, (transport url).content url = .ok text → url ∈ served) :
    ∃ fresh, create config = .ok fresh ∧
      (∀ calls, ∃ session, Serves transport fresh calls session) ∧
      ∀ calls session, Serves transport fresh calls session →
        (∀ names, (Purpose.preload, names) ∈ calls →
          ∀ name ∈ names, session.packages.get? name ≠ none) ∧
        ∀ options packages, ∃ outcome left requests outcome' left' requests',
          Invocation.Completes transport (.prepare options) packages session outcome left requests ∧
          Invocation.Completes transport (.prepare options) packages fresh outcome' left'
            requests' ∧
          outcome.map (fun _ => ()) = outcome'.map (fun _ => ()) ∧
          ∃ loaded loadRequests fetched, SettlesAlone transport LibraryLoad.resume
              (LibraryLoad.start session.site options) loaded loadRequests ∧
            requests = (if Invocation.hasLibraries session options.libraries then []
              else loadRequests) ++ fetched.flatMap
                (PackageFetch.requests transport session.registry) ∧
            fetched ⊆ packages ∧ fetched.Nodup ∧
            ∀ name ∈ fetched, session.packages.get? name = none := by
  have standard : config.Standard := ⟨Settings.isSpellable_of_build built, libraries⟩
  obtain ⟨fresh, created, faithful⟩ := exists_create transport config
  refine ⟨fresh, created, fun calls => exists_serves standard finite calls fresh faithful, ?_⟩
  intro calls session serves
  obtain ⟨faithful', _, recorded⟩ := faithful_of_serves standard finite faithful serves
  refine ⟨recorded, fun options packages => ?_⟩
  obtain ⟨loaded, loadRequests, loading, named⟩ :=
    LibraryLoad.exists_settles_start finite ⟨config.library⟩ options
  obtain ⟨outcome, left, requests, completes, prepares⟩ :=
    Invocation.exists_prepares standard loading named faithful' packages
  obtain ⟨outcome', left', requests', completes', prepares'⟩ :=
    Invocation.exists_prepares standard loading named faithful packages
  obtain ⟨libraryRequests, fetched, rfl, rfl, among, once, unknown⟩ := prepares.requested
  refine ⟨outcome, left, _, outcome', left', requests', completes, completes',
    prepares.outcome_eq.trans prepares'.outcome_eq.symm, loaded, loadRequests, fetched, ?_, ?_,
    among, once, unknown⟩
  · rw [site, faithful'.config_eq]
    exact loading
  · rw [registry, faithful'.config_eq]

namespace Sample

/-- Where the manifest of a package is. -/
def manifestUrl : Url :=
  ⟨"https", some { host := .domain "registry.test" }, .segments ["p", "package.json"], none, none⟩

/-- The manifest is all there is. -/
def manifestOnly : Transport := fun url =>
  if url = manifestUrl then .ok ⟨200, "\x7b\"types\":\"index.d.ts\"\x7d"⟩
  else .error (.transport url "connection refused")

/-- A session on the sample servers, with a package whose types are not to be had. -/
theorem records_transparent_manifestOnly : ∃ config fresh, settings.build = .ok config ∧
    Session.create config = .ok fresh ∧
    ∃ session, Session.Serves manifestOnly fresh [(.preload, ["p"])] session ∧
      session.packages.get? "p" ≠ none := by
  have libraries : settings.build.toOption.map (·.libraryDirectory) = some "libs/" := by
    decide +kernel
  have finite : ∀ url text, (manifestOnly url).content url = .ok text → url ∈ [manifestUrl] := by
    intro url text content
    by_contra elsewhere
    rw [manifestOnly, if_neg (by simpa using elsewhere)] at content
    exact nomatch content
  cases built : settings.build with
  | error cause =>
      rw [built] at libraries
      exact nomatch libraries
  | ok config =>
      rw [built] at libraries
      obtain ⟨fresh, created, ended, known⟩ := Session.records_transparent settings config built
        (Option.some.inj libraries) manifestOnly [manifestUrl] finite
      obtain ⟨session, serves⟩ := ended [(.preload, ["p"])]
      have recorded := (known _ session serves).1 ["p"] List.mem_cons_self "p" List.mem_cons_self
      exact ⟨config, fresh, rfl, created, session, serves, recorded⟩

end Sample
end Workbench
