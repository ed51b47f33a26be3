import Mathlib.Data.List.Basic
import Workbench.Session.Invocation

/-!
# What an invocation does between two waits

An invocation runs without interruption from its beginning or from a reply to its next request or
its end. Such a stretch changes files, recorded packages and installed libraries only while the
invocation is current, and it forgets no recorded package but the one it waited for.
-/

namespace Workbench

theorem run_bind_of_run {σ α β : Type} {action : StateM σ α} {next : α → StateM σ β}
    {before left : σ} {value : α} (run : action.run before = (value, left)) :
    (action >>= next).run before = (next value).run left := by
  rw [StateT.run_bind, run]
  rfl

/-- What a recorded outcome means for an invocation that needs the package. -/
def PackageState.result : PackageState → Except CompileError Unit
  | .ready _ _ => .ok ()
  | .failed cause => .error (.fetch cause)

namespace Session

/-- The package is recorded as being in place. -/
def IsReady (session : Session) (name : String) : Prop :=
  ∃ entry version, session.packages.get? name = some (.ready entry version)

/-- The options need no libraries, or their libraries are installed. -/
def IsEquipped (session : Session) (options : CompilerOptions) : Prop :=
  options.noLib = true ∨ options.libraries ∈ session.installed

/-- Fetching the package starts with a request. -/
def IsRequestable (session : Session) (name : String) : Prop :=
  ∃ url fetch, PackageFetch.start session.registry name = .waiting url fetch

theorem isRequestable_congr {before after : Session} (config : after.config = before.config)
    (name : String) : after.IsRequestable name ↔ before.IsRequestable name := by
  rw [IsRequestable, IsRequestable, registry, registry, config]

@[simp] theorem run_onFiles {α : Type} (activity : FileActivity α) (session : Session) :
    (onFiles activity).run session = ((activity.perform session.files).1,
      { session with files := (activity.perform session.files).2 }) := rfl

theorem run_install (selection : LibrarySelection) (libraries : LibraryFiles) (session : Session) :
    (install selection libraries).run session =
      let made := (libraries.install session.config.libraryLocation).perform session.files
      match made.1 with
      | .error cause => (.error cause, { session with files := made.2 })
      | .ok _ => (.ok (),
          { session with files := made.2, installed := selection :: session.installed }) := by
  simp only [install, StateT.run_bind, StateT.run_get, pure_bind, run_onFiles]
  cases ((libraries.install session.config.libraryLocation).perform session.files).1 <;> rfl

theorem checkCurrent_of_eq {session : Session} {generation : Nat}
    (current : session.generation = generation) : session.checkCurrent generation = .ok () := by
  simp [checkCurrent, isCurrent, current]

theorem checkCurrent_of_ne {session : Session} {generation : Nat}
    (stale : session.generation ≠ generation) :
    session.checkCurrent generation = .error (.superseded generation) := by
  simp [checkCurrent, isCurrent, stale]

end Session

namespace Invocation

/-- The package that the invocation waits for. -/
def awaited? : Invocation → Option String
  | awaitLibraries .. => none
  | awaitPackage _ _ name _ _ => some name

/-- What a stretch of an invocation with the given number may do to a session, if the awaited
package has just come. -/
structure Stretch (number : Nat) (awaited? : Option String) (before after : Session) : Prop where
  /-- The configuration stays. -/
  config : after.config = before.config
  /-- No invocation begins. -/
  generation : after.generation = before.generation
  /-- An invocation that is not current changes nothing. -/
  stale : before.generation ≠ number → after = before
  /-- Installed libraries stay installed. -/
  installed : before.installed ⊆ after.installed
  /-- The record of any other package stays, unless there was none and no request is to be made. -/
  records : ∀ name, awaited? ≠ some name →
    after.packages.get? name = before.packages.get? name ∨
      before.packages.get? name = none ∧ ¬before.IsRequestable name

namespace Stretch

variable {number : Nat} {awaited? : Option String} {before middle after : Session}

theorem refl (session : Session) : Stretch number awaited? session session :=
  ⟨rfl, rfl, fun _ => rfl, List.Subset.refl _, fun _ _ => .inl rfl⟩

theorem trans (first : Stretch number awaited? before middle)
    (second : Stretch number awaited? middle after) : Stretch number awaited? before after where
  config := second.config.trans first.config
  generation := second.generation.trans first.generation
  stale old := (second.stale (first.generation ▸ old)).trans (first.stale old)
  installed := List.Subset.trans first.installed second.installed
  records name other := by
    rcases first.records name other with kept | ⟨unrecorded, idle⟩
    · rcases second.records name other with kept' | ⟨unrecorded, idle⟩
      · exact .inl (kept'.trans kept)
      · exact .inr ⟨kept ▸ unrecorded, mt (Session.isRequestable_congr first.config name).mpr idle⟩
    · exact .inr ⟨unrecorded, idle⟩

theorem weaken (stretch : Stretch number none before after) :
    Stretch number awaited? before after :=
  { stretch with records := fun name _ => stretch.records name (Option.some_ne_none name).symm }

theorem isEquipped (stretch : Stretch number awaited? before after) {options : CompilerOptions} :
    before.IsEquipped options → after.IsEquipped options :=
  Or.imp_right fun member => stretch.installed member

theorem remembers (stretch : Stretch number awaited? before after) {name : String}
    (other : awaited? ≠ some name) {state : PackageState}
    (recorded : before.packages.get? name = some state) :
    after.packages.get? name = some state := by
  rcases stretch.records name other with kept | ⟨unrecorded, _⟩
  · exact kept.trans recorded
  · exact nomatch unrecorded.symm.trans recorded

theorem isReady (stretch : Stretch number none before after) {name : String} :
    before.IsReady name → after.IsReady name
  | ⟨entry, version, recorded⟩ => ⟨entry, version, stretch.remembers nofun recorded⟩

end Stretch

/-! ## One package -/

theorem recorded?_eq (session : Session) (name : String) :
    recorded? session name = (session.packages.get? name).map PackageState.result := by
  unfold recorded?
  congr 1

theorem run_store (fetched : Except FetchError FetchedPackage) (session : Session) :
    (store fetched).run session = match fetched with
      | .error cause => (.failed cause, session)
      | .ok package =>
        let made := package.materialize.perform session.files
        (match made.1 with
          | .ok entry => .ready entry package.version
          | .error cause => .failed (.storage cause),
          { session with files := made.2 }) := by
  cases fetched with
  | error cause => rfl
  | ok package =>
      simp only [store, StateT.run_bind, Session.run_onFiles]
      cases (package.materialize.perform session.files).1 <;> rfl

/-- Storing a package touches the files alone. -/
theorem run_store_frame (fetched : Except FetchError FetchedPackage) (session : Session) :
    ∃ files, ((store fetched).run session).2 = { session with files } := by
  rw [run_store]
  cases fetched with
  | error cause => exact ⟨session.files, rfl⟩
  | ok package => exact ⟨_, rfl⟩

/-- The session in which it is settled what became of a package. -/
def settled (name : String) (fetched : Except FetchError FetchedPackage) (session : Session) :
    Session :=
  let stored := (store fetched).run session
  { stored.2 with packages := stored.2.packages.insert name stored.1 }

variable {generation : Nat} {name : String} {session : Session}

theorem run_settlePackage_of_current (fetched : Except FetchError FetchedPackage)
    (current : session.generation = generation) :
    (settlePackage generation name fetched).run session =
      (((store fetched).run session).1.result, settled name fetched session) := by
  simp only [settlePackage, StateT.run_bind, StateT.run_get, pure_bind,
    Session.checkCurrent_of_eq current, settled]
  rcases (store fetched).run session with ⟨state, left⟩
  cases state <;> rfl

theorem run_settlePackage_of_stale (fetched : Except FetchError FetchedPackage)
    (stale : session.generation ≠ generation) :
    (settlePackage generation name fetched).run session =
      (.error (.superseded generation), session) := by
  simp only [settlePackage, StateT.run_bind, StateT.run_get, pure_bind,
    Session.checkCurrent_of_ne stale]
  rfl

theorem settled_frame (name : String) (fetched : Except FetchError FetchedPackage)
    (session : Session) : ∃ files, settled name fetched session =
      { session with
        files, packages := session.packages.insert name ((store fetched).run session).1 } := by
  obtain ⟨files, left_eq⟩ := run_store_frame fetched session
  exact ⟨files, by simp only [settled, left_eq]⟩

theorem get?_settled_self (name : String) (fetched : Except FetchError FetchedPackage)
    (session : Session) :
    (settled name fetched session).packages.get? name = some ((store fetched).run session).1 := by
  simp [settled]

theorem get?_settled_of_ne {name other : String} (distinct : other ≠ name)
    (fetched : Except FetchError FetchedPackage) (session : Session) :
    (settled name fetched session).packages.get? other = session.packages.get? other := by
  obtain ⟨files, settled_eq⟩ := settled_frame name fetched session
  rw [settled_eq]
  exact session.packages.get?_insert_of_ne distinct _

theorem stretch_settlePackage (fetched : Except FetchError FetchedPackage) :
    Stretch generation (some name) session
      ((settlePackage generation name fetched).run session).2 := by
  by_cases current : session.generation = generation
  · rw [run_settlePackage_of_current fetched current]
    obtain ⟨files, settled_eq⟩ := settled_frame name fetched session
    refine ⟨?_, ?_, fun stale => (stale current).elim, ?_, fun other distinct => .inl ?_⟩
    · rw [settled_eq]
    · rw [settled_eq]
    · rw [settled_eq]
      exact List.Subset.refl _
    · exact get?_settled_of_ne (fun same => distinct (congrArg some same.symm)) fetched session
  · rw [run_settlePackage_of_stale fetched current]
    exact .refl session

theorem isReady_of_settlePackage {fetched : Except FetchError FetchedPackage}
    (success : ((settlePackage generation name fetched).run session).1 = .ok ()) :
    ((settlePackage generation name fetched).run session).2.IsReady name := by
  by_cases current : session.generation = generation
  · rw [run_settlePackage_of_current fetched current] at success ⊢
    have recorded := get?_settled_self name fetched session
    cases state_eq : ((store fetched).run session).1 with
    | ready entry version => exact ⟨entry, version, by rw [recorded, state_eq]⟩
    | failed cause => simp [state_eq, PackageState.result] at success
  · rw [run_settlePackage_of_stale fetched current] at success
    simp at success

theorem run_ensurePackage_of_recorded {state : PackageState}
    (recorded : session.packages.get? name = some state) :
    (ensurePackage generation name).run session = (.done state.result, session) := by
  have known : recorded? session name = some state.result := by
    rw [recorded?_eq, recorded, Option.map_some]
  simp only [ensurePackage, StateT.run_bind, StateT.run_get, pure_bind, known]
  rfl

theorem run_ensurePackage_of_unrecorded (unrecorded : session.packages.get? name = none) :
    (ensurePackage generation name).run session =
      match PackageFetch.start session.registry name with
      | .waiting url fetch => (.waiting url fetch, session)
      | .done fetched =>
        (.done ((settlePackage generation name fetched).run session).1,
          ((settlePackage generation name fetched).run session).2) := by
  have unknown : recorded? session name = none := by
    rw [recorded?_eq, unrecorded, Option.map_none]
  simp only [ensurePackage, StateT.run_bind, StateT.run_get, pure_bind, unknown]
  cases PackageFetch.start session.registry name <;> rfl

/-- Seeing to a package waits only for one that is not recorded, and then nothing has changed. -/
theorem ensurePackage_waiting {url : Url} {fetch : PackageFetch} {left : Session}
    (run : (ensurePackage generation name).run session = (.waiting url fetch, left)) :
    left = session ∧ session.packages.get? name = none ∧ session.IsRequestable name := by
  cases recorded : session.packages.get? name with
  | some state =>
      rw [run_ensurePackage_of_recorded recorded] at run
      exact nomatch (Prod.mk.inj run).1
  | none =>
      rw [run_ensurePackage_of_unrecorded recorded] at run
      split at run
      next url' fetch' start_eq => exact ⟨(Prod.mk.inj run).2.symm, rfl, url', fetch', start_eq⟩
      next => exact nomatch (Prod.mk.inj run).1

/-- Seeing to a package records only what needs no request. -/
theorem stretch_ensurePackage : Stretch generation none session
    ((ensurePackage generation name).run session).2 := by
  cases recorded : session.packages.get? name with
  | some state =>
      rw [run_ensurePackage_of_recorded recorded]
      exact .refl session
  | none =>
      rw [run_ensurePackage_of_unrecorded recorded]
      split
      next => exact .refl session
      next fetched start_eq =>
        have settle : Stretch generation (some name) session _ := stretch_settlePackage fetched
        refine { settle with records := fun other _ => ?_ }
        by_cases same : name = other
        · subst same
          exact .inr ⟨recorded, fun ⟨url, fetch, start_eq'⟩ => nomatch start_eq ▸ start_eq'⟩
        · exact settle.records other (mt Option.some.inj same)

theorem isReady_of_ensurePackage {left : Session}
    (run : (ensurePackage generation name).run session = (.done (.ok ()), left)) :
    left.IsReady name := by
  cases recorded : session.packages.get? name with
  | some state =>
      rw [run_ensurePackage_of_recorded recorded] at run
      cases state with
      | ready entry version =>
          obtain rfl : session = left := (Prod.mk.inj run).2
          exact ⟨entry, version, recorded⟩
      | failed cause => exact nomatch (Prod.mk.inj run).1
  | none =>
      rw [run_ensurePackage_of_unrecorded recorded] at run
      split at run
      · exact nomatch (Prod.mk.inj run).1
      · obtain ⟨success, rfl⟩ := Prod.mk.inj run
        exact isReady_of_settlePackage (Progress.done.inj success)

/-! ## Packages in order -/

variable {purpose : Purpose} {more names packages : List String}

theorem run_seePackages_nil :
    (seePackages generation purpose []).run session =
      (.done (finish generation purpose session), session) := by
  simp only [seePackages, StateT.run_bind, StateT.run_get, pure_bind]
  rfl

theorem run_seePackages_of_waiting {url : Url} {fetch : PackageFetch} {left : Session}
    (run : (ensurePackage generation name).run session = (.waiting url fetch, left)) :
    (seePackages generation purpose (name :: more)).run session =
      (.waiting url (.awaitPackage generation purpose name fetch more), left) := by
  rw [seePackages, run_bind_of_run run]
  rfl

/-- What an invocation does with more packages once it is known what became of one. -/
def onward (generation : Nat) (purpose : Purpose) (more : List String)
    (settle : Except CompileError Unit × Session) :
    Progress Invocation InvocationOutcome × Session :=
  match purpose.failure? settle.1 with
  | some cause => (.done (.error cause), settle.2)
  | none => (seePackages generation purpose more).run settle.2

theorem run_seePackages_of_done {result : Except CompileError Unit} {left : Session}
    (run : (ensurePackage generation name).run session = (.done result, left)) :
    (seePackages generation purpose (name :: more)).run session =
      onward generation purpose more (result, left) := by
  rw [seePackages, run_bind_of_run run, onward]
  dsimp only
  cases purpose.failure? result <;> rfl

theorem finish_prepare_eq_ok_iff {options : CompilerOptions} {value : Nat} :
    finish generation (.prepare options) session = .ok value ↔
      session.generation = generation ∧ value = generation := by
  by_cases current : session.generation = generation
  · simp [finish, Session.checkCurrent_of_eq current, current, Except.map, eq_comm]
  · simp [finish, Session.checkCurrent_of_ne current, current, Except.map]

/-! ## Libraries -/

theorem hasLibraries_iff {options : CompilerOptions} :
    hasLibraries session options.libraries = true ↔ session.IsEquipped options := by
  simp [hasLibraries, Session.IsEquipped, CompilerOptions.libraries]

theorem run_settleLibraries_of_current {options : CompilerOptions} (libraries : LibraryFiles)
    (current : session.generation = generation) :
    (settleLibraries generation options (.ok libraries)).run session =
      (((Session.install options.libraries libraries).run session).1.mapError CompileError.file,
        ((Session.install options.libraries libraries).run session).2) := by
  simp only [settleLibraries, StateT.run_bind, StateT.run_get, pure_bind,
    Session.checkCurrent_of_eq current]
  rfl

theorem run_settleLibraries_of_stale {options : CompilerOptions} (libraries : LibraryFiles)
    (stale : session.generation ≠ generation) :
    (settleLibraries generation options (.ok libraries)).run session =
      (.error (.superseded generation), session) := by
  simp only [settleLibraries, StateT.run_bind, StateT.run_get, pure_bind,
    Session.checkCurrent_of_ne stale]
  rfl

/-- Putting libraries in place keeps all but the files, and adds the selection if it succeeds. -/
theorem run_install_frame (selection : LibrarySelection) (libraries : LibraryFiles)
    (session : Session) :
    ∃ files installed, ((Session.install selection libraries).run session).2 =
        { session with files, installed } ∧
      session.installed ⊆ installed ∧
      (((Session.install selection libraries).run session).1 = .ok () → selection ∈ installed) := by
  rw [Session.run_install]
  dsimp only
  split
  · exact ⟨_, session.installed, rfl, List.Subset.refl _, fun impossible => nomatch impossible⟩
  · exact ⟨_, selection :: session.installed, rfl, List.subset_cons_self _ _,
      fun _ => List.mem_cons_self⟩

theorem stretch_settleLibraries (options : CompilerOptions)
    (loaded : Except FetchError LibraryFiles) :
    Stretch generation none session
      ((settleLibraries generation options loaded).run session).2 := by
  cases loaded with
  | error cause => exact .refl session
  | ok libraries =>
      by_cases current : session.generation = generation
      · rw [run_settleLibraries_of_current libraries current]
        obtain ⟨files, installed, left_eq, kept, _⟩ :=
          run_install_frame options.libraries libraries session
        rw [left_eq]
        exact ⟨rfl, rfl, fun stale => (stale current).elim, kept, fun _ _ => .inl rfl⟩
      · rw [run_settleLibraries_of_stale libraries current]
        exact .refl session

theorem isEquipped_of_settleLibraries {options : CompilerOptions}
    {loaded : Except FetchError LibraryFiles}
    (success : ((settleLibraries generation options loaded).run session).1 = .ok ()) :
    ((settleLibraries generation options loaded).run session).2.IsEquipped options := by
  cases loaded with
  | error cause => exact nomatch success
  | ok libraries =>
      by_cases current : session.generation = generation
      · rw [run_settleLibraries_of_current libraries current] at success ⊢
        obtain ⟨files, installed, left_eq, _, member⟩ :=
          run_install_frame options.libraries libraries session
        dsimp only at success ⊢
        cases outcome : ((Session.install options.libraries libraries).run session).1 with
        | error cause =>
            rw [outcome] at success
            exact nomatch success
        | ok value =>
            rw [left_eq]
            exact .inr (member outcome)
      · rw [run_settleLibraries_of_stale libraries current] at success
        exact nomatch success

end Invocation
end Workbench
