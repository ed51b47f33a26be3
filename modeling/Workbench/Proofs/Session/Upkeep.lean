import Workbench.Proofs.Library.Loading
import Workbench.Proofs.Package.Fetching
import Workbench.Proofs.Session.Advance

/-!
# What invocations uphold

An invocation changes a session in two ways only: it settles what became of a package that was
fetched by its name, and it installs the libraries that were loaded for its options. A property of
sessions that survives both survives every invocation, whatever is answered and whoever takes a turn
while it waits.
-/

namespace Workbench
namespace Invocation

/-- The package that came, if one did, fits the name. -/
def Fetched (name : String) (fetched : Except FetchError FetchedPackage) : Prop :=
  ∀ package, fetched = .ok package → PackageFetch.Fits name package

/-- The property survives what invocations put in place. -/
structure Upheld (Holds : Session → Prop) : Prop where
  /-- It survives when it is settled what became of a package. -/
  settled : ∀ {session : Session} {name : String} {fetched : Except FetchError FetchedPackage},
    Fetched name fetched → Holds session → Holds (settled name fetched session)
  /-- It survives when the libraries of some options are installed. -/
  installed : ∀ {session : Session} {options : CompilerOptions} {libraries : LibraryFiles},
    LibraryLoad.Supplies options.rootLibraries libraries → Holds session →
      Holds ((Session.install options.libraries libraries).run session).2

/-- What the invocation waits for is placed where it belongs when it comes. -/
def Sound : Invocation → Prop
  | awaitLibraries _ options load _ => load.Sound options.rootLibraries
  | awaitPackage _ _ name fetch _ => fetch.Sound name

/-- What an invocation leaves when it waits or has ended. -/
structure Leaves (Holds : Session → Prop)
    (result : Progress Invocation InvocationOutcome × Session) : Prop where
  holds : Holds result.2
  sound : ∀ url invocation, result.1 = .waiting url invocation → invocation.Sound

variable {Holds : Session → Prop} {session : Session} {generation : Nat} {name : String}
  {purpose : Purpose}

theorem fetched_of_standing {rounds : Nat} {fetched : Except FetchError FetchedPackage}
    (standing : PackageFetch.Standing name rounds (.done fetched)) : Fetched name fetched := by
  rintro package rfl
  exact standing

theorem Leaves.done {outcome : InvocationOutcome} (holds : Holds session) :
    Leaves Holds (.done outcome, session) :=
  ⟨holds, fun _ _ waiting => nomatch waiting⟩

theorem Leaves.waiting {url : Url} {invocation : Invocation} (holds : Holds session)
    (sound : invocation.Sound) : Leaves Holds (.waiting url invocation, session) := by
  refine ⟨holds, fun _ _ waiting => ?_⟩
  obtain ⟨rfl, rfl⟩ := Progress.waiting.inj waiting
  exact sound

namespace Upheld

/-! ## Packages -/

theorem settlePackage (upheld : Upheld Holds) {fetched : Except FetchError FetchedPackage}
    (fits : Fetched name fetched) (holds : Holds session) :
    Holds ((settlePackage generation name fetched).run session).2 := by
  by_cases current : session.generation = generation
  · rw [run_settlePackage_of_current fetched current]
    exact upheld.settled fits holds
  · rw [run_settlePackage_of_stale fetched current]
    exact holds

theorem ensurePackage (upheld : Upheld Holds) (generation : Nat) (name : String)
    (holds : Holds session) : Holds ((ensurePackage generation name).run session).2 ∧
      ∀ url fetch, ((ensurePackage generation name).run session).1 = .waiting url fetch →
        fetch.Sound name := by
  cases recorded : session.packages.get? name with
  | some state =>
      rw [run_ensurePackage_of_recorded recorded]
      exact ⟨holds, fun _ _ waiting => nomatch waiting⟩
  | none =>
      have standing := PackageFetch.standing_start session.registry name
      rw [run_ensurePackage_of_unrecorded recorded]
      split
      next url fetch start_eq =>
        rw [start_eq] at standing
        refine ⟨holds, fun _ _ waiting => ?_⟩
        obtain ⟨rfl, rfl⟩ := Progress.waiting.inj waiting
        exact standing.1
      next fetched start_eq =>
        rw [start_eq] at standing
        exact ⟨upheld.settlePackage (fetched_of_standing standing) holds,
          fun _ _ waiting => nomatch waiting⟩

theorem onward {more : List String} {settle : Except CompileError Unit × Session}
    (holds : Holds settle.2)
    (rest : Leaves Holds ((seePackages generation purpose more).run settle.2)) :
    Leaves Holds (onward generation purpose more settle) := by
  rw [Invocation.onward]
  cases purpose.failure? settle.1 with
  | some cause => exact .done holds
  | none => exact rest

theorem seePackages (upheld : Upheld Holds) (names : List String) (holds : Holds session) :
    Leaves Holds ((seePackages generation purpose names).run session) := by
  induction names generalizing session with
  | nil =>
      rw [run_seePackages_nil]
      exact .done holds
  | cons name more induction =>
      have ensured := upheld.ensurePackage generation name holds
      rcases run : (Invocation.ensurePackage generation name).run session with ⟨result, left⟩
      rw [run] at ensured
      cases result with
      | waiting url fetch =>
          rw [run_seePackages_of_waiting run]
          exact .waiting ensured.1 (ensured.2 url fetch rfl)
      | done result =>
          rw [run_seePackages_of_done run]
          exact onward ensured.1 (induction ensured.1)

/-! ## Libraries -/

theorem settleLibraries (upheld : Upheld Holds) {options : CompilerOptions}
    {loaded : Except FetchError LibraryFiles}
    (standing : LibraryLoad.Standing options.rootLibraries (.done loaded)) (holds : Holds session) :
    Holds ((settleLibraries generation options loaded).run session).2 := by
  cases loaded with
  | error cause => exact holds
  | ok libraries =>
      by_cases current : session.generation = generation
      · rw [run_settleLibraries_of_current libraries current]
        exact upheld.installed standing holds
      · rw [run_settleLibraries_of_stale libraries current]
        exact holds

theorem afterLibraries (upheld : Upheld Holds) {options : CompilerOptions} (packages : List String)
    {loaded : Except FetchError LibraryFiles}
    (standing : LibraryLoad.Standing options.rootLibraries (.done loaded)) (holds : Holds session) :
    Leaves Holds ((afterLibraries generation options packages loaded).run session) := by
  have settled : Holds ((Invocation.settleLibraries generation options loaded).run session).2 :=
    upheld.settleLibraries standing holds
  rcases run : (Invocation.settleLibraries generation options loaded).run session with
    ⟨cause | _, left⟩
  · rw [run] at settled
    rw [run_afterLibraries_of_error run]
    exact .done settled
  · rw [run] at settled
    rw [run_afterLibraries_of_ok run]
    exact upheld.seePackages packages settled

/-! ## Whole stretches -/

theorem prepare (upheld : Upheld Holds) (options : CompilerOptions) (packages : List String)
    (holds : Holds (begun session)) : Leaves Holds ((prepare options packages).run session) := by
  by_cases equipped : session.IsEquipped options
  · rw [run_prepare_of_equipped equipped]
    exact upheld.seePackages packages holds
  · have standing := LibraryLoad.standing_start session.site options
    rw [run_prepare_of_not_equipped equipped]
    split
    next url load start_eq =>
      rw [start_eq] at standing
      exact .waiting holds standing
    next loaded start_eq =>
      rw [start_eq] at standing
      exact upheld.afterLibraries packages standing holds

theorem preload (upheld : Upheld Holds) (packages : List String) (holds : Holds session) :
    Leaves Holds ((preload packages).run session) :=
  upheld.seePackages packages holds

theorem resume (upheld : Upheld Holds) {invocation : Invocation} (sound : invocation.Sound)
    (reply : Reply) (holds : Holds session) :
    Leaves Holds ((invocation.resume reply).run session) := by
  cases invocation with
  | awaitLibraries number options load packages =>
      have standing := LibraryLoad.standing_resume sound reply
      rw [run_resume_awaitLibraries]
      split
      next url load resume_eq =>
        rw [resume_eq] at standing
        exact .waiting holds standing
      next loaded resume_eq =>
        rw [resume_eq] at standing
        exact upheld.afterLibraries packages standing holds
  | awaitPackage number purpose name fetch more =>
      have standing : PackageFetch.Standing name fetch.remaining (fetch.resume reply) :=
        PackageFetch.standing_resume sound (Nat.le_succ _) reply
      rw [run_resume_awaitPackage]
      split
      next url fetch resume_eq =>
        rw [resume_eq] at standing
        exact .waiting holds standing.1
      next fetched resume_eq =>
        rw [resume_eq] at standing
        have settled : Holds ((Invocation.settlePackage number name fetched).run session).2 :=
          upheld.settlePackage (fetched_of_standing standing) holds
        exact onward settled (upheld.seePackages more settled)

end Upheld
end Invocation
end Workbench
