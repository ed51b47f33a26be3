import Workbench.Proofs.Session.Stretch

/-!
# What an invocation has seen to

An invocation that has been prepared or resumed runs to its next request or to its end. The packages
in front of the one it waits for have been in place at some time, and so have all packages and the
libraries when a preparation succeeds.
-/

namespace Workbench

/-- The number that an invocation for this purpose gets: preparations count. -/
def Purpose.number (purpose : Purpose) (session : Session) : Nat :=
  match purpose with
  | prepare _ => session.generation + 1
  | preload => session.generation

namespace Invocation

variable {generation : Nat} {purpose : Purpose} {session : Session} {name : String}
  {names packages : List String}

theorem eq_ok_of_failure?_eq_none {options : CompilerOptions} {result : Except CompileError Unit}
    (survived : (Purpose.prepare options).failure? result = none) : result = .ok () := by
  cases result with
  | error cause => exact nomatch survived
  | ok value => rfl

theorem result_eq_error_of_failure? {result : Except CompileError Unit} {cause : CompileError}
    (failed : purpose.failure? result = some cause) : result = .error cause := by
  cases purpose with
  | preload => exact nomatch failed
  | prepare options =>
      cases result with
      | error other => rw [Option.some.inj failed]
      | ok value => exact nomatch failed

/-- What a preparation has seen in place in one of the sessions that it knows of: the libraries of
its options and some packages. A fetch ahead of time promises nothing. -/
def Provided (seen : Session → Prop) (purpose : Purpose) (names : List String) : Prop :=
  ∀ options, purpose = .prepare options →
    (∃ session, seen session ∧ session.IsEquipped options) ∧
      ∀ name ∈ names, ∃ session, seen session ∧ session.IsReady name

/-- Where an invocation with the number stands that is to see to the packages, when it has seen
the sessions. -/
def Standing (seen : Session → Prop) (number : Nat) (purpose : Purpose) (packages : List String) :
    Progress Invocation InvocationOutcome → Prop
  | .waiting _ (.awaitLibraries generation options _ rest) =>
    generation = number ∧ purpose = .prepare options ∧ rest = packages
  | .waiting _ (.awaitPackage generation aim name _ more) =>
    generation = number ∧ aim = purpose ∧
      ∃ front, packages = front ++ name :: more ∧ Provided seen purpose front
  | .done (.ok generation) => generation = number ∧ Provided seen purpose packages
  | .done (.error _) => True

theorem Provided.mono {seen wider : Session → Prop} (widens : ∀ session, seen session → wider session)
    (provided : Provided seen purpose names) : Provided wider purpose names := by
  intro options strict
  obtain ⟨⟨equipped, isSeen, isEquipped⟩, ready⟩ := provided options strict
  refine ⟨⟨equipped, widens equipped isSeen, isEquipped⟩, fun name member => ?_⟩
  obtain ⟨witness, isSeen, isReady⟩ := ready name member
  exact ⟨witness, widens witness isSeen, isReady⟩

theorem Standing.mono {seen wider : Session → Prop} {progress : Progress Invocation InvocationOutcome}
    (widens : ∀ session, seen session → wider session)
    (standing : Standing seen generation purpose packages progress) :
    Standing wider generation purpose packages progress := by
  match progress, standing with
  | .waiting _ (.awaitLibraries ..), standing => exact standing
  | .waiting _ (.awaitPackage ..), ⟨number, aim, front, split, provided⟩ =>
      exact ⟨number, aim, front, split, provided.mono widens⟩
  | .done (.ok _), ⟨number, provided⟩ => exact ⟨number, provided.mono widens⟩
  | .done (.error _), _ => trivial

theorem Standing.generation_eq {seen : Session → Prop} {url : Url} {invocation : Invocation}
    (standing : Standing seen generation purpose packages (.waiting url invocation)) :
    invocation.generation = generation := by
  cases invocation with
  | awaitLibraries => exact standing.1
  | awaitPackage => exact standing.1

/-- What is known of a stretch that takes the session from `before` to `result.2`, of an invocation
with the number that is to see to the packages, when the awaited package has just come. -/
structure Advance (seen : Session → Prop) (number : Nat) (purpose : Purpose)
    (packages : List String) (awaited? : Option String) (before : Session)
    (result : Progress Invocation InvocationOutcome × Session) : Prop where
  /-- The session changes as in any stretch. -/
  stretch : Stretch number awaited? before result.2
  /-- The invocation gets where it should. -/
  standing : Standing (fun session => seen session ∨ session = result.2) number purpose packages
    result.1
  /-- A preparation that succeeds is current. -/
  current : ∀ options value, purpose = .prepare options → result.1 = .done (.ok value) →
    result.2.generation = number
  /-- A package that the invocation begins to wait for has no recorded outcome. -/
  awaiting : ∀ url invocation name, result.1 = .waiting url invocation →
    invocation.awaited? = some name →
      awaited? = some name ∧ result.2 = before ∨
        result.2.packages.get? name = none ∧ result.2.IsRequestable name

theorem Provided.advance {seen : Session → Prop} {before after : Session}
    (stretch : Stretch generation none before after)
    (provided : Provided (fun session => seen session ∨ session = before) purpose names) :
    Provided (fun session => seen session ∨ session = after) purpose names := by
  intro options strict
  obtain ⟨⟨equipped, isSeen, isEquipped⟩, ready⟩ := provided options strict
  refine ⟨?_, fun name member => ?_⟩
  · rcases isSeen with isSeen | rfl
    · exact ⟨equipped, .inl isSeen, isEquipped⟩
    · exact ⟨after, .inr rfl, stretch.isEquipped isEquipped⟩
  · obtain ⟨witness, isSeen | rfl, isReady⟩ := ready name member
    · exact ⟨witness, .inl isSeen, isReady⟩
    · exact ⟨after, .inr rfl, stretch.isReady isReady⟩

/-- A preparation that was provided with packages and survives what became of the next one is
provided with that one too. -/
theorem Provided.concat {seen : Session → Prop} {result : Except CompileError Unit}
    (provided : Provided (fun other => seen other ∨ other = session) purpose names)
    (survived : purpose.failure? result = none)
    (ready : result = .ok () → session.IsReady name) :
    Provided (fun other => seen other ∨ other = session) purpose (names ++ [name]) := by
  rintro options rfl
  obtain ⟨equipped, allReady⟩ := provided options rfl
  refine ⟨equipped, fun other member => ?_⟩
  rcases List.mem_append.mp member with member | member
  · exact allReady other member
  · obtain rfl := List.mem_singleton.mp member
    exact ⟨session, .inr rfl, ready (eq_ok_of_failure?_eq_none survived)⟩

variable {seen : Session → Prop}

theorem Advance.after {awaited? : Option String} {before middle : Session}
    {result : Progress Invocation InvocationOutcome × Session}
    (rest : Advance seen generation purpose packages none middle result)
    (first : Stretch generation awaited? before middle) :
    Advance seen generation purpose packages awaited? before result where
  stretch := first.trans rest.stretch.weaken
  standing := rest.standing
  current := rest.current
  awaiting url invocation name waiting awaits := by
    rcases rest.awaiting url invocation name waiting awaits with ⟨impossible, _⟩ | known
    · exact nomatch impossible
    · exact .inr known

theorem advance_onward {awaited? : Option String} {front more : List String} {before : Session}
    {settle : Except CompileError Unit × Session}
    (step : Stretch generation awaited? before settle.2)
    (provided : Provided (fun other => seen other ∨ other = settle.2) purpose front)
    (ready : settle.1 = .ok () → settle.2.IsReady name)
    (rest : ∀ front, Provided (fun other => seen other ∨ other = settle.2) purpose front →
      Advance seen generation purpose (front ++ more) none settle.2
        ((seePackages generation purpose more).run settle.2)) :
    Advance seen generation purpose (front ++ name :: more) awaited? before
      (onward generation purpose more settle) := by
  rw [onward]
  cases survived : purpose.failure? settle.1 with
  | some cause =>
      refine ⟨step, trivial, ?_, ?_⟩
      · rintro options value rfl ⟨⟩
      · rintro url invocation name ⟨⟩
  | none =>
      have later := rest (front ++ [name]) (provided.concat survived ready)
      rw [List.append_assoc] at later
      exact later.after step

/-- Seeing to the packages that are left, in a session where the others have been provided. -/
theorem advance_seePackages (names : List String) (front : List String) (session : Session)
    (provided : Provided (fun other => seen other ∨ other = session) purpose front) :
    Advance seen generation purpose (front ++ names) none session
      ((seePackages generation purpose names).run session) := by
  induction names generalizing front session with
  | nil =>
      rw [run_seePackages_nil, List.append_nil]
      refine ⟨.refl session, ?_, ?_, fun _ _ _ waiting => nomatch waiting⟩
      · cases purpose with
        | preload => exact ⟨rfl, provided⟩
        | prepare options =>
            cases outcome : finish generation (.prepare options) session with
            | error cause => trivial
            | ok value => exact ⟨(finish_prepare_eq_ok_iff.mp outcome).2, provided⟩
      · rintro options value rfl done
        exact (finish_prepare_eq_ok_iff.mp (Progress.done.inj done)).1
  | cons name more induction =>
      rcases run : (ensurePackage generation name).run session with ⟨result, left⟩
      have step : Stretch generation none session left := by
        simpa [run] using @stretch_ensurePackage generation name session
      cases result with
      | waiting url fetch =>
          obtain ⟨rfl, unrecorded, requestable⟩ := ensurePackage_waiting run
          rw [run_seePackages_of_waiting run]
          refine ⟨step, ⟨rfl, rfl, front, rfl, provided⟩, fun _ _ _ done => (nomatch done), ?_⟩
          rintro url invocation other waiting awaits
          obtain ⟨rfl, rfl⟩ := Progress.waiting.inj waiting
          obtain rfl := Option.some.inj awaits
          exact .inr ⟨unrecorded, requestable⟩
      | done result =>
          rw [run_seePackages_of_done run]
          have ready : result = .ok () → left.IsReady name := by
            rintro rfl
            exact isReady_of_ensurePackage run
          exact advance_onward step (provided.advance step) ready
            fun front provided => induction front left provided

/-! ## Whole stretches -/

theorem provided_nil {options : CompilerOptions} (equipped : session.IsEquipped options) :
    Provided (fun other => seen other ∨ other = session) (.prepare options) [] := by
  intro _ strict
  obtain rfl := Purpose.prepare.inj strict
  exact ⟨⟨session, .inr rfl, equipped⟩, nofun⟩

theorem provided_preload : Provided seen .preload names := nofun

theorem run_afterLibraries_of_error {options : CompilerOptions}
    {loaded : Except FetchError LibraryFiles} {cause : CompileError} {left : Session}
    (run : (settleLibraries generation options loaded).run session = (.error cause, left)) :
    (afterLibraries generation options packages loaded).run session =
      (.done (.error cause), left) := by
  rw [afterLibraries, run_bind_of_run run]
  rfl

theorem run_afterLibraries_of_ok {options : CompilerOptions}
    {loaded : Except FetchError LibraryFiles} {left : Session}
    (run : (settleLibraries generation options loaded).run session = (.ok (), left)) :
    (afterLibraries generation options packages loaded).run session =
      (seePackages generation (.prepare options) packages).run left := by
  rw [afterLibraries, run_bind_of_run run]

theorem advance_afterLibraries (options : CompilerOptions) (packages : List String)
    (loaded : Except FetchError LibraryFiles) (session : Session) :
    Advance seen generation (.prepare options) packages none session
      ((afterLibraries generation options packages loaded).run session) := by
  rcases run : (settleLibraries generation options loaded).run session with ⟨result, left⟩
  have step : Stretch generation none session left := by
    simpa [run] using @stretch_settleLibraries generation session options loaded
  cases result with
  | error cause =>
      rw [run_afterLibraries_of_error run]
      exact ⟨step, trivial, fun _ _ _ done => (nomatch done), fun _ _ _ waiting => (nomatch waiting)⟩
  | ok value =>
      have equipped : left.IsEquipped options := by
        simpa [run] using @isEquipped_of_settleLibraries generation session options loaded
      rw [run_afterLibraries_of_ok run]
      exact (advance_seePackages packages [] left (provided_nil equipped)).after step

/-- The session in which an invocation has just begun. -/
def begun (session : Session) : Session := { session with generation := session.generation + 1 }

theorem run_prepare_of_equipped {options : CompilerOptions}
    (equipped : session.IsEquipped options) :
    (prepare options packages).run session =
      (seePackages (session.generation + 1) (.prepare options) packages).run (begun session) := by
  have present : hasLibraries (begun session) options.libraries = true :=
    hasLibraries_iff.mpr equipped
  have begins : Session.begin.run session = (session.generation + 1, begun session) := rfl
  rw [prepare, run_bind_of_run begins]
  simp only [StateT.run_bind, StateT.run_get, pure_bind, present, if_true]

theorem run_prepare_of_not_equipped {options : CompilerOptions}
    (bare : ¬session.IsEquipped options) :
    (prepare options packages).run session =
      match LibraryLoad.start session.site options with
      | .waiting url load =>
        (.waiting url (.awaitLibraries (session.generation + 1) options load packages),
          begun session)
      | .done loaded =>
        (afterLibraries (session.generation + 1) options packages loaded).run (begun session) := by
  have absent : ¬hasLibraries (begun session) options.libraries = true :=
    mt hasLibraries_iff.mp bare
  have begins : Session.begin.run session = (session.generation + 1, begun session) := rfl
  have site : (begun session).site = session.site := rfl
  rw [prepare, run_bind_of_run begins]
  simp only [StateT.run_bind, StateT.run_get, pure_bind, if_neg absent, site]
  cases LibraryLoad.start session.site options <;> rfl

theorem advance_prepare (options : CompilerOptions) (packages : List String) (session : Session) :
    Advance seen (session.generation + 1) (.prepare options) packages none (begun session)
      ((prepare options packages).run session) := by
  by_cases equipped : session.IsEquipped options
  · rw [run_prepare_of_equipped equipped]
    exact advance_seePackages packages [] (begun session) (provided_nil equipped)
  · rw [run_prepare_of_not_equipped equipped]
    cases LibraryLoad.start session.site options with
    | waiting url load =>
        refine ⟨.refl _, ⟨rfl, rfl, rfl⟩, fun _ _ _ done => (nomatch done), ?_⟩
        rintro url invocation name waiting awaits
        obtain ⟨rfl, rfl⟩ := Progress.waiting.inj waiting
        exact nomatch awaits
    | done loaded => exact advance_afterLibraries options packages loaded (begun session)

theorem advance_preload (packages : List String) (session : Session) :
    Advance seen session.generation .preload packages none session
      ((preload packages).run session) :=
  advance_seePackages packages [] session provided_preload

/-- Begins an invocation for the purpose. -/
def start (purpose : Purpose) (packages : List String) :
    StateM Session (Progress Invocation InvocationOutcome) :=
  match purpose with
  | .prepare options => prepare options packages
  | .preload => preload packages

theorem advance_start (purpose : Purpose)
    (packages : List String) (session : Session) :
    Advance seen (purpose.number session) purpose packages none
      { session with generation := purpose.number session }
      ((start purpose packages).run session) := by
  cases purpose with
  | prepare options => exact advance_prepare options packages session
  | preload => exact advance_preload packages session

theorem run_resume_awaitLibraries {options : CompilerOptions} {load : LibraryLoad} {reply : Reply} :
    (resume (.awaitLibraries generation options load packages) reply).run session =
      match load.resume reply with
      | .waiting url load =>
        (.waiting url (.awaitLibraries generation options load packages), session)
      | .done loaded => (afterLibraries generation options packages loaded).run session := by
  simp only [resume]
  cases load.resume reply <;> rfl

theorem run_resume_awaitPackage {fetch : PackageFetch} {reply : Reply} :
    (resume (.awaitPackage generation purpose name fetch names) reply).run session =
      match fetch.resume reply with
      | .waiting url fetch =>
        (.waiting url (.awaitPackage generation purpose name fetch names), session)
      | .done fetched =>
        onward generation purpose names ((settlePackage generation name fetched).run session) := by
  simp only [resume]
  cases fetch.resume reply with
  | waiting url fetch => rfl
  | done fetched =>
      rcases run : (settlePackage generation name fetched).run session with ⟨result, left⟩
      dsimp only
      rw [run_bind_of_run run, run, onward]
      dsimp only
      cases purpose.failure? result <;> rfl

theorem advance_resume {url : Url} {invocation : Invocation} (reply : Reply)
    (standing : Standing seen generation purpose packages (.waiting url invocation)) :
    Advance seen generation purpose packages invocation.awaited? session
      ((invocation.resume reply).run session) := by
  cases invocation with
  | awaitLibraries _ options load _ =>
      obtain ⟨rfl, rfl, rfl⟩ := standing
      rw [run_resume_awaitLibraries]
      cases load.resume reply with
      | waiting url load =>
          refine ⟨.refl _, ⟨rfl, rfl, rfl⟩, fun _ _ _ done => (nomatch done), ?_⟩
          rintro url invocation name waiting awaits
          obtain ⟨rfl, rfl⟩ := Progress.waiting.inj waiting
          exact nomatch awaits
      | done loaded => exact (advance_afterLibraries options _ loaded session).after (.refl session)
  | awaitPackage _ _ name fetch more =>
      obtain ⟨rfl, rfl, front, rfl, provided⟩ := standing
      rw [run_resume_awaitPackage]
      cases fetch.resume reply with
      | waiting url fetch =>
          refine ⟨.refl _, ?_, fun _ _ _ done => (nomatch done), ?_⟩
          · exact ⟨rfl, rfl, front, rfl, provided.mono fun _ => .inl⟩
          · rintro url invocation name waiting awaits
            obtain ⟨rfl, rfl⟩ := Progress.waiting.inj waiting
            exact .inl ⟨awaits, rfl⟩
      | done fetched =>
          exact advance_onward (stretch_settlePackage fetched) (provided.mono fun _ => .inl)
            isReady_of_settlePackage fun front provided => advance_seePackages more front _ provided

/-- A current invocation whose request for a package fails records the failure, whatever was
recorded before. -/
theorem record_of_refused {url : Url} {invocation : Invocation}
    (standing : Standing seen generation purpose packages (.waiting url invocation))
    (awaited : invocation.awaited? = some name) (current : session.generation = generation)
    (cause : FetchError) :
    ((invocation.resume (.error cause)).run session).2.packages.get? name =
      some (.failed cause) := by
  cases invocation with
  | awaitLibraries => cases awaited
  | awaitPackage number aim package fetch more =>
      obtain ⟨rfl, rfl, front, -, provided⟩ := standing
      obtain rfl := Option.some.inj awaited
      have refused : fetch.resume (.error cause) = .done (.error cause) := by
        cases fetch <;> rfl
      rw [run_resume_awaitPackage, refused]
      dsimp only
      rw [run_settlePackage_of_current (.error cause) current, onward]
      have recorded := get?_settled_self package (.error cause) session
      split
      next => exact recorded
      next =>
        have rest : Advance seen number aim _ none _ _ := advance_seePackages more front
          (settled package (.error cause) session) (provided.mono fun _ => .inl)
        exact rest.stretch.remembers (Option.some_ne_none package).symm recorded

end Invocation
end Workbench
