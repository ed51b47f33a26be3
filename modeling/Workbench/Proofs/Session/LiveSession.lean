import Workbench.Proofs.FileSystem.Addition
import Workbench.Proofs.Session.Workspace

/-!
# Sessions at work

All that can happen to a session: operations start and go on in turns, programs are compiled with
the tickets that preparations gave, libraries are installed by hand, and editors and compilers write
into the files. What survives every single event holds of the session whenever it held in the
beginning.
-/

namespace Workbench

/-- What happens to a session in one turn. -/
inductive Event where
  /-- An operation starts. -/
  | start (operation : Operation)
  /-- The task at the place is resumed with what came of its request. -/
  | resume (index : Nat) (reply : Reply)
  /-- A root is compiled with the ticket that the task at the place brought. -/
  | compile (index : Nat) (root : String) (options : Option CompilerOptions) (backend : Backend)
    (transformer : Program → Transformer)
  /-- Libraries for the options are installed by hand. -/
  | install (options : CompilerOptions) (libraries : LibraryFiles)
  /-- A file is written. -/
  | write (path text : String) (encoding : Encoding)
  /-- A directory is made in an existing one. -/
  | makeDirectory (path : String)
  /-- A directory and those above it are made. -/
  | makeDirectories (path : String)
  /-- Something is asked of a host over the files. -/
  | ask (request : HostRequest)

/-- No libraries are installed by hand, and whatever is written is UTF-8. -/
def Event.IsPlain : Event → Prop
  | install .. => False
  | write _ _ encoding => encoding = .utf8
  | _ => True

instance : DecidablePred Event.IsPlain
  | .start .. | .resume .. | .compile .. | .makeDirectory .. | .makeDirectories .. | .ask .. =>
    .isTrue trivial
  | .install .. => .isFalse id
  | .write _ _ encoding => inferInstanceAs (Decidable (encoding = .utf8))

/-- A session and the tasks that were started on it, in the order of their starts. -/
structure LiveSession where
  /-- The session. -/
  session : Session
  /-- Where the tasks stand. -/
  tasks : List TaskProgress

namespace LiveSession

/-- The ticket that the task at the place brought. -/
def ticket? (live : LiveSession) (index : Nat) : Option Ticket :=
  match live.tasks[index]? with
  | some (.done (.prepared (.ok ticket))) => some ticket
  | _ => none

/-- Does something with the files. -/
def onFiles {α : Type} (live : LiveSession) (activity : FileActivity α) : LiveSession :=
  { live with session := ((Session.onFiles activity).run live.session).2 }

/-- What an event makes of a session and its tasks. A task that does not wait cannot be resumed, and
nothing can be compiled without a ticket. -/
def step (live : LiveSession) : Event → LiveSession
  | .start operation =>
    let (progress, session) := operation.start.run live.session
    ⟨session, live.tasks ++ [progress]⟩
  | .resume index reply =>
    match live.tasks[index]? with
    | some (.waiting _ task) =>
      let (progress, session) := (task.resume reply).run live.session
      ⟨session, live.tasks.set index progress⟩
    | _ => live
  | .compile index root options backend transformer =>
    match live.ticket? index with
    | some ticket =>
      let order : CompileOrder := ⟨ticket, root, options⟩
      { live with session := ((order.compile backend transformer).run live.session).2 }
    | none => live
  | .install options libraries =>
    { live with session := ((Session.install options.libraries libraries).run live.session).2 }
  | .write path text encoding =>
    live.onFiles (FileActivity.ofOperation (·.write path text encoding))
  | .makeDirectory path => live.onFiles (FileActivity.ofOperation (·.makeDirectory path))
  | .makeDirectories path => live.onFiles (FileSystem.makeDirectories path)
  | .ask request =>
    let host := CompilerHost.ofConfig live.session.config
    let (_, bridge) := host.answer { files := live.session.files } request
    { live with session := { live.session with files := bridge.files } }

/-- The session and its tasks after some events. -/
def after (start : Session) (events : List Event) : LiveSession := events.foldl step ⟨start, []⟩

end LiveSession

/-! ## What hosts and compilers write -/

theorem CompilerHost.added_answer (host : CompilerHost) (bridge : Bridge) (request : HostRequest) :
    FileSystem.Added bridge.files (host.answer bridge request).2.files := by
  have updated : ∀ operation : FileSystem → Except FileError FileSystem,
      (∀ fs left, operation fs = .ok left → FileSystem.Added fs left) →
      FileSystem.Added bridge.files (bridge.update operation).2.files := by
    intro operation each
    rw [Bridge.update]
    cases success : operation bridge.files with
    | error cause => exact .refl bridge.files
    | ok files => exact each _ files success
  cases request with
  | putFile path text => exact updated _ fun _ _ => FileSystem.added_of_write
  | createDirectory path =>
      have made := updated (·.makeDirectory path) fun _ _ => FileSystem.added_of_makeDirectory
      rw [answer, Bridge.createDirectory]
      split
      · exact .refl bridge.files
      · split
        next path' same update_eq =>
          rw [update_eq] at made
          exact made
        next => exact made
  | _ => exact .refl bridge.files

theorem Dialogue.added_run {α : Type} (host : CompilerHost) (dialogue : Dialogue α)
    (bridge : Bridge) : FileSystem.Added bridge.files (dialogue.run host bridge).bridge.files := by
  induction dialogue generalizing bridge with
  | done value => exact .refl bridge.files
  | ask request next induction =>
      exact (host.added_answer bridge request).trans (induction _ _)

theorem CompileOrder.exists_run_compile_eq (order : CompileOrder) (backend : Backend)
    (transformer : Program → Transformer) (session : Session) :
    ∃ files, ((order.compile backend transformer).run session).2 = { session with files } ∧
      FileSystem.Added session.files files := by
  cases approved : order.approve session with
  | error cause =>
      rw [run_compile_of_refused approved]
      exact ⟨session.files, rfl, .refl session.files⟩
  | ok root =>
      rw [run_compile_of_approved approved]
      exact ⟨_, rfl, Dialogue.added_run _ _ { files := session.files }⟩

/-! ## What lasts -/

/-- The property survives every event that is permitted. -/
structure Session.Enduring (Permits : Event → Prop) (Holds : Session → Prop) : Prop
    extends Invocation.Upheld Holds where
  /-- It survives when an invocation begins. -/
  begun : ∀ {session : Session}, Holds session → Holds (Invocation.begun session)
  /-- It survives what is added to the files. -/
  added : ∀ {session : Session} {files : FileSystem}, FileSystem.Added session.files files →
    Holds session → Holds { session with files }
  /-- It survives permitted libraries. -/
  install : ∀ {session : Session} {options : CompilerOptions} {libraries : LibraryFiles},
    Permits (.install options libraries) → Holds session →
      Holds ((Session.install options.libraries libraries).run session).2
  /-- It survives permitted writing. -/
  write : ∀ {session : Session} {path text : String} {encoding : Encoding} {files : FileSystem},
    Permits (.write path text encoding) → session.files.write path text encoding = .ok files →
      Holds session → Holds { session with files }

/-- What is known of an invocation that has taken a turn and left the session: what it waits for has
its place, and what it has found in place still is. -/
structure Invocation.Promising (session : Session) (purpose : Purpose)
    (progress : Progress Invocation InvocationOutcome) : Prop where
  sound : ∀ url invocation, progress = .waiting url invocation → invocation.Sound
  standing : ∃ number packages, Invocation.Standing
    (fun seen => seen.installed ⊆ session.installed) number purpose packages progress

/-- Where a task may stand. -/
inductive TaskProgress.Standing (session : Session) : TaskProgress → Prop
  | prepare {options : CompilerOptions} {progress : Progress Invocation InvocationOutcome}
      (promising : Invocation.Promising session (.prepare options) progress) :
      Standing session (.ofPrepare options progress)
  | preload {progress : Progress Invocation InvocationOutcome}
      (promising : Invocation.Promising session .preload progress) :
      Standing session (.ofPreload progress)
  | mount {plugin : Plugin} {progress : Progress Invocation InvocationOutcome}
      (promising : Invocation.Promising session .preload progress) :
      Standing session (.ofMount plugin progress)
  | run {plugin : Plugin} {progress : Progress PluginRun CompileReport}
      (promising : ∀ url run, progress = .waiting url run →
        Invocation.Promising session (.prepare run.pending.options)
          (.waiting url run.invocation)) :
      Standing session (.ofRun plugin progress)

section Lasting

variable {Permits : Event → Prop} {Holds : Session → Prop} {session before : Session}
  {purpose : Purpose}

theorem Invocation.Promising.mono {progress : Progress Invocation InvocationOutcome}
    (promising : Promising before purpose progress)
    (installed : before.installed ⊆ session.installed) : Promising session purpose progress := by
  obtain ⟨number, packages, standing⟩ := promising.standing
  exact ⟨promising.sound, number, packages,
    standing.mono fun _ listed => List.Subset.trans listed installed⟩

theorem TaskProgress.Standing.mono {progress : TaskProgress} (standing : progress.Standing before)
    (installed : before.installed ⊆ session.installed) : progress.Standing session := by
  cases standing with
  | prepare promising => exact .prepare (promising.mono installed)
  | preload promising => exact .preload (promising.mono installed)
  | mount promising => exact .mount (promising.mono installed)
  | run promising => exact .run fun url run waits => (promising url run waits).mono installed

/-- What an invocation leaves after a turn. -/
structure Invocation.Served (Holds : Session → Prop) (before : Session) (purpose : Purpose)
    (result : Progress Invocation InvocationOutcome × Session) : Prop where
  holds : Holds result.2
  installed : before.installed ⊆ result.2.installed
  promising : Promising result.2 purpose result.1

/-- What a task leaves after a turn. -/
structure TaskProgress.Served (Holds : Session → Prop) (before : Session)
    (progress : TaskProgress) (after : Session) : Prop where
  holds : Holds after
  installed : before.installed ⊆ after.installed
  standing : progress.Standing after

namespace Invocation

theorem Advance.served {number : Nat} {packages : List String} {awaited? : Option String}
    {result : Progress Invocation InvocationOutcome × Session}
    (advance : Advance (fun seen => seen.installed ⊆ before.installed) number purpose packages
      awaited? before result)
    (leaves : Leaves Holds result) : Served Holds before purpose result := by
  refine ⟨leaves.holds, advance.stretch.installed, leaves.sound, number, packages,
    advance.standing.mono fun seen known => ?_⟩
  rcases known with listed | rfl
  · exact List.Subset.trans listed advance.stretch.installed
  · exact List.Subset.refl _

theorem served_prepare (enduring : Session.Enduring Permits Holds) (options : CompilerOptions)
    (packages : List String) (holds : Holds session) :
    Served Holds session (.prepare options) ((prepare options packages).run session) := by
  obtain ⟨holds, installed, promising⟩ := (advance_prepare options packages session).served
    (enduring.prepare options packages (enduring.begun holds))
  exact ⟨holds, installed, promising⟩

theorem served_preload (enduring : Session.Enduring Permits Holds) (packages : List String)
    (holds : Holds session) : Served Holds session .preload ((preload packages).run session) :=
  (advance_preload packages session).served (enduring.preload packages holds)

theorem Promising.resume (enduring : Session.Enduring Permits Holds) {url : Url}
    {invocation : Invocation} (promising : Promising session purpose (.waiting url invocation))
    (reply : Reply) (holds : Holds session) :
    Served Holds session purpose ((invocation.resume reply).run session) := by
  obtain ⟨sound, number, packages, standing⟩ := promising
  exact (advance_resume reply standing).served
    (enduring.resume (sound url invocation rfl) reply holds)

end Invocation

/-- What follows the turn of a preparation that belongs to a run. -/
theorem PluginRun.served_proceed (enduring : Session.Enduring Permits Holds) (plugin : Plugin)
    (pending : PendingCompile) {result : Progress Invocation InvocationOutcome × Session}
    (served : Invocation.Served Holds before (.prepare pending.options) result) :
    ∃ progress left, (proceed pending result.1).run result.2 = (progress, left) ∧
      TaskProgress.Served Holds before (.ofRun plugin progress) left := by
  obtain ⟨progress, middle⟩ := result
  obtain ⟨holds, installed, promising⟩ := served
  cases progress with
  | waiting url invocation =>
      refine ⟨_, middle, run_proceed_of_waiting, holds, installed, .run fun url run waits => ?_⟩
      obtain ⟨rfl, rfl⟩ := Progress.waiting.inj waits
      exact promising
  | done prepared =>
      refine ⟨_, _, run_proceed_of_done, ?_⟩
      cases prepared with
      | error cause => exact ⟨holds, installed, .run fun _ _ waits => nomatch waits⟩
      | ok number =>
          obtain ⟨files, left_eq, added⟩ := CompileOrder.exists_run_compile_eq
            ⟨⟨number, pending.options⟩, pending.root.text, some pending.options⟩ pending.backend
            pending.transformer middle
          rw [run_compile_of_ok, left_eq]
          exact ⟨enduring.added added holds, installed, .run fun _ _ waits => nomatch waits⟩

theorem Operation.served_start (enduring : Session.Enduring Permits Holds) (operation : Operation)
    (holds : Holds session) :
    ∃ progress left, operation.start.run session = (progress, left) ∧
      TaskProgress.Served Holds session progress left := by
  cases operation with
  | prepare options packages =>
      obtain ⟨holds, installed, promising⟩ :=
        Invocation.served_prepare enduring options packages holds
      exact ⟨_, _, run_bind_of_run rfl, holds, installed, .prepare promising⟩
  | preload packages =>
      obtain ⟨holds, installed, promising⟩ := Invocation.served_preload enduring packages holds
      exact ⟨_, _, run_bind_of_run rfl, holds, installed, .preload promising⟩
  | mount plugin =>
      obtain ⟨holds, installed, promising⟩ :=
        Invocation.served_preload enduring plugin.config.packages holds
      exact ⟨_, _, run_bind_of_run rfl, holds, installed, .mount promising⟩
  | run plugin editor backend transformer =>
      have added := FileSystem.adds_store editor.file editor.text session.files
      rcases stored : (FileSystem.store editor.file editor.text).perform session.files with
        ⟨cause | root, files⟩
      · rw [stored] at added
        exact ⟨_, _, run_bind_of_run (Plugin.run_run_of_error stored), enduring.added added holds,
          List.Subset.refl _, .run fun _ _ waits => nomatch waits⟩
      · rw [stored] at added
        have served := Invocation.served_prepare enduring editor.options plugin.config.packages
          (enduring.added added holds)
        obtain ⟨progress, left, proceeds, served⟩ := PluginRun.served_proceed enduring plugin
          ⟨root, editor.options, backend, transformer⟩ served
        exact ⟨_, left, run_bind_of_run ((Plugin.run_run_of_ok stored).trans proceeds),
          served.holds, served.installed, served.standing⟩

theorem TaskProgress.Standing.resume (enduring : Session.Enduring Permits Holds) {url : Url}
    {task : Task} (standing : TaskProgress.Standing session (.waiting url task)) (reply : Reply)
    (holds : Holds session) :
    ∃ progress left, (task.resume reply).run session = (progress, left) ∧
      TaskProgress.Served Holds session progress left := by
  generalize progress_eq : (.waiting url task : TaskProgress) = progress at standing
  cases standing with
  | prepare promising =>
      obtain ⟨invocation, rfl, rfl⟩ := Progress.exists_of_map_eq_waiting progress_eq.symm
      obtain ⟨holds, installed, promising⟩ := promising.resume enduring reply holds
      exact ⟨_, _, run_bind_of_run rfl, holds, installed, .prepare promising⟩
  | preload promising =>
      obtain ⟨invocation, rfl, rfl⟩ := Progress.exists_of_map_eq_waiting progress_eq.symm
      obtain ⟨holds, installed, promising⟩ := promising.resume enduring reply holds
      exact ⟨_, _, run_bind_of_run rfl, holds, installed, .preload promising⟩
  | mount promising =>
      obtain ⟨invocation, rfl, rfl⟩ := Progress.exists_of_map_eq_waiting progress_eq.symm
      obtain ⟨holds, installed, promising⟩ := promising.resume enduring reply holds
      exact ⟨_, _, run_bind_of_run rfl, holds, installed, .mount promising⟩
  | @run plugin progress promising =>
      obtain ⟨run, rfl, rfl⟩ := Progress.exists_of_map_eq_waiting progress_eq.symm
      have served := (promising url run rfl).resume enduring reply holds
      obtain ⟨progress, left, proceeds, served⟩ :=
        PluginRun.served_proceed enduring plugin run.pending served
      exact ⟨_, left, run_bind_of_run ((run_bind_of_run rfl).trans proceeds),
        served.holds, served.installed, served.standing⟩

end Lasting

/-! ## Histories -/

/-- A new session has nothing recorded and nothing installed, and its files were made from none. -/
theorem Session.eq_of_create {config : Config} {start : Session}
    (created : create config = .ok start) :
    ∃ files, start = { config, files } ∧
      FileSystem.Added (.bare config.currentDirectory) files := by
  have added := FileSystem.adds_makeDirectoriesAt config.currentDirectory
    (.bare config.currentDirectory)
  rw [create] at created
  rcases made : (FileSystem.makeDirectoriesAt config.currentDirectory).perform
    (.bare config.currentDirectory) with ⟨cause | _, files⟩
  · rw [made] at created
    cases created
  · rw [made] at created added
    exact ⟨files, (Except.ok.inj created).symm, added⟩

namespace LiveSession

variable {Permits : Event → Prop} {Holds : Session → Prop} {live : LiveSession}

/-- The session has the property, and every task stands where it may. -/
structure Orderly (Holds : Session → Prop) (live : LiveSession) : Prop where
  holds : Holds live.session
  standing : ∀ task ∈ live.tasks, task.Standing live.session

theorem Orderly.leave {session : Session} (orderly : live.Orderly Holds) (holds : Holds session)
    (installed : live.session.installed ⊆ session.installed) :
    Orderly Holds { live with session } :=
  ⟨holds, fun task member => (orderly.standing task member).mono installed⟩

theorem orderly_onFiles (enduring : Session.Enduring Permits Holds) (orderly : live.Orderly Holds)
    {α : Type} {activity : FileActivity α} (adds : activity.Adds) :
    (live.onFiles activity).Orderly Holds :=
  orderly.leave (enduring.added (adds live.session.files) orderly.holds) (List.Subset.refl _)

/-- What endures survives every permitted event. -/
theorem Orderly.step (enduring : Session.Enduring Permits Holds) (orderly : live.Orderly Holds)
    {event : Event} (permitted : Permits event) : (live.step event).Orderly Holds := by
  cases event with
  | start operation =>
      obtain ⟨progress, left, starts, served⟩ := operation.served_start enduring orderly.holds
      simp only [LiveSession.step, starts]
      refine ⟨served.holds, fun task member => ?_⟩
      rcases List.mem_append.mp member with old | new
      · exact (orderly.standing task old).mono served.installed
      · obtain rfl := List.mem_singleton.mp new
        exact served.standing
  | resume index reply =>
      rw [LiveSession.step]
      split
      next url task found =>
        obtain ⟨progress, left, resumes, served⟩ :=
          (orderly.standing _ (List.mem_of_getElem? found)).resume enduring reply orderly.holds
        simp only [resumes]
        refine ⟨served.holds, fun task member => ?_⟩
        rcases List.mem_or_eq_of_mem_set member with old | rfl
        · exact (orderly.standing task old).mono served.installed
        · exact served.standing
      next => exact orderly
  | compile index root options backend transformer =>
      rw [LiveSession.step]
      split
      next ticket found =>
        obtain ⟨files, left_eq, added⟩ := CompileOrder.exists_run_compile_eq ⟨ticket, root, options⟩
          backend transformer live.session
        dsimp only
        rw [left_eq]
        exact orderly.leave (enduring.added added orderly.holds) (List.Subset.refl _)
      next => exact orderly
  | install options libraries =>
      obtain ⟨files, installed, left_eq, kept, _⟩ :=
        Invocation.run_install_frame options.libraries libraries live.session
      refine orderly.leave (enduring.install permitted orderly.holds) ?_
      rw [left_eq]
      exact kept
  | write path text encoding =>
      have performed := FileActivity.perform_ofOperation
        (·.write path text encoding) live.session.files
      rw [LiveSession.step, onFiles, Session.run_onFiles, performed]
      cases success : live.session.files.write path text encoding with
      | error cause => exact orderly
      | ok files =>
          exact orderly.leave (enduring.write permitted success orderly.holds) (List.Subset.refl _)
  | makeDirectory path =>
      exact orderly_onFiles enduring orderly
        (FileActivity.adds_ofOperation fun _ _ => FileSystem.added_of_makeDirectory)
  | makeDirectories path =>
      exact orderly_onFiles enduring orderly (FileSystem.adds_makeDirectories path)
  | ask request =>
      have added := (CompilerHost.ofConfig live.session.config).added_answer
        { files := live.session.files } request
      exact orderly.leave (enduring.added added orderly.holds) (List.Subset.refl _)

theorem orderly_after (enduring : Session.Enduring Permits Holds) {start : Session}
    (holds : Holds start) {events : List Event} (permitted : ∀ event ∈ events, Permits event) :
    (after start events).Orderly Holds := by
  suffices ∀ live : LiveSession, live.Orderly Holds →
      (events.foldl LiveSession.step live).Orderly Holds from
    this ⟨start, []⟩ ⟨holds, fun _ member => absurd member List.not_mem_nil⟩
  intro live orderly
  induction events generalizing live with
  | nil => exact orderly
  | cons first rest induction =>
      exact induction (fun event member => permitted event (List.mem_cons_of_mem first member)) _
        (orderly.step enduring (permitted first List.mem_cons_self))

end LiveSession
end Workbench
