import Workbench.Proofs.Compile.Imports
import Workbench.Proofs.Session.Territory
import Workbench.Proofs.Session.Transparency
import Workbench.Session.Task

/-!
# Editors at work on one session

Any number of plugins share a session. Their calls take turns wherever one of them waits for a
document. A run writes its text and begins its preparation in one turn, so whoever writes the same
file later also makes the run outdated, and a run that still gets its ticket finds its own text.
-/

namespace Workbench

/-- What is asked of a session. Programs are built by compilers that follow imports. -/
inductive EditorCall where
  /-- Preparing a compilation. -/
  | prepare (options : CompilerOptions) (packages : List String)
  /-- Fetching packages ahead of time. -/
  | preload (packages : List String)
  /-- Mounting a plugin. -/
  | mount (plugin : Plugin)
  /-- Running a plugin. -/
  | run (plugin : Plugin) (editor : EditorState) (compiler : ImportCompiler)
    (transformer : Program → Transformer)

/-- The operation that is asked for. -/
def EditorCall.operation : EditorCall → Operation
  | prepare options packages => .prepare options packages
  | preload packages => .preload packages
  | mount plugin => .mount plugin
  | run plugin editor compiler transformer => .run plugin editor compiler.backend transformer

/-- A call and where it stands. -/
structure Job where
  /-- What was asked. -/
  call : EditorCall
  /-- How far it got. -/
  progress : TaskProgress

/-- The result that a run brought. -/
def Job.result? (job : Job) : Option CompileResult :=
  match job.progress with
  | .done (.ran _ report) => report.outcome.toOption
  | _ => none

theorem Job.exists_of_result? {job : Job} {result : CompileResult}
    (brought : job.result? = some result) :
    ∃ ran report, job.progress = .done (.ran ran report) ∧ report.outcome = .ok result := by
  rw [result?] at brought
  split at brought
  next ran report progress_eq =>
    exact ⟨ran, report, progress_eq, eq_ok_of_toOption_eq_some brought⟩
  next => exact nomatch brought

/-- What happens in one turn. -/
inductive Move where
  /-- A call starts. -/
  | start (call : EditorCall)
  /-- The job at the place is resumed with what came of its request. -/
  | resume (index : Nat) (reply : Reply)

/-- The call that starts, if one does. -/
def Move.call? : Move → Option EditorCall
  | start call => some call
  | resume _ _ => none

/-- A session and the jobs that were started on it, in the order of their starts. -/
structure Workspace where
  /-- The session. -/
  session : Session
  /-- The jobs. -/
  jobs : List Job

namespace Workspace

/-- Makes a move. A job that does not wait cannot be resumed. -/
def move (workspace : Workspace) : Move → Workspace
  | .start call =>
    let (progress, session) := call.operation.start.run workspace.session
    ⟨session, workspace.jobs ++ [⟨call, progress⟩]⟩
  | .resume index reply =>
    match workspace.jobs[index]? with
    | some ⟨call, .waiting _ task⟩ =>
      let (progress, session) := (task.resume reply).run workspace.session
      ⟨session, workspace.jobs.set index ⟨call, progress⟩⟩
    | _ => workspace

/-- The session and its jobs after some moves. -/
def after (start : Session) (moves : List Move) : Workspace := moves.foldl move ⟨start, []⟩

end Workspace

/-! ## Turns -/

/-- What a turn makes of a session: the newest invocation stays, and only packages and libraries are
put in place, or another becomes the newest. -/
structure Session.Moved (config : Config) (before after : Session) : Prop where
  situated : after.Situated config
  later : before.generation ≤ after.generation
  files : after.generation = before.generation →
    FileSystem.Growth config.Reserved before.files after.files

namespace Session

variable {config : Config} {before after : Session} {number : Nat} {root : Path} {text : String}

theorem Tended.moved (situated : before.Situated config) (tended : Tended config before after) :
    before.Moved config after :=
  ⟨situated.tend tended, Nat.le_of_eq tended.generation.symm, fun _ => tended.files⟩

theorem Moved.of_newer (situated : after.Situated config)
    (newer : after.generation = before.generation + 1) : before.Moved config after :=
  ⟨situated, newer ▸ Nat.le_succ _, fun same => absurd (newer.symm.trans same) (Nat.succ_ne_self _)⟩

/-- While the invocation is current, the text is in its file, unless the file is where packages and
libraries are put. -/
def Holds (config : Config) (number : Nat) (root : Path) (text : String)
    (session : Session) : Prop :=
  session.generation = number → ¬config.Reserved root →
    session.files.occupant? root = some (.file text.toUTF8)

theorem Holds.moved (holds : before.Holds config number root text)
    (began : number ≤ before.generation) (moved : before.Moved config after) :
    after.Holds config number root text := by
  intro current outside
  -- Numbers only rise, so a turn after which the invocation is current has begun no other.
  have unchanged : after.generation = before.generation :=
    Nat.le_antisymm (current ▸ began) moved.later
  exact (moved.files unchanged).content root _ outside
    (holds (unchanged.symm.trans current) outside)

end Session

/-! ## Runs -/

/-- A report that brings a result brings what comes of the editor's own text. -/
def EditorState.Rendered (config : Config) (editor : EditorState) (compiler : ImportCompiler)
    (transformer : Program → Transformer) (report : CompileReport) : Prop :=
  ∀ root apply result, config.currentDirectory.resolve? editor.file = some root →
    ¬config.Reserved root → compiler.transformTwice = false →
    transformer = (fun _ => .ofUnit apply) → report.outcome = .ok result →
    ImportCompiler.Renders apply ⟨root.text, editor.text, editor.options.target⟩
      result.output.files

theorem EditorState.rendered_of_error {config : Config} {editor : EditorState}
    {compiler : ImportCompiler} {transformer : Program → Transformer} {report : CompileReport}
    {cause : CompileError} (failed : report.outcome = .error cause) :
    editor.Rendered config compiler transformer report := by
  intro root apply result _ _ _ _ success
  exact nomatch failed.symm.trans success

namespace PluginRun

/-- Where a run may stand. -/
inductive Standing (config : Config) (session : Session) (packages : List String)
    (editor : EditorState) (compiler : ImportCompiler) (transformer : Program → Transformer) :
    Progress PluginRun CompileReport → Prop
  | waiting {url : Url} {invocation : Invocation} {number : Nat} {root : Path}
      (resolved : config.currentDirectory.resolve? editor.file = some root)
      (sound : invocation.Sound)
      (standing : Invocation.Standing (fun _ => True) number (.prepare editor.options) packages
        (.waiting url invocation))
      (begun : number ≤ session.generation) (holds : session.Holds config number root editor.text) :
      Standing config session packages editor compiler transformer
        (.waiting url ⟨invocation, ⟨root, editor.options, compiler.backend, transformer⟩⟩)
  | done {report : CompileReport} (rendered : editor.Rendered config compiler transformer report) :
      Standing config session packages editor compiler transformer (.done report)

variable {config : Config} {session before : Session} {packages : List String}
  {editor : EditorState} {compiler : ImportCompiler} {transformer : Program → Transformer}
  {root : Path}

theorem run_compile_of_error {pending : PendingCompile} {cause : CompileError} :
    (compile pending (.error cause)).run session = (⟨.error cause, none⟩, session) := rfl

theorem run_compile_of_ok {pending : PendingCompile} {number : Nat} :
    (compile pending (.ok number)).run session =
      (CompileOrder.compile ⟨⟨number, pending.options⟩, pending.root.text, some pending.options⟩
        pending.backend pending.transformer).run session := rfl

theorem run_proceed_of_waiting {pending : PendingCompile} {url : Url} {invocation : Invocation} :
    (proceed pending (.waiting url invocation)).run session =
      (.waiting url ⟨invocation, pending⟩, session) := rfl

theorem run_proceed_of_done {pending : PendingCompile} {prepared : InvocationOutcome} :
    (proceed pending (.done prepared)).run session =
      (.done ((compile pending prepared).run session).1,
        ((compile pending prepared).run session).2) := rfl

/-- A run that has its ticket compiles the text of its own editor. -/
theorem rendered_of_compile (situated : session.Situated config)
    (resolved : config.currentDirectory.resolve? editor.file = some root) {number : Nat}
    (current : session.generation = number) (holds : session.Holds config number root editor.text) :
    editor.Rendered config compiler transformer ((compile
      ⟨root, editor.options, compiler.backend, transformer⟩ (.ok number)).run session).1 := by
  intro path apply result resolved' outside single same success
  obtain rfl := Option.some.inj (resolved.symm.trans resolved')
  subst same
  rw [run_compile_of_ok] at success
  exact CompileOrder.renders_of_compile single (situated.spellable.resolve? resolved) rfl
    (holds current outside) success

theorem compile_leaves {pending : PendingCompile} (imports : pending.backend = compiler.backend)
    (prepared : InvocationOutcome) : ((compile pending prepared).run session).2 = session := by
  cases prepared with
  | error cause => rw [run_compile_of_error]
  | ok number =>
      rw [run_compile_of_ok, imports]
      exact CompileOrder.compile_leaves _ compiler _ session

variable (compiler transformer) in
theorem standing_proceed {awaited? : Option String} {number : Nat}
    {result : Progress Invocation InvocationOutcome × Session}
    (advance : Invocation.Advance (fun _ => True) number (.prepare editor.options) packages awaited?
      before result)
    (keeps : Invocation.Leaves (Session.Tended config before) result)
    (situated : result.2.Situated config)
    (resolved : config.currentDirectory.resolve? editor.file = some root)
    (begun : number ≤ result.2.generation)
    (holds : result.2.Holds config number root editor.text) :
    ∃ progress, (proceed ⟨root, editor.options, compiler.backend, transformer⟩ result.1).run
        result.2 = (progress, result.2) ∧
      Standing config result.2 packages editor compiler transformer progress := by
  obtain ⟨progress, left⟩ := result
  cases progress with
  | waiting url invocation =>
      exact ⟨_, run_proceed_of_waiting, .waiting resolved (keeps.sound url invocation rfl)
        (advance.standing.mono fun _ _ => trivial) begun holds⟩
  | done prepared =>
      refine ⟨_, run_proceed_of_done.trans (Prod.ext rfl (compile_leaves rfl prepared)), .done ?_⟩
      cases prepared with
      | error cause => exact EditorState.rendered_of_error rfl
      | ok value =>
          obtain ⟨rfl, _⟩ := advance.standing
          exact rendered_of_compile situated resolved
            (advance.current editor.options _ rfl rfl) holds

theorem Standing.moved {progress : Progress PluginRun CompileReport}
    (standing : Standing config before packages editor compiler transformer progress)
    (moved : before.Moved config session) :
    Standing config session packages editor compiler transformer progress := by
  cases standing with
  | waiting resolved sound standing begun holds =>
      exact .waiting resolved sound standing (Nat.le_trans begun moved.later)
        (holds.moved begun moved)
  | done rendered => exact .done rendered

end PluginRun

/-! ## Jobs -/

theorem Progress.exists_of_map_eq_waiting {σ τ α β : Type} {onState : σ → τ} {onValue : α → β}
    {progress : Progress σ α} {url : Url} {other : τ}
    (same : progress.map onState onValue = .waiting url other) :
    ∃ state, progress = .waiting url state ∧ onState state = other := by
  cases progress with
  | waiting awaited state =>
      obtain ⟨rfl, rfl⟩ := Progress.waiting.inj same
      exact ⟨state, rfl, rfl⟩
  | done value => exact nomatch same

theorem Progress.exists_of_map_eq_done {σ τ α β : Type} {onState : σ → τ} {onValue : α → β}
    {progress : Progress σ α} {other : β}
    (same : progress.map onState onValue = .done other) :
    ∃ value, progress = .done value ∧ onValue value = other := by
  cases progress with
  | waiting awaited state => exact nomatch same
  | done value => exact ⟨value, rfl, Progress.done.inj same⟩

/-- What an invocation waits for is placed where it belongs when it comes. -/
def Invocation.Awaits (progress : Progress Invocation InvocationOutcome) : Prop :=
  ∀ url invocation, progress = .waiting url invocation → invocation.Sound

/-- Where a job may stand. -/
inductive Job.Standing (config : Config) (session : Session) : Job → Prop
  | prepare {options : CompilerOptions} {packages : List String}
      {progress : Progress Invocation InvocationOutcome} (awaits : Invocation.Awaits progress) :
      Standing config session ⟨.prepare options packages, .ofPrepare options progress⟩
  | preload {packages : List String} {progress : Progress Invocation InvocationOutcome}
      (awaits : Invocation.Awaits progress) :
      Standing config session ⟨.preload packages, .ofPreload progress⟩
  | mount {plugin : Plugin} {progress : Progress Invocation InvocationOutcome}
      (awaits : Invocation.Awaits progress) :
      Standing config session ⟨.mount plugin, .ofMount plugin progress⟩
  | run {plugin : Plugin} {editor : EditorState} {compiler : ImportCompiler}
      {transformer : Program → Transformer} {progress : Progress PluginRun CompileReport}
      (standing : PluginRun.Standing config session plugin.config.packages editor compiler
        transformer progress) :
      Standing config session ⟨.run plugin editor compiler transformer, .ofRun plugin progress⟩

section Turns

variable {config : Config} {before session : Session}

theorem Job.Standing.moved {job : Job} (standing : job.Standing config before)
    (moved : before.Moved config session) : job.Standing config session := by
  cases standing with
  | prepare awaits => exact .prepare awaits
  | preload awaits => exact .preload awaits
  | mount awaits => exact .mount awaits
  | run standing => exact .run (standing.moved moved)

theorem Plugin.run_run_of_error {plugin : Plugin} {editor : EditorState} {backend : Backend}
    {transformer : Program → Transformer} {cause : FileError} {left : FileSystem}
    (failed : (FileSystem.store editor.file editor.text).perform session.files =
      (.error cause, left)) :
    (plugin.run editor backend transformer).run session =
      (.done ⟨.error (.file cause), none⟩, { session with files := left }) := by
  have stored : (Session.onFiles (FileSystem.store editor.file editor.text)).run session =
      (.error cause, { session with files := left }) := by
    rw [Session.run_onFiles, failed]
  rw [run, run_bind_of_run stored]
  rfl

theorem Plugin.run_run_of_ok {plugin : Plugin} {editor : EditorState} {backend : Backend}
    {transformer : Program → Transformer} {root : Path} {left : FileSystem}
    (done : (FileSystem.store editor.file editor.text).perform session.files = (.ok root, left)) :
    (plugin.run editor backend transformer).run session =
      let prepared := (Invocation.prepare editor.options plugin.config.packages).run
        { session with files := left }
      (PluginRun.proceed ⟨root, editor.options, backend, transformer⟩ prepared.1).run
        prepared.2 := by
  have stored : (Session.onFiles (FileSystem.store editor.file editor.text)).run session =
      (.ok root, { session with files := left }) := by
    rw [Session.run_onFiles, done]
  rw [run, run_bind_of_run stored]
  exact run_bind_of_run rfl

theorem PluginRun.standing_start (situated : session.Situated config) (plugin : Plugin)
    (editor : EditorState) (compiler : ImportCompiler) (transformer : Program → Transformer) :
    ∃ progress left,
      (plugin.run editor compiler.backend transformer).run session = (progress, left) ∧
      session.Moved config left ∧
      Standing config left plugin.config.packages editor compiler transformer progress := by
  obtain ⟨files, ⟨root, resolved, stored, there, growth⟩ | ⟨cause, failed, growth⟩⟩ :=
    FileSystem.perform_store editor.file editor.text session.files
  -- The text is stored and the invocation begins in one turn: whatever others stored before, the
  -- newest invocation is the one whose text is in the file.
  · rw [FileSystem.resolve_eq_ok_iff, situated.workingDirectory] at resolved
    have written : Session.Situated config { session with files } :=
      ⟨situated.config_eq, growth.workingDirectory.trans situated.workingDirectory,
        situated.spellable⟩
    have keeps := Invocation.keeps_prepare written editor.options plugin.config.packages
    have advance : Invocation.Advance (fun _ => True) _ _ _ _ _ _ :=
      Invocation.advance_prepare editor.options plugin.config.packages { session with files }
    have begun : session.generation + 1 ≤ _ := Nat.le_of_eq keeps.holds.generation.symm
    have situated' := (Invocation.situated_begun written).tend keeps.holds
    have holds : Session.Holds config (session.generation + 1) root editor.text _ :=
      fun _ outside => keeps.holds.files.content root _ outside there
    obtain ⟨progress, proceeds, standing⟩ :=
      standing_proceed compiler transformer advance keeps situated' resolved begun holds
    exact ⟨progress, _, (Plugin.run_run_of_ok stored).trans proceeds,
      .of_newer situated' keeps.holds.generation, standing⟩
  · refine ⟨_, _, Plugin.run_run_of_error failed, ?_, .done (EditorState.rendered_of_error rfl)⟩
    exact Session.Tended.moved situated ⟨rfl, rfl, growth.anywhere⟩

theorem PluginRun.Standing.resume (situated : session.Situated config) {packages : List String}
    {editor : EditorState} {compiler : ImportCompiler} {transformer : Program → Transformer}
    {url : Url} {run : PluginRun}
    (standing : Standing config session packages editor compiler transformer (.waiting url run))
    (reply : Reply) :
    ∃ progress left, (run.resume reply).run session = (progress, left) ∧
      session.Moved config left ∧
      Standing config left packages editor compiler transformer progress := by
  cases standing with
  | waiting resolved sound standing begun holds =>
      have keeps := Invocation.keeps_resume situated sound reply
      have moved := keeps.holds.moved situated
      obtain ⟨progress, proceeds, standing⟩ := standing_proceed compiler transformer
        (Invocation.advance_resume reply standing) keeps moved.situated resolved
        (Nat.le_trans begun moved.later) (holds.moved begun moved)
      exact ⟨progress, _, (run_bind_of_run rfl).trans proceeds, moved, standing⟩

theorem EditorCall.standing_start (situated : session.Situated config) (call : EditorCall) :
    ∃ progress left, call.operation.start.run session = (progress, left) ∧
      session.Moved config left ∧ Job.Standing config left ⟨call, progress⟩ := by
  cases call with
  | prepare options packages =>
      have keeps := Invocation.keeps_prepare situated options packages
      have situated' := (Invocation.situated_begun situated).tend keeps.holds
      exact ⟨_, _, run_bind_of_run rfl, .of_newer situated' keeps.holds.generation,
        .prepare keeps.sound⟩
  | preload packages =>
      have keeps := Invocation.keeps_preload situated packages
      exact ⟨_, _, run_bind_of_run rfl, keeps.holds.moved situated, .preload keeps.sound⟩
  | mount plugin =>
      have keeps := Invocation.keeps_preload situated plugin.config.packages
      exact ⟨_, _, run_bind_of_run rfl, keeps.holds.moved situated, .mount keeps.sound⟩
  | run plugin editor compiler transformer =>
      obtain ⟨progress, left, runs, moved, standing⟩ :=
        PluginRun.standing_start situated plugin editor compiler transformer
      exact ⟨_, left, run_bind_of_run runs, moved, .run standing⟩

theorem Invocation.Awaits.resume (situated : session.Situated config) {url : Url}
    {invocation : Invocation} (awaits : Awaits (.waiting url invocation)) (reply : Reply) :
    session.Moved config ((invocation.resume reply).run session).2 ∧
      Awaits ((invocation.resume reply).run session).1 := by
  have keeps := keeps_resume situated (awaits url invocation rfl) reply
  exact ⟨keeps.holds.moved situated, keeps.sound⟩

theorem Job.Standing.resume (situated : session.Situated config) {call : EditorCall} {url : Url}
    {task : Task} (standing : Job.Standing config session ⟨call, .waiting url task⟩)
    (reply : Reply) :
    ∃ progress left, (task.resume reply).run session = (progress, left) ∧
      session.Moved config left ∧ Job.Standing config left ⟨call, progress⟩ := by
  generalize job_eq : (⟨call, .waiting url task⟩ : Job) = job at standing
  cases standing with
  | prepare awaits =>
      obtain ⟨rfl, progress_eq⟩ := Job.mk.inj job_eq
      obtain ⟨invocation, rfl, rfl⟩ := Progress.exists_of_map_eq_waiting progress_eq.symm
      obtain ⟨moved, awaits⟩ := awaits.resume situated reply
      exact ⟨_, _, run_bind_of_run rfl, moved, .prepare awaits⟩
  | preload awaits =>
      obtain ⟨rfl, progress_eq⟩ := Job.mk.inj job_eq
      obtain ⟨invocation, rfl, rfl⟩ := Progress.exists_of_map_eq_waiting progress_eq.symm
      obtain ⟨moved, awaits⟩ := awaits.resume situated reply
      exact ⟨_, _, run_bind_of_run rfl, moved, .preload awaits⟩
  | mount awaits =>
      obtain ⟨rfl, progress_eq⟩ := Job.mk.inj job_eq
      obtain ⟨invocation, rfl, rfl⟩ := Progress.exists_of_map_eq_waiting progress_eq.symm
      obtain ⟨moved, awaits⟩ := awaits.resume situated reply
      exact ⟨_, _, run_bind_of_run rfl, moved, .mount awaits⟩
  | run standing =>
      obtain ⟨rfl, progress_eq⟩ := Job.mk.inj job_eq
      obtain ⟨state, rfl, rfl⟩ := Progress.exists_of_map_eq_waiting progress_eq.symm
      obtain ⟨progress, left, runs, moved, standing⟩ := standing.resume situated reply
      exact ⟨_, left, run_bind_of_run runs, moved, .run standing⟩

end Turns

/-! ## Schedules -/

namespace Workspace

/-- The session is of the configuration, and every job stands where it may. -/
structure Orderly (config : Config) (workspace : Workspace) : Prop where
  situated : workspace.session.Situated config
  standing : ∀ job ∈ workspace.jobs, job.Standing config workspace.session

variable {config : Config} {workspace : Workspace}

theorem Orderly.move (orderly : workspace.Orderly config) (move : Move) :
    (workspace.move move).Orderly config := by
  cases move with
  | start call =>
      obtain ⟨progress, left, starts, moved, standing⟩ := call.standing_start orderly.situated
      simp only [Workspace.move, starts]
      refine ⟨moved.situated, fun job member => ?_⟩
      rcases List.mem_append.mp member with old | new
      · exact (orderly.standing job old).moved moved
      · obtain rfl := List.mem_singleton.mp new
        exact standing
  | resume index reply =>
      rw [Workspace.move]
      split
      next call url task found =>
        obtain ⟨progress, left, resumes, moved, standing⟩ :=
          (orderly.standing _ (List.mem_of_getElem? found)).resume orderly.situated reply
        simp only [resumes]
        refine ⟨moved.situated, fun job member => ?_⟩
        rcases List.mem_or_eq_of_mem_set member with old | rfl
        · exact (orderly.standing job old).moved moved
        · exact standing
      next => exact orderly

theorem orderly_after {start : Session} (situated : start.Situated config) (moves : List Move) :
    (after start moves).Orderly config := by
  suffices ∀ workspace : Workspace, workspace.Orderly config →
      (moves.foldl Workspace.move workspace).Orderly config from
    this ⟨start, []⟩ ⟨situated, fun _ member => absurd member List.not_mem_nil⟩
  intro workspace orderly
  induction moves generalizing workspace with
  | nil => exact orderly
  | cons first rest induction => exact induction _ (orderly.move first)

theorem calls_move (move : Move) :
    (workspace.move move).jobs.map (·.call) =
      workspace.jobs.map (·.call) ++ move.call?.toList := by
  cases move with
  | start call => exact List.map_append
  | resume index reply =>
      rw [Workspace.move]
      split
      next call url task found =>
        rcases (task.resume reply).run workspace.session with ⟨progress, session⟩
        have kept : (workspace.jobs.set index ⟨call, progress⟩).map (·.call) =
            workspace.jobs.map (·.call) := by
          refine List.ext_getElem? fun place => ?_
          rw [List.getElem?_map, List.getElem?_map, List.getElem?_set]
          split
          next same => grind
          next => rfl
        simpa [Move.call?] using kept
      next => simp [Move.call?]

/-- The jobs are for the calls that started, in this order. -/
theorem calls_after (start : Session) (moves : List Move) :
    (after start moves).jobs.map (·.call) = moves.filterMap Move.call? := by
  suffices ∀ workspace : Workspace, (moves.foldl Workspace.move workspace).jobs.map (·.call) =
      workspace.jobs.map (·.call) ++ moves.filterMap Move.call? from this ⟨start, []⟩
  intro workspace
  induction moves generalizing workspace with
  | nil => simp
  | cons first rest induction =>
      rw [List.foldl_cons, induction, calls_move, List.append_assoc]
      cases first <;> rfl

end Workspace

theorem Session.situated_create {settings : Settings} {config : Config} {start : Session}
    (built : settings.build = .ok config) (created : create config = .ok start) :
    start.Situated config := by
  obtain ⟨fresh, created', faithful⟩ := exists_create (fun url => .ok ⟨200, ""⟩) config
  obtain rfl := Except.ok.inj (created.symm.trans created')
  exact ⟨faithful.config_eq, faithful.workingDirectory, Settings.isSpellable_of_build built⟩

/-- Whatever else is asked of the session and however the calls take turns, a run with a result
brings what its transformer makes of the text that its own editor handed over, under the path
that the editor named. -/
theorem Workspace.run_renders_own_text {settings : Settings} {config : Config} {start : Session}
    (built : settings.build = .ok config) (created : Session.create config = .ok start)
    (moves : List Move) {plugin ran : Plugin} {editor : EditorState} {compiler : ImportCompiler}
    {apply : SourceFile → Except TransformError SourceFile} {report : CompileReport}
    {result : CompileResult} {root : Path}
    (job : ⟨.run plugin editor compiler (fun _ => .ofUnit apply), .done (.ran ran report)⟩ ∈
      (after start moves).jobs)
    (once : compiler.transformTwice = false)
    (resolved : config.currentDirectory.resolve? editor.file = some root)
    (outside : ¬config.Reserved root) (success : report.outcome = .ok result) :
    ImportCompiler.Renders apply ⟨root.text, editor.text, editor.options.target⟩
      result.output.files := by
  have orderly := orderly_after (Session.situated_create built created) moves
  generalize job_eq : Job.mk _ _ = finished at job
  cases orderly.standing finished job with
  | run standing =>
      obtain ⟨call_eq, progress_eq⟩ := Job.mk.inj job_eq
      obtain ⟨rfl, rfl, rfl, rfl⟩ := EditorCall.run.inj call_eq
      obtain ⟨report, rfl, same⟩ := Progress.exists_of_map_eq_done progress_eq.symm
      obtain ⟨_, rfl⟩ := TaskResult.ran.inj same
      cases standing with
      | done rendered => exact rendered root apply result resolved outside once rfl success
  | _ => exact nomatch (Job.mk.inj job_eq).1

namespace Sample

/-- Settings for servers nearby. -/
def mirrors : Settings := { registryUrl := "http://npm", libraryUrl := "http://lib" }

/-- A transformer that adds a line. -/
def sign (unit : SourceFile) : Except TransformError SourceFile :=
  .ok { unit with text := unit.text ++ "// checked\n" }

/-- A plugin that needs the packages runs on the text of a file, without any library. -/
def edit (packages : List String) (file text : String) : EditorCall :=
  .run { config := { packages } } ⟨file, text, { noLib := true }⟩ {} fun _ => .ofUnit sign

/-- Two plugins run on one file, under two spellings. The second run waits for its package, while a
third plugin is mounted in vain. -/
def turns : List Move := [
  .start (edit [] "a.ts" "let a = 1\n"),
  .start (edit ["p"] "./a.ts" "let a = 2\n"),
  .start (.mount { config := { packages := ["q"] } }),
  .resume 2 (.error (.transport manifestUrl "connection refused")),
  .resume 1 (.ok ⟨200, "\x7b\"types\":\"index.d.ts\"\x7d"⟩),
  .resume 1 (.ok ⟨200, "export \x7b\x7d\n"⟩)]

/-- The second run: the session it is made in, where its file is and what it brings. -/
def secondRun : Option (Config × Session × Path × CompileResult) := do
  let config ← mirrors.build.toOption
  let start ← (Session.create config).toOption
  let root ← (config.currentDirectory.resolve? "./a.ts").filter fun root =>
    root.text = "/a.ts" ∧ ¬config.Reserved root
  let job ← (Workspace.after start turns).jobs[1]?
  let result ← job.result?
  return (config, start, root, result)

/-- The second run brings what the transformer makes of the second text. -/
theorem run_renders_own_text_secondRun :
    ∃ config start ran report result, mirrors.build = .ok config ∧
      Session.create config = .ok start ∧
      ⟨edit ["p"] "./a.ts" "let a = 2\n", .done (.ran ran report)⟩ ∈
        (Workspace.after start turns).jobs ∧ report.outcome = .ok result ∧
      ImportCompiler.Renders sign ⟨"/a.ts", "let a = 2\n", .es5⟩ result.output.files := by
  have finished : secondRun.isSome := by decide +kernel
  obtain ⟨found, found_eq⟩ := Option.isSome_iff_exists.mp finished
  simp only [secondRun, bind, Option.bind_eq_some_iff, Option.filter_eq_some_iff,
    decide_eq_true_eq] at found_eq
  obtain ⟨config, built, start, created, root, ⟨resolved, root_text, outside⟩, ⟨call, progress⟩,
    listed, result, brought, _⟩ := found_eq
  have built := eq_ok_of_toOption_eq_some built
  have created := eq_ok_of_toOption_eq_some created
  have called : ((Workspace.after start turns).jobs.map (·.call))[1]? =
      some (edit ["p"] "./a.ts" "let a = 2\n") := by
    rw [Workspace.calls_after]
    rfl
  rw [List.getElem?_map, listed] at called
  obtain rfl := Option.some.inj called
  obtain ⟨ran, report, progress_eq, success⟩ := Job.exists_of_result? brought
  subst progress_eq
  have job := List.mem_of_getElem? listed
  have renders := Workspace.run_renders_own_text built created turns job rfl resolved outside
    success
  rw [root_text] at renders
  exact ⟨config, start, ran, report, result, built, created, job, success, renders⟩

end Sample
end Workbench
