import Workbench.Session.Plugin

/-!
# Tasks

The operations of a session that may have to wait, as one kind of activity. Tasks of one session
take turns: while one waits for a document, others can be started and resumed.
-/

namespace Workbench

/-- An operation that may have to wait. -/
inductive Operation where
  /-- Preparing a compilation. -/
  | prepare (options : CompilerOptions) (packages : List String)
  /-- Fetching packages ahead of time. -/
  | preload (packages : List String)
  /-- Mounting a plugin. -/
  | mount (plugin : Plugin)
  /-- Running a plugin. -/
  | run (plugin : Plugin) (editor : EditorState) (backend : Backend)
    (transformer : Program → Transformer)

/-- An operation that waits for a document. -/
inductive Task where
  /-- The preparation of a compilation. -/
  | prepare (options : CompilerOptions) (state : Invocation)
  /-- A fetch ahead of time. -/
  | preload (state : Invocation)
  /-- The mount of a plugin. -/
  | mount (plugin : Plugin) (state : Invocation)
  /-- The run of a plugin. -/
  | run (plugin : Plugin) (state : PluginRun)

/-- What an operation comes to. -/
inductive TaskResult where
  /-- A preparation gives a ticket or fails. -/
  | prepared (ticket : Except CompileError Ticket)
  /-- Packages have been fetched as far as they are to be had. -/
  | preloaded
  /-- The plugin has been mounted. -/
  | mounted (plugin : Plugin)
  /-- The plugin has been run. -/
  | ran (plugin : Plugin) (report : CompileReport)

/-- An operation is under way or has come to its end. -/
abbrev TaskProgress := Progress Task TaskResult

namespace TaskProgress

/-- A preparation as a task. -/
def ofPrepare (options : CompilerOptions) : Progress Invocation InvocationOutcome → TaskProgress :=
  Progress.map (Task.prepare options) fun outcome => .prepared (outcome.ticket options)

/-- A fetch ahead of time as a task. -/
def ofPreload : Progress Invocation InvocationOutcome → TaskProgress :=
  Progress.map Task.preload fun _ => .preloaded

/-- A mount as a task. -/
def ofMount (plugin : Plugin) : Progress Invocation InvocationOutcome → TaskProgress :=
  Progress.map (Task.mount plugin) fun _ => .mounted plugin.afterMount

/-- A run as a task. -/
def ofRun (plugin : Plugin) : Progress PluginRun CompileReport → TaskProgress :=
  Progress.map (Task.run plugin) fun report => .ran (plugin.afterRun report) report

end TaskProgress

namespace Operation

/-- Starts the operation. -/
def start : Operation → StateM Session TaskProgress
  | prepare options packages => do
    return .ofPrepare options (← Invocation.prepare options packages)
  | preload packages => do
    return .ofPreload (← Invocation.preload packages)
  | mount plugin => do
    return .ofMount plugin (← plugin.mount)
  | run plugin editor backend transformer => do
    return .ofRun plugin (← plugin.run editor backend transformer)

/-- A bound on the number of documents that the operation requests from stored responses. -/
def rounds (responses : CannedResponses) : Operation → Nat
  | prepare options packages => Invocation.rounds responses (.prepare options) packages
  | preload packages => Invocation.rounds responses .preload packages
  | mount plugin => Invocation.rounds responses .preload plugin.config.packages
  | run plugin editor _ _ =>
    Invocation.rounds responses (.prepare editor.options) plugin.config.packages

end Operation

namespace Task

/-- Goes on with what came of the request. -/
def resume : Task → Reply → StateM Session TaskProgress
  | prepare options state, reply => do
    return .ofPrepare options (← state.resume reply)
  | preload state, reply => do
    return .ofPreload (← state.resume reply)
  | mount plugin state, reply => do
    return .ofMount plugin (← state.resume reply)
  | run plugin state, reply => do
    return .ofRun plugin (← state.resume reply)

end Task

/-- Carries out an operation without any turn for others. -/
def Operation.perform (operation : Operation) (responses : CannedResponses) (session : Session) :
    Settled Task TaskResult Session :=
  let (progress, session) := operation.start.run session
  settle responses.transport Task.resume (operation.rounds responses) progress session

end Workbench
