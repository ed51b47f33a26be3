import Workbench.Session.Compile

/-!
# Editor plugins

A plugin ties an editor to a session. Mounting it fetches its packages ahead of time. A run writes
the text of the editor into its file, prepares the session and compiles the file; the result of the
last successful run is kept until the plugin is unmounted.
-/

namespace Workbench

/-- What a plugin is and needs. -/
structure PluginConfig where
  /-- What identifies it. -/
  id : String := "ts-transform-runtime-check"
  /-- What it is called. -/
  displayName : String := "Runtime Check"
  /-- The packages that every run needs. -/
  packages : List String := ["ts-transform-runtime-check"]
deriving DecidableEq, Repr

/-- A plugin of a session. -/
structure Plugin where
  /-- What it is and needs. -/
  config : PluginConfig
  /-- It has been mounted. -/
  mounted : Bool := false
  /-- The result of the last successful run. -/
  last : Option CompileResult := none
deriving DecidableEq

/-- What the editor hands over for a run. -/
structure EditorState where
  /-- Path of the edited file. -/
  file : String
  /-- Its text. -/
  text : String
  /-- The options to compile with. -/
  options : CompilerOptions := {}
deriving DecidableEq, Repr

/-- The part of a run that follows its preparation. -/
structure PendingCompile where
  /-- Path of the edited file. -/
  root : Path
  /-- The options to compile with. -/
  options : CompilerOptions
  /-- What builds the program. -/
  backend : Backend
  /-- What transforms the output. -/
  transformer : Program → Transformer

/-- A run that waits for a document. -/
structure PluginRun where
  /-- The preparation under way. -/
  invocation : Invocation
  /-- What follows it. -/
  pending : PendingCompile

namespace PluginRun

/-- Goes on to compile once it is known what the preparation came to. -/
def compile (pending : PendingCompile) (prepared : InvocationOutcome) :
    StateM Session CompileReport := do
  match prepared.ticket pending.options with
  | .error cause => return ⟨.error cause, none⟩
  | .ok ticket =>
    CompileOrder.compile ⟨ticket, pending.root.text, some pending.options⟩ pending.backend
      pending.transformer

/-- Goes on with a preparation. -/
def proceed (pending : PendingCompile) :
    Progress Invocation InvocationOutcome → StateM Session (Progress PluginRun CompileReport)
  | .waiting url invocation => return .waiting url ⟨invocation, pending⟩
  | .done prepared => return .done (← compile pending prepared)

/-- Goes on with what came of the request. -/
def resume (run : PluginRun) (reply : Reply) :
    StateM Session (Progress PluginRun CompileReport) := do
  proceed run.pending (← run.invocation.resume reply)

end PluginRun

namespace Plugin

/-- Begins to fetch the packages of the plugin. -/
def mount (plugin : Plugin) : StateM Session (Progress Invocation InvocationOutcome) :=
  Invocation.preload plugin.config.packages

/-- The plugin after it has been mounted. -/
def afterMount (plugin : Plugin) : Plugin := { plugin with mounted := true }

/-- Begins a run. -/
def run (plugin : Plugin) (editor : EditorState) (backend : Backend)
    (transformer : Program → Transformer) :
    StateM Session (Progress PluginRun CompileReport) := do
  match ← Session.onFiles (FileSystem.store editor.file editor.text) with
  | .error cause => return .done ⟨.error (.file cause), none⟩
  | .ok root =>
    PluginRun.proceed ⟨root, editor.options, backend, transformer⟩
      (← Invocation.prepare editor.options plugin.config.packages)

/-- The plugin after a run; a failed run leaves the last result. -/
def afterRun (plugin : Plugin) (report : CompileReport) : Plugin :=
  match report.outcome with
  | .ok result => { plugin with last := some result }
  | .error _ => plugin

/-- The plugin without its result and its mount. -/
def unmount (plugin : Plugin) : Plugin := { plugin with mounted := false, last := none }

end Plugin
end Workbench
