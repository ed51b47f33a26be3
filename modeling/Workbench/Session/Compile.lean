import Workbench.Session.Invocation

/-!
# Compiling in a session

With a ticket of the newest invocation a program is built over the files of the session, its root is
emitted, and everything that was reported is collected.
-/

namespace Workbench

/-- What to compile. -/
structure CompileOrder where
  /-- The leave to compile. -/
  ticket : Ticket
  /-- Path of the root unit. -/
  root : String := "index.ts"
  /-- Other options than those of the ticket. -/
  options : Option CompilerOptions := none
deriving DecidableEq, Repr

/-- What a backend was asked to build, and what it asked of its host. -/
structure Consultation where
  /-- The root names. -/
  roots : List String
  /-- The options. -/
  options : CompilerOptions
  /-- What the backend asked and was answered. -/
  exchanges : List Exchange

/-- What an order came to. -/
structure CompileReport where
  /-- The result, if there is one. -/
  outcome : Except CompileError CompileResult
  /-- How the backend was consulted, unless the order was refused before. -/
  consultation : Option Consultation

namespace CompileOrder

/-- The options to compile with. -/
def effectiveOptions (order : CompileOrder) : CompilerOptions :=
  order.options.getD order.ticket.options

/-- Checks an order, and gives the path of the root. The ticket has to be current, and the options
have to need the libraries of the ticket's options or none. -/
def approve (order : CompileOrder) (session : Session) : Except CompileError Path := do
  session.checkCurrent order.ticket.generation
  let root ← (session.files.resolve order.root).mapError CompileError.file
  let options := order.effectiveOptions
  if !options.noLib && options.libraries ≠ order.ticket.options.libraries then
    throw (.librariesNotPrepared options.target)
  return root

/-- Emits the root of a program that has been built and collects the reports. -/
def conclude (root : Path) (program : Program) (transformer : Program → Transformer)
    (bridge : Bridge) : Except CompileError CompileResult := do
  let entry ← match program.unit? root.text with
    | some entry => pure entry
    | none => throw (.missingEntry root)
  let output ← (program.emitWithTransform entry transformer (some bridge.cancellation)).1.mapError
    CompileError.transform
  let diagnostics :=
    Diagnostics.attachSources bridge.files (program.diagnostics ++ output.diagnostics)
  if output.skipped && Diagnostics.hasErrors diagnostics then throw (.compilation diagnostics)
  return ⟨output, diagnostics, bridge.console⟩

/-- Carries out an order. The backend may change the files of the session. -/
def compile (order : CompileOrder) (backend : Backend) (transformer : Program → Transformer) :
    StateM Session CompileReport := do
  let session ← get
  match order.approve session with
  | .error cause => return ⟨.error cause, none⟩
  | .ok root =>
    let options := order.effectiveOptions
    let consulted := (backend [root.text] options).run (.ofConfig session.config)
      { files := session.files }
    set { session with files := consulted.bridge.files }
    return ⟨conclude root consulted.value transformer consulted.bridge,
      some ⟨[root.text], options, consulted.exchanges⟩⟩

end CompileOrder
end Workbench
