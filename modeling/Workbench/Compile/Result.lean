import Workbench.Compile.Program
import Workbench.Diagnostic.Render
import Workbench.Remote.Response

/-!
# Results of compiling

What a compilation gives, and the causes for which there is none.
-/

namespace Workbench

/-- Why there is no result. -/
inductive CompileError where
  /-- The program has errors and was not emitted. -/
  | compilation (diagnostics : Diagnostics)
  /-- A package or a library is not to be had. -/
  | fetch (cause : FetchError)
  /-- A unit could not be transformed. -/
  | transform (cause : TransformError)
  /-- A file operation was refused. -/
  | file (cause : FileError)
  /-- A newer invocation has started. -/
  | superseded (generation : Nat)
  /-- The root is not a unit of the program. -/
  | missingEntry (path : Path)
  /-- The libraries of the options have not been put in place. -/
  | librariesNotPrepared (target : LanguageTarget)
deriving DecidableEq

namespace CompileError

/-- The kind of failure. -/
def kind : CompileError → String
  | compilation _ => "Compilation"
  | fetch cause => "Fetch." ++ cause.kind
  | transform cause => "Transform." ++ cause.kind
  | file cause => "Vfs." ++ cause.kind
  | superseded _ => "Superseded"
  | missingEntry _ => "MissingEntry"
  | librariesNotPrepared _ => "LibrariesNotPrepared"

/-- The wording of the failure. -/
def message : CompileError → String
  | compilation diagnostics => diagnostics.render {}
  | fetch cause => cause.message
  | transform cause => cause.message
  | file cause => cause.message
  | superseded generation =>
    "invocation " ++ toString generation ++ " was superseded by a newer one"
  | missingEntry path => "entry file '" ++ path.text ++ "' is not part of the program"
  | librariesNotPrepared target =>
    "default libraries for target '" ++ target.name ++ "' were not prepared for this invocation"

/-- Nothing can be made of the compilation. Only reports without errors are no such failure. -/
def isFatal : CompileError → Bool
  | compilation diagnostics => diagnostics.hasErrors
  | _ => true

end CompileError

/-- What a compilation gives. -/
structure CompileResult where
  /-- The output of the root. -/
  output : EmitOutput
  /-- The reports of the program and of its emission, with the reported lines. -/
  diagnostics : Diagnostics
  /-- What the program printed. -/
  console : String
deriving DecidableEq, Repr

end Workbench
