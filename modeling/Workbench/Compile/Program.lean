import Workbench.Compile.Emission
import Workbench.Diagnostic.Basic
import Workbench.Host.Dialogue

/-!
# Programs

A backend builds a program in a dialogue with the host. A program knows its units, has reports about
them, and can be emitted. `emitWithTransform` emits with a single guarded transformer and collects
what is written.
-/

namespace Workbench

/-- What an emission reports besides the files. -/
structure EmitResult where
  /-- Nothing was generated. -/
  skipped : Bool := false
  /-- Reports made while emitting. -/
  diagnostics : Diagnostics := []
deriving DecidableEq, Repr

/-- A program that has been built. -/
structure Program where
  /-- The unit of a name. -/
  unit? : String → Option SourceFile
  /-- Reports made while building. -/
  diagnostics : Diagnostics
  /-- The emission of one unit, or of all root units. -/
  emit : Option SourceFile → Emission EmitResult

/-- What builds programs: from root names and options, in a dialogue with the host. -/
abbrev Backend := List String → CompilerOptions → Dialogue Program

/-- Everything one emission produced. -/
structure EmitOutput where
  /-- Files in the order in which they were written. -/
  files : List EmittedFile := []
  /-- Nothing was generated. -/
  skipped : Bool := false
  /-- Reports made while emitting. -/
  diagnostics : Diagnostics := []
deriving DecidableEq, Repr

namespace EmitOutput

/-- The text of the first file of the name. -/
def text? (output : EmitOutput) (name : String) : Option String :=
  (output.files.find? (·.name = name)).map (·.text)

/-- The file names in the order in which they were written. -/
def names (output : EmitOutput) : List String := output.files.map (·.name)

end EmitOutput

namespace Program

/-- Emits a unit, or all root units, with hooks and a token. -/
def emitWith (program : Program) (target : Option SourceFile) (hooks : List Hook)
    (token : Option Cancellation) : Except TransformError EmitResult × EmissionState :=
  (program.emit target).run { hooks, token }

/-- Emits a unit with the transformer made for the program as its only hook, which is guarded. The
files of an emission that fails are not in the outcome. -/
def emitWithTransform (program : Program) (entry : SourceFile)
    (transformer : Program → Transformer) (token : Option Cancellation) :
    Except TransformError EmitOutput × EmissionState :=
  let (outcome, state) :=
    program.emitWith (some entry) [{ transformer := transformer program, guarded := true }] token
  (outcome.map fun result => ⟨state.files, result.skipped, result.diagnostics⟩, state)

end Program
end Workbench
