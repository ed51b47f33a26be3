import Workbench.Compile.Program

/-!
# Scripted backends

A backend that does what a script says: it makes given requests to the host and gives a program with
given units, reports and output. It serves to try out everything around a compiler.
-/

namespace Workbench

/-- What a backend is to do. -/
structure BackendScript where
  /-- The requests to the host, in order. -/
  requests : List HostRequest := []
  /-- Load the root units after that. -/
  loadRoots : Bool := true
  /-- Names and texts of further units. -/
  units : List (String × String) := []
  /-- The program's reports. -/
  diagnostics : Diagnostics := []
  /-- How often a unit goes through the hooks. -/
  passes : Nat := 1
  /-- Look for a request to stop before every unit. -/
  check : Bool := false
  /-- The names of units to be emitted after the target. -/
  also : List String := []
  /-- Files to be written after all units. -/
  files : List EmittedFile := []
  /-- What the emission reports. -/
  result : EmitResult := {}
deriving DecidableEq, Repr

namespace BackendScript

/-- Emits a unit. -/
def emitUnit (script : BackendScript) (unit : SourceFile) : Emission Unit := do
  if script.check then Emission.checkpoint
  let result ← Emission.transformedTimes script.passes unit
  Emission.writeFile ⟨result.name, result.text⟩

/-- The program with the units. -/
def program (script : BackendScript) (units : List SourceFile) : Program where
  unit? name := units.find? (·.name = name)
  diagnostics := script.diagnostics
  emit target := do
    let also := script.also.filterMap fun name => units.find? (·.name = name)
    (target.toList ++ also).forM script.emitUnit
    script.files.forM Emission.writeFile
    return script.result

/-- Loads the units of names. -/
def loadUnits (target : LanguageTarget) : List String → Dialogue (List SourceFile)
  | [] => pure []
  | name :: more => do
    let loaded ← Dialogue.request (.loadUnit name target)
    return loaded.unit :: (← loadUnits target more)

/-- Builds the program. -/
def backend (script : BackendScript) : Backend := fun roots options => do
  script.requests.forM fun request => do
    let _ ← Dialogue.request request
  let loaded ← if script.loadRoots then loadUnits options.target roots else pure []
  let given := script.units.map fun unit => ⟨unit.1, unit.2, options.target⟩
  return script.program (loaded ++ given)

end BackendScript
end Workbench
