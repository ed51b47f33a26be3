import Workbench.Compile.Transform

/-!
# Emissions

A program writes its output as an emission: a computation that writes files, has units transformed,
looks for a request to stop and may make one itself. Running it needs the hooks and the token that
it is given.
-/

namespace Workbench

/-- A file of the output. -/
structure EmittedFile where
  /-- File name. -/
  name : String
  /-- Content. -/
  text : String
deriving DecidableEq, Repr

/-- A computation that produces output. -/
inductive Emission (α : Type) where
  /-- It has its value. -/
  | done (value : α)
  /-- It gives up. -/
  | fail (cause : TransformError)
  /-- It writes a file. -/
  | write (file : EmittedFile) (next : Emission α)
  /-- It asks for a stop. -/
  | exit (code : Int) (next : Emission α)
  /-- It looks for the code of a request to stop. -/
  | look (next : Option Int → Emission α)
  /-- It has all hooks applied to a unit. -/
  | transform (unit : SourceFile) (next : Except TransformError SourceFile → Emission α)

/-- What an emission works with. -/
structure EmissionState where
  /-- The hooks that units go through, in order. -/
  hooks : List Hook
  /-- The token that the emission was given. -/
  token : Option Cancellation
  /-- The files written so far. -/
  files : List EmittedFile := []

namespace Emission

variable {α β : Type}

/-- Goes on with the value. -/
def bind : Emission α → (α → Emission β) → Emission β
  | done value, more => more value
  | fail cause, _ => fail cause
  | write file next, more => write file (next.bind more)
  | exit code next, more => exit code (next.bind more)
  | look next, more => look fun code => (next code).bind more
  | transform unit next, more => transform unit fun result => (next result).bind more

instance : Monad Emission where
  pure := done
  bind := bind

/-- Gives up if a stop was requested. -/
def checkpoint : Emission Unit :=
  look fun
    | some code => fail (.cancelled code)
    | none => done ()

/-- Writes a file. -/
def writeFile (file : EmittedFile) : Emission Unit := write file (done ())

/-- Has all hooks applied to a unit and gives up if one of them fails. -/
def transformed (unit : SourceFile) : Emission SourceFile :=
  transform unit fun
    | .ok result => done result
    | .error cause => fail cause

/-- Has all hooks applied a number of times, each time to the last result. -/
def transformedTimes : Nat → SourceFile → Emission SourceFile
  | 0, unit => done unit
  | times + 1, unit => do transformedTimes times (← transformed unit)

/-- Runs the emission. -/
def run : Emission α → EmissionState → Except TransformError α × EmissionState
  | done value, state => (.ok value, state)
  | fail cause, state => (.error cause, state)
  | write file next, state => next.run { state with files := state.files ++ [file] }
  | exit code next, state => next.run { state with token := state.token.map (·.cancel code) }
  | look next, state => (next (state.token.bind (·.code))).run state
  | transform unit next, state =>
    let (result, hooks) := Hook.callAll state.token state.hooks unit
    (next result).run { state with hooks }

end Emission
end Workbench
