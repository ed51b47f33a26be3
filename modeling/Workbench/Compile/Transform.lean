import Workbench.Compile.Options

/-!
# Transforming units

A transformer changes units right before their output is written. During an emission it works as a
hook. A guarded hook refuses to run twice on one unit, and to run at all after a stop was requested.
A stop is requested with an exit code, and only the first code counts.
-/

namespace Workbench

/-- Whether a stop has been requested. -/
structure Cancellation where
  /-- The code of the first request. -/
  code : Option Int := none
deriving DecidableEq, Repr

namespace Cancellation

instance : Inhabited Cancellation := ⟨{}⟩

/-- Requests a stop; a request that was made before stands. -/
def cancel (cancellation : Cancellation) (code : Int) : Cancellation :=
  ⟨cancellation.code <|> some code⟩

/-- A stop has been requested. -/
def isCancelled (cancellation : Cancellation) : Bool := cancellation.code.isSome

/-- How the state is shown to developers. -/
def summary (cancellation : Cancellation) : String :=
  let state := match cancellation.code with
    | some code => toString code
    | none => "<uninit>"
  "CancellationToken \x7b code: OnceLock(" ++ state ++ ") \x7d"

end Cancellation

/-- Why a unit was not transformed. -/
inductive TransformError where
  /-- The transformer refused the unit. -/
  | failed (unit reason : String)
  /-- The unit had been given to the transformer before. -/
  | repeated (unit : String)
  /-- A stop was requested. -/
  | cancelled (code : Int)
deriving DecidableEq, Repr

namespace TransformError

/-- The kind of failure. -/
def kind : TransformError → String
  | failed _ _ => "Failed"
  | repeated _ => "Repeated"
  | cancelled _ => "Cancelled"

/-- The wording of the failure. -/
def message : TransformError → String
  | failed unit reason => "transform failed in '" ++ unit ++ "': " ++ reason
  | repeated unit => "transform invoked more than once for '" ++ unit ++ "'"
  | cancelled code => "emit cancelled with exit code " ++ toString code

end TransformError

/-- Refuses once a stop was requested. -/
def Cancellation.check (cancellation : Cancellation) : Except TransformError Unit :=
  match cancellation.code with
  | some code => .error (.cancelled code)
  | none => .ok ()

/-- A change of units. It may take account of what it was given before in the same emission. -/
structure Transformer where
  /-- What becomes of a unit after the units that were given before it. -/
  apply : List SourceFile → SourceFile → Except TransformError SourceFile

namespace Transformer

/-- The transformer that treats every unit by itself. -/
def ofUnit (apply : SourceFile → Except TransformError SourceFile) : Transformer :=
  ⟨fun _ => apply⟩

end Transformer

/-- A transformer at work in one emission. -/
structure Hook where
  /-- The transformer. -/
  transformer : Transformer
  /-- It is watched over. -/
  guarded : Bool
  /-- The units that the transformer was given, in order. -/
  given : List SourceFile := []

namespace Hook

/-- Gives the unit to the transformer. -/
def invoke (hook : Hook) (unit : SourceFile) : Except TransformError SourceFile × Hook :=
  (hook.transformer.apply hook.given unit, { hook with given := hook.given ++ [unit] })

/-- Calls the hook on a unit while the emission's token, if it has one, is in the given state. -/
def call (token : Option Cancellation) (hook : Hook) (unit : SourceFile) :
    Except TransformError SourceFile × Hook :=
  if hook.guarded then
    match (token.getD {}).check with
    | .error cause => (.error cause, hook)
    | .ok () =>
      if unit.name ∈ hook.given.map (·.name) then (.error (.repeated unit.name), hook)
      else hook.invoke unit
  else hook.invoke unit

/-- Calls hooks in order, each on the result of the one before, up to the first failure. -/
def callAll (token : Option Cancellation) :
    List Hook → SourceFile → Except TransformError SourceFile × List Hook
  | [], unit => (.ok unit, [])
  | hook :: more, unit =>
    match hook.call token unit with
    | (.error cause, hook) => (.error cause, hook :: more)
    | (.ok unit, hook) =>
      let (result, more) := callAll token more unit
      (result, hook :: more)

/-- How the hooks of an emission are shown to developers. -/
def summary (hooks : List Hook) : String :=
  "CustomTransformers \x7b before: " ++ toString hooks.length ++ " \x7d"

end Hook
end Workbench
