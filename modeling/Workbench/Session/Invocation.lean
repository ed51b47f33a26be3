import Workbench.Session.Basic

/-!
# Invocations

An invocation puts packages in place, and libraries too if it prepares a compilation. It waits for
every document that it needs, and other invocations may run meanwhile. So when a package or a set of
libraries has come, the invocation goes on with it only if it is still current. What became of a
package is recorded and never asked for again.
-/

namespace Workbench

/-- What an invocation is for. -/
inductive Purpose where
  /-- It prepares a compilation with the options, and the first failure ends it. -/
  | prepare (options : CompilerOptions)
  /-- It fetches packages ahead of time; failures are recorded at most. -/
  | preload
deriving DecidableEq, Repr

/-- The failure that ends the invocation when this has become of a package. -/
def Purpose.failure? (purpose : Purpose) (result : Except CompileError Unit) :
    Option CompileError :=
  match purpose, result with
  | prepare _, .error cause => some cause
  | _, _ => none

/-- An invocation that waits for a document. -/
inductive Invocation where
  /-- The preparation of a compilation waits for libraries; packages follow. -/
  | awaitLibraries (generation : Nat) (options : CompilerOptions) (load : LibraryLoad)
    (packages : List String)
  /-- An invocation waits for a package; more packages follow. -/
  | awaitPackage (generation : Nat) (purpose : Purpose) (name : String) (fetch : PackageFetch)
    (more : List String)
deriving DecidableEq, Repr

/-- What an invocation comes to: its number, unless a failure ended it. -/
abbrev InvocationOutcome := Except CompileError Nat

/-- The leave to compile that a preparation for the options gives. -/
def InvocationOutcome.ticket (outcome : InvocationOutcome) (options : CompilerOptions) :
    Except CompileError Ticket :=
  outcome.map fun generation => ⟨generation, options⟩

namespace Invocation

/-- The number of the invocation. -/
def generation : Invocation → Nat
  | awaitLibraries generation .. => generation
  | awaitPackage generation .. => generation

/-- What the invocation is for. -/
def purpose : Invocation → Purpose
  | awaitLibraries _ options .. => .prepare options
  | awaitPackage _ purpose .. => purpose

/-- What is recorded of a package. -/
def recorded? (session : Session) (name : String) : Option (Except CompileError Unit) :=
  (session.packages.get? name).map fun
    | .ready _ _ => .ok ()
    | .failed cause => .error (.fetch cause)

/-- Puts a fetched package in place. -/
def store : Except FetchError FetchedPackage → StateM Session PackageState
  | .error cause => return .failed cause
  | .ok package => do
    match ← Session.onFiles package.materialize with
    | .ok entry => return .ready entry package.version
    | .error cause => return .failed (.storage cause)

/-- Goes on with what a fetch came to: puts the package in place and records what became of it,
unless the invocation is no longer current. -/
def settlePackage (generation : Nat) (name : String)
    (fetched : Except FetchError FetchedPackage) : StateM Session (Except CompileError Unit) := do
  match (← get).checkCurrent generation with
  | .error cause => return .error cause
  | .ok () =>
    let state ← store fetched
    modify fun session => { session with packages := session.packages.insert name state }
    match state with
    | .ready _ _ => return .ok ()
    | .failed cause => return .error (.fetch cause)

/-- Goes on with what a load came to: puts the libraries in place, unless the invocation is no
longer current. -/
def settleLibraries (generation : Nat) (options : CompilerOptions)
    (loaded : Except FetchError LibraryFiles) : StateM Session (Except CompileError Unit) := do
  match loaded with
  | .error cause => return .error (.fetch cause)
  | .ok libraries =>
    match (← get).checkCurrent generation with
    | .error cause => return .error cause
    | .ok () =>
      return (← Session.install options.libraries libraries).mapError CompileError.file

/-- Ends an invocation that has seen to all its packages. A preparation has to be current still. -/
def finish (generation : Nat) (purpose : Purpose) (session : Session) : InvocationOutcome :=
  match purpose with
  | .preload => .ok generation
  | .prepare _ => (session.checkCurrent generation).map fun _ => generation

/-- Sees to a package as far as that goes without waiting. -/
def ensurePackage (generation : Nat) (name : String) :
    StateM Session (Progress PackageFetch (Except CompileError Unit)) := do
  let session ← get
  match recorded? session name with
  | some result => return .done result
  | none =>
    match PackageFetch.start session.registry name with
    | .waiting url fetch => return .waiting url fetch
    | .done fetched => return .done (← settlePackage generation name fetched)

/-- Sees to packages in order. -/
def seePackages (generation : Nat) (purpose : Purpose) :
    List String → StateM Session (Progress Invocation InvocationOutcome)
  | [] => return .done (finish generation purpose (← get))
  | name :: more => do
    match ← ensurePackage generation name with
    | .waiting url fetch => return .waiting url (.awaitPackage generation purpose name fetch more)
    | .done result =>
      match purpose.failure? result with
      | some cause => return .done (.error cause)
      | none => seePackages generation purpose more

/-- Goes on to the packages once it is known what became of the libraries. -/
def afterLibraries (generation : Nat) (options : CompilerOptions) (packages : List String)
    (loaded : Except FetchError LibraryFiles) :
    StateM Session (Progress Invocation InvocationOutcome) := do
  match ← settleLibraries generation options loaded with
  | .error cause => return .done (.error cause)
  | .ok () => seePackages generation (.prepare options) packages

/-- The selection needs no libraries, or they are in place. -/
def hasLibraries (session : Session) (selection : LibrarySelection) : Bool :=
  selection.noLib || session.installed.contains selection

/-- Begins to prepare a compilation. -/
def prepare (options : CompilerOptions) (packages : List String) :
    StateM Session (Progress Invocation InvocationOutcome) := do
  let generation ← Session.begin
  let session ← get
  if hasLibraries session options.libraries then
    seePackages generation (.prepare options) packages
  else
    match LibraryLoad.start session.site options with
    | .waiting url load =>
      return .waiting url (.awaitLibraries generation options load packages)
    | .done loaded => afterLibraries generation options packages loaded

/-- Begins to fetch packages ahead of time, as part of the invocation that is current now. -/
def preload (packages : List String) : StateM Session (Progress Invocation InvocationOutcome) := do
  seePackages (← get).generation .preload packages

/-- Goes on with what came of the request. -/
def resume (invocation : Invocation) (reply : Reply) :
    StateM Session (Progress Invocation InvocationOutcome) := do
  match invocation with
  | awaitLibraries generation options load packages =>
    match load.resume reply with
    | .waiting url load => return .waiting url (.awaitLibraries generation options load packages)
    | .done loaded => afterLibraries generation options packages loaded
  | awaitPackage generation purpose name fetch more =>
    match fetch.resume reply with
    | .waiting url fetch => return .waiting url (.awaitPackage generation purpose name fetch more)
    | .done fetched =>
      let result ← settlePackage generation name fetched
      match purpose.failure? result with
      | some cause => return .done (.error cause)
      | none => seePackages generation purpose more

/-- A bound on the number of documents that an invocation requests from stored responses. -/
def rounds (responses : CannedResponses) (purpose : Purpose) (packages : List String) : Nat :=
  let libraries := match purpose with
    | .prepare options => LibraryLoad.rounds responses options
    | .preload => 0
  libraries + PackageFetch.rounds * packages.length

end Invocation
end Workbench
