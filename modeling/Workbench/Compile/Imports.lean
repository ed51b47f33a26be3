import Workbench.Compile.Program

/-!
# A compiler that follows imports

A small backend that understands just enough of a source text to work with a host: it loads the
default libraries and the roots, follows the imports of the roots to packages, reports what it does
not find, and writes the transformed text of every unit as its output.
-/

namespace Workbench

/-- An import in a source text. -/
structure ImportSite where
  /-- The imported module. -/
  module : String
  /-- Line, counted from one. -/
  line : Nat
  /-- Place of the opening quotation mark in the line, counted from one in UTF-8 bytes. -/
  column : Nat
deriving DecidableEq, Repr

namespace ImportSite

/-- The words that a quoted module name follows. -/
def keywords : List (List Char) := ["from ".toList, "import ".toList]

/-- The import after the first occurrence of the keyword in a line. -/
def after? (line : List Char) (number : Nat) (keyword : List Char) : Option ImportSite := do
  let (before, rest) ← Text.cut? keyword line
  let module ← Text.quoted? rest
  return ⟨String.ofList module, number,
    (String.ofList before).utf8ByteSize + keyword.length + 1⟩

/-- The imports in a line. -/
def inLine (line : List Char) (number : Nat) : List ImportSite :=
  keywords.filterMap (after? line number)

/-- The imports in lines that are counted from `number`. -/
def inLines (number : Nat) : List (List Char) → List ImportSite
  | [] => []
  | line :: more => inLine line number ++ inLines (number + 1) more

/-- The imports in a text. -/
def all (text : String) : List ImportSite := inLines 1 (Text.lines text.toList)

end ImportSite

/-- The settings of the compiler. -/
structure ImportCompiler where
  /-- Every unit goes through the hooks twice. -/
  transformTwice : Bool := false
  /-- What is printed when a program has been built. -/
  console : List String := []
  /-- The code of the stop that is requested then. -/
  exitCode : Option Int := none
deriving DecidableEq, Repr

namespace ImportCompiler

/-- What has been loaded and reported so far. -/
structure Draft where
  /-- Units in the order in which they were loaded. -/
  units : List SourceFile := []
  /-- Reports in the order in which they were made. -/
  diagnostics : Diagnostics := []
deriving DecidableEq, Repr

namespace Draft

/-- The unit of a name. -/
def unit? (draft : Draft) (name : String) : Option SourceFile :=
  draft.units.find? (·.name = name)

/-- The draft with another report. -/
def report (draft : Draft) (diagnostic : Diagnostic) : Draft :=
  { draft with diagnostics := draft.diagnostics ++ [diagnostic] }

/-- Loads a unit unless it is there. One that cannot be read is reported and stays empty. -/
def load (draft : Draft) (name : String) (target : LanguageTarget) : Dialogue Draft :=
  if (draft.unit? name).isSome then pure draft
  else do
    let loaded ← Dialogue.request (.loadUnit name target)
    let draft := if loaded.report.isSome then draft.report (.fileNotFound name) else draft
    return { draft with units := draft.units ++ [loaded.unit] }

end Draft

/-- The paths of the default libraries of the options. -/
def libraryPaths (options : CompilerOptions) : Dialogue (List String) :=
  if options.noLib then pure []
  else if options.lib.isEmpty then do
    return [← Dialogue.request (.defaultLibrary options)]
  else do
    let location ← Dialogue.request .libraryLocation
    return options.lib.map fun entry => location ++ libraryFileName entry

/-- Loads a library file, or reports that it does not exist. -/
def loadLibrary (options : CompilerOptions) (draft : Draft) (path : String) : Dialogue Draft := do
  if ← Dialogue.request (.fileExists path) then draft.load path options.target
  else return draft.report (.fileNotFound path)

/-- Loads the module that an import leads to, or reports that it leads to none. -/
def follow (options : CompilerOptions) (root : String) (draft : Draft)
    (found : ImportSite × Option ResolvedModule) : Dialogue Draft := do
  let (site, resolved) := found
  let missing := draft.report
    { Diagnostic.missingModule site.module root with line := site.line, column := site.column }
  match resolved with
  | none => return missing
  | some module =>
    if ← Dialogue.request (.fileExists module.file) then draft.load module.file options.target
    else return missing

/-- Loads a root and what it imports. -/
def loadRoot (options : CompilerOptions) (draft : Draft) (root : String) : Dialogue Draft := do
  let draft ← draft.load root options.target
  match draft.unit? root with
  | none => return draft
  | some unit =>
    let sites := ImportSite.all unit.text
    let resolved ← Dialogue.request (.resolveModules (sites.map (·.module)) root)
    (sites.zip resolved).foldlM (follow options root) draft

/-- The name of a unit's output. -/
def outputName (name : String) : String :=
  let stem := Text.dropEnding? ".tsx".toList name.toList <|>
    Text.dropEnding? ".ts".toList name.toList
  String.ofList (stem.getD name.toList) ++ ".js"

/-- Writes the output of a unit. Units that only declare have none. -/
def emitUnit (passes : Nat) (unit : SourceFile) : Emission Unit := do
  Emission.checkpoint
  if unit.isDeclaration then return
  let result ← Emission.transformedTimes passes unit
  Emission.writeFile ⟨outputName result.name, result.text⟩

/-- The program that has been drafted. -/
def program (compiler : ImportCompiler) (roots : List String) (options : CompilerOptions)
    (draft : Draft) : Program where
  unit? := draft.unit?
  diagnostics := draft.diagnostics
  emit target :=
    if options.noEmitOnError && draft.diagnostics.hasErrors then
      .done { skipped := true }
    else do
      let units := match target with
        | some unit => [unit]
        | none => roots.filterMap draft.unit?
      units.forM (emitUnit (if compiler.transformTwice then 2 else 1))
      return {}

/-- Builds a program. -/
def backend (compiler : ImportCompiler) : Backend := fun roots options => do
  let libraries ← libraryPaths options
  let draft ← libraries.foldlM (loadLibrary options) {}
  let draft ← roots.foldlM (loadRoot options) draft
  compiler.console.forM fun line => Dialogue.request (.write line)
  if let some code := compiler.exitCode then
    Dialogue.request (.exit code)
  return compiler.program roots options draft

end ImportCompiler
end Workbench
