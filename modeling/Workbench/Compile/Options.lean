import Workbench.Text.Pieces

/-!
# Compiler options and units

The options that matter outside the compiler: the language level, the library entries and whether
errors stop the output. They determine which library declaration files a program needs.

A unit is a named text for a language level. Units whose name ends in `.d.ts` only declare and
produce no output.
-/

namespace Workbench

/-- Language level that a program is compiled for, oldest first. -/
inductive LanguageTarget where
  | es3 | es5 | es2015 | es2016 | es2017 | es2018 | es2019 | es2020 | es2021 | es2022 | es2023
  | esnext
deriving DecidableEq, Repr

namespace LanguageTarget

/-- Every level, oldest first. -/
def all : List LanguageTarget :=
  [es3, es5, es2015, es2016, es2017, es2018, es2019, es2020, es2021, es2022, es2023, esnext]

/-- The spelling of the level as an option. -/
def name : LanguageTarget → String
  | es3 => "es3"
  | es5 => "es5"
  | es2015 => "es2015"
  | es2016 => "es2016"
  | es2017 => "es2017"
  | es2018 => "es2018"
  | es2019 => "es2019"
  | es2020 => "es2020"
  | es2021 => "es2021"
  | es2022 => "es2022"
  | es2023 => "es2023"
  | esnext => "esnext"

/-- The level that the option text spells. -/
def ofName? (text : String) : Option LanguageTarget := all.find? (·.name = text)

/-- The place of the level in the order of levels. -/
def rank (target : LanguageTarget) : Nat := all.idxOf target

/-- The file that bundles the default library of the level. -/
def defaultLibrary : LanguageTarget → String
  | es3 => "lib.d.ts"
  | es5 => "lib.d.ts"
  | es2015 => "lib.es6.d.ts"
  | target => "lib." ++ target.name ++ ".full.d.ts"

end LanguageTarget

/-- What a program is compiled with. -/
structure CompilerOptions where
  /-- Language level. -/
  target : LanguageTarget := .es5
  /-- Library entries; without any, the default library of the level is used. -/
  lib : List String := []
  /-- No library at all. -/
  noLib : Bool := false
  /-- No output when the program has errors. -/
  noEmitOnError : Bool := false
deriving DecidableEq, Repr

instance : Inhabited CompilerOptions := ⟨{}⟩

/-- The file of a library entry: `ES2015.Core` is in `lib.es2015.core.d.ts`. -/
def libraryFileName (entry : String) : String :=
  "lib." ++ String.ofList ((Text.trim entry.toList).map Char.toLower) ++ ".d.ts"

namespace CompilerOptions

/-- The library files that the options ask for by name. -/
def rootLibraries (options : CompilerOptions) : List String :=
  if options.noLib then []
  else if options.lib.isEmpty then [options.target.defaultLibrary]
  else options.lib.map libraryFileName

end CompilerOptions

/-- The part of the options that decides which libraries are put in place. -/
structure LibrarySelection where
  /-- Language level. -/
  target : LanguageTarget
  /-- Library entries. -/
  lib : List String
  /-- No library at all. -/
  noLib : Bool
deriving DecidableEq, Repr

/-- The library selection of the options. -/
def CompilerOptions.libraries (options : CompilerOptions) : LibrarySelection :=
  ⟨options.target, options.lib, options.noLib⟩

/-- A unit of a program. -/
structure SourceFile where
  /-- The name the program knows the unit by. -/
  name : String
  /-- Its text. -/
  text : String
  /-- The language level it is read at. -/
  target : LanguageTarget
deriving DecidableEq, Repr

namespace SourceFile

/-- The unit only declares. -/
def isDeclaration (unit : SourceFile) : Bool := ".d.ts".toList.isSuffixOf unit.name.toList

end SourceFile
end Workbench
