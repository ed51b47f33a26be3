import Workbench.FileSystem.Basic
import Workbench.Text.Pieces

/-!
# Diagnostics

What a program reports about its units: a severity, a message and where it applies. A list of
diagnostics keeps the order in which they were reported.
-/

namespace Workbench

/-- How serious a diagnostic is. -/
inductive Severity where
  /-- Stands in the way of a successful compilation. -/
  | error
  /-- Worth attention. -/
  | warning
  /-- For information. -/
  | message
deriving DecidableEq, Repr

namespace Severity

/-- The word used in reports. -/
def name : Severity → String
  | error => "error"
  | warning => "warning"
  | message => "message"

/-- Place in a report: errors come first and messages last. -/
def rank : Severity → Nat
  | error => 0
  | warning => 1
  | message => 2

end Severity

/-- One report about a program. -/
structure Diagnostic where
  /-- How serious it is. -/
  severity : Severity
  /-- Number of the kind of report. -/
  code : Option Nat := none
  /-- What is reported. -/
  message : String
  /-- The file concerned. -/
  path : Option String := none
  /-- Line in the file, counted from one. -/
  line : Option Nat := none
  /-- Column in the line, counted from one. -/
  column : Option Nat := none
  /-- The text of the line. -/
  sourceLine : Option String := none
deriving DecidableEq, Repr

namespace Diagnostic

/-- Number of the report about an import that leads to no module. -/
def missingModuleCode : Nat := 2307

/-- Number of the report about a file that does not exist. -/
def fileNotFoundCode : Nat := 6053

/-- The report about an import in `file` that leads to no module. -/
def missingModule (module file : String) : Diagnostic where
  severity := .error
  code := some missingModuleCode
  message := "Cannot find module '" ++ module ++ "' or its corresponding type declarations."
  path := some file

/-- The report about a file that does not exist. -/
def fileNotFound (file : String) : Diagnostic where
  severity := .error
  code := some fileNotFoundCode
  message := "File '" ++ file ++ "' not found."

/-- Takes the text of the reported line from the file system, when the report names a file and a
line and the file can be read. A line after the last one has no text. -/
def attachSource (fs : FileSystem) (diagnostic : Diagnostic) : Diagnostic :=
  match diagnostic.path, diagnostic.line with
  | some path, some line =>
    match fs.read path .utf8 with
    | .ok text =>
      { diagnostic with sourceLine := (Text.lines text.toList)[line - 1]?.map String.ofList }
    | .error _ => diagnostic
  | _, _ => diagnostic

end Diagnostic

/-- Reports in the order in which they were made. -/
abbrev Diagnostics := List Diagnostic

namespace Diagnostics

/-- The errors among the reports. -/
def errors (diagnostics : Diagnostics) : Diagnostics :=
  diagnostics.filter (·.severity = .error)

/-- The warnings among the reports. -/
def warnings (diagnostics : Diagnostics) : Diagnostics :=
  diagnostics.filter (·.severity = .warning)

/-- Some report is an error. -/
def hasErrors (diagnostics : Diagnostics) : Bool :=
  diagnostics.any (·.severity = .error)

/-- The first report with the code. -/
def findCode? (diagnostics : Diagnostics) (code : Nat) : Option Diagnostic :=
  diagnostics.find? (·.code = some code)

/-- Takes the text of every reported line from the file system. -/
def attachSources (fs : FileSystem) (diagnostics : Diagnostics) : Diagnostics :=
  diagnostics.map (·.attachSource fs)

end Diagnostics

/-- How many errors and warnings were reported. -/
structure DiagnosticSummary where
  /-- Number of errors. -/
  errors : Nat
  /-- Number of warnings. -/
  warnings : Nat
deriving DecidableEq, Repr

/-- Counts errors and warnings. -/
def Diagnostics.summary (diagnostics : Diagnostics) : DiagnosticSummary :=
  ⟨(errors diagnostics).length, (warnings diagnostics).length⟩

namespace DiagnosticSummary

/-- Errors and warnings together. -/
def total (summary : DiagnosticSummary) : Nat := summary.errors + summary.warnings

/-- Some error was reported. -/
def hasErrors (summary : DiagnosticSummary) : Bool := 0 < summary.errors

/-- Neither errors nor warnings were reported. -/
def isEmpty (summary : DiagnosticSummary) : Bool := summary.total = 0

/-- A count with its noun, which takes an `s` except after one. -/
def counted (count : Nat) (noun : String) : String :=
  toString count ++ " " ++ noun ++ (if count = 1 then "" else "s")

/-- The counts in words, leaving out what was not reported. -/
def text (summary : DiagnosticSummary) : String :=
  match summary.errors, summary.warnings with
  | 0, 0 => "no diagnostics"
  | errors, 0 => counted errors "error"
  | 0, warnings => counted warnings "warning"
  | errors, warnings => counted errors "error" ++ ", " ++ counted warnings "warning"

end DiagnosticSummary
end Workbench
