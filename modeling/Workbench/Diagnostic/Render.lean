import Workbench.Diagnostic.Basic

/-!
# Rendering diagnostics

A report is rendered as a single line or with the reported line and a caret under the column. The
parts that carry the severity can be coloured by terminal escape sequences. In a list the errors
come first, then the warnings, then the messages, each group as it was reported, with an empty
line between two reports. `format` puts such a list into one text, and `display` hands it out in
parts.
-/

namespace Workbench

/-- Layout of a rendered report. -/
inductive DiagnosticStyle where
  /-- A heading, the place and an excerpt of the source. -/
  | rich
  /-- One line. -/
  | short
deriving DecidableEq, Repr

/-- How reports are rendered. -/
structure RenderOptions where
  /-- Colour the parts that carry the severity. -/
  colored : Bool := true
  /-- Layout. -/
  style : DiagnosticStyle := .rich
  /-- Show the reported line when it is known. -/
  snippets : Bool := true
deriving DecidableEq, Repr

namespace RenderOptions

/-- The default layout without colours. -/
def plain : RenderOptions := { colored := false }

/-- One line for each report. -/
def short : RenderOptions := { style := .short, snippets := false }

end RenderOptions

namespace Severity

/-- The sequence that starts the colour of the severity: red, yellow or cyan. -/
def colorStart : Severity → String
  | error => "\x1b[31m"
  | warning => "\x1b[33m"
  | message => "\x1b[36m"

/-- The sequence that returns to the default colour. -/
def colorEnd : String := "\x1b[39m"

/-- The text, coloured for the severity when colours are on. -/
def paint (severity : Severity) (colored : Bool) (text : String) : String :=
  if colored then severity.colorStart ++ text ++ colorEnd else text

end Severity

namespace Diagnostic

/-- Severity and code. -/
def label (diagnostic : Diagnostic) : String :=
  match diagnostic.code with
  | some code => diagnostic.severity.name ++ " TS" ++ toString code
  | none => diagnostic.severity.name

/-- File, line and column, as far as they are known; a column alone is not shown. -/
def location? (diagnostic : Diagnostic) : Option String :=
  diagnostic.path.map fun path =>
    match diagnostic.line, diagnostic.column with
    | some line, some column => path ++ ":" ++ toString line ++ ":" ++ toString column
    | some line, none => path ++ ":" ++ toString line
    | none, _ => path

/-- A run of spaces. -/
def spaces (count : Nat) : String := String.ofList (List.replicate count ' ')

/-- The single line of the short layout. -/
def shortLine (options : RenderOptions) (diagnostic : Diagnostic) : String :=
  let label := diagnostic.severity.paint options.colored diagnostic.label
  match diagnostic.location? with
  | some location => location ++ " - " ++ label ++ ": " ++ diagnostic.message
  | none => label ++ ": " ++ diagnostic.message

/-- The lines that show the source: the reported line between bars and the caret under its
column. -/
def snippetLines (options : RenderOptions) (diagnostic : Diagnostic) : List String :=
  match options.snippets, diagnostic.sourceLine with
  | true, some source =>
    let paint := diagnostic.severity.paint options.colored
    let number := toString (diagnostic.line.getD 0)
    let margin := spaces number.length ++ " " ++ paint "│"
    [margin, paint number ++ " " ++ paint "│" ++ " " ++ source] ++
      match diagnostic.column with
      | some column => [margin ++ " " ++ spaces (column - 1) ++ paint "^"]
      | none => []
  | _, _ => []

/-- The lines of the rich layout: heading, place and source. -/
def richLines (options : RenderOptions) (diagnostic : Diagnostic) : List String :=
  let paint := diagnostic.severity.paint options.colored
  let heading := paint diagnostic.label ++ ": " ++ diagnostic.message
  match diagnostic.location? with
  | none => [heading]
  | some location =>
    let width := (toString (diagnostic.line.getD 0)).length
    heading :: (spaces width ++ " " ++ paint "┌─" ++ " " ++ location) ::
      snippetLines options diagnostic

/-- The report as text; every line is terminated. -/
def render (options : RenderOptions) (diagnostic : Diagnostic) : String :=
  String.join <| List.map (· ++ "\n") <|
    match options.style with
    | .short => [shortLine options diagnostic]
    | .rich => richLines options diagnostic

end Diagnostic

namespace Diagnostics

/-- The reports in the order of their severity, otherwise as they were made. -/
def ordered (diagnostics : Diagnostics) : Diagnostics :=
  diagnostics.mergeSort fun left right => left.severity.rank ≤ right.severity.rank

/-- All reports as text, the more serious first. -/
def render (options : RenderOptions) (diagnostics : Diagnostics) : String :=
  String.intercalate "\n" ((ordered diagnostics).map (Diagnostic.render options))

/-- All reports put one by one behind the text so far, with a line feed behind each but the last. -/
def format (options : RenderOptions) (diagnostics : Diagnostics) : String :=
  let sorted := ordered diagnostics
  sorted.zipIdx.foldl (fun output (diagnostic, index) =>
    let output := output ++ diagnostic.render options
    if index < sorted.length - 1 then output.push '\n' else output) ""

/-- The texts that are handed out one by one where the collection is shown. -/
def chunks (options : RenderOptions) (diagnostics : Diagnostics) : List String :=
  let sorted := ordered diagnostics
  sorted.zipIdx.flatMap fun (diagnostic, index) =>
    diagnostic.render options :: if index < sorted.length - 1 then ["\n"] else []

/-- The collection as it is shown. -/
def display (options : RenderOptions) (diagnostics : Diagnostics) : String :=
  String.join (chunks options diagnostics)

end Diagnostics
end Workbench
