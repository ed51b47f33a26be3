import Workbench.Proofs.Compile.Checks
import Workbench.Proofs.Compile.Imports
import Workbench.Proofs.Compile.Repetition
import Workbench.Proofs.Diagnostic.Rendering
import Workbench.Proofs.Path.Canonical
import Workbench.Proofs.Session.LiveSession
import Workbench.Proofs.Text.Lines

/-!
# Where the caret points

The report about an import that leads to no module shows the line of the root that the import is in,
with a caret below. The scanner counts the column in bytes and the renderer spends one space on each
column, so the caret is below the opening quotation mark when every character before the mark is
ASCII, and further to the right otherwise.
-/

namespace Workbench

/-! ## Places in a line -/

namespace Text

theorem utf8ByteSize_ofList_cons (c : Char) (characters : List Char) :
    (String.ofList (c :: characters)).utf8ByteSize =
      c.utf8Size + (String.ofList characters).utf8ByteSize := by
  rw [← List.singleton_append, String.ofList_append, String.utf8ByteSize_append,
    ← String.singleton_eq_ofList, String.utf8ByteSize_singleton]

theorem length_le_utf8ByteSize (characters : List Char) :
    characters.length ≤ (String.ofList characters).utf8ByteSize := by
  induction characters with
  | nil => exact Nat.zero_le _
  | cons c characters induction =>
      have positive := c.utf8Size_pos
      rw [utf8ByteSize_ofList_cons, List.length_cons]
      omega

theorem utf8ByteSize_eq_length_iff {characters : List Char} :
    (String.ofList characters).utf8ByteSize = characters.length ↔
      ∀ c ∈ characters, c.toNat < 128 := by
  induction characters with
  | nil => simp
  | cons c characters induction =>
      have positive := c.utf8Size_pos
      have enough := length_le_utf8ByteSize characters
      have single : c.utf8Size = 1 ↔ c.toNat < 128 :=
        Char.utf8Size_eq_one_iff.trans Nat.lt_succ_iff.symm
      rw [List.forall_mem_cons, ← induction, ← single, utf8ByteSize_ofList_cons, List.length_cons]
      omega

end Text

namespace ImportSite

variable {site : ImportSite} {line : List Char} {number : Nat}

/-- The import is in the line: its module stands between quotation marks, a keyword ends what is
before the first of them, and the column counts the bytes up to it. -/
structure Opens (site : ImportSite) (line before : List Char) : Prop where
  quoted : ∃ mark ∈ ['"', '\''], ∃ after, mark ∉ site.module.toList ∧
    line = before ++ mark :: (site.module.toList ++ mark :: after)
  keyword : ∃ keyword ∈ keywords, keyword <:+ before
  column : site.column = (String.ofList before).utf8ByteSize + 1

theorem exists_opens_of_mem_inLine (member : site ∈ inLine line number) :
    site.line = number ∧ ∃ before, site.Opens line before := by
  obtain ⟨keyword, known, found⟩ := List.mem_filterMap.mp member
  simp only [after?, Option.bind_eq_bind, Option.bind_eq_some_iff, Option.pure_def,
    Option.some.injEq] at found
  obtain ⟨⟨front, rest⟩, cut, quoted, found, rfl⟩ := found
  obtain ⟨mark, isMark, after, absent, rfl⟩ := Text.quoted?_eq_some_iff.mp found
  have bytes : (String.ofList keyword).utf8ByteSize = keyword.length := by
    simp only [keywords, List.mem_cons, List.not_mem_nil, or_false] at known
    rcases known with rfl | rfl <;> decide
  refine ⟨rfl, front ++ keyword, ⟨mark, isMark, after, ?_, ?_⟩,
    ⟨keyword, known, List.suffix_append front keyword⟩, ?_⟩
  · simpa using absent
  · simp [Text.eq_append_of_cut? cut]
  · rw [String.ofList_append, String.utf8ByteSize_append, bytes]

theorem exists_line_of_mem_inLines {lines : List (List Char)} (member : site ∈ inLines number lines) :
    number ≤ site.line ∧ ∃ line, lines[site.line - number]? = some line ∧
      ∃ before, site.Opens line before := by
  induction lines generalizing number with
  | nil => exact nomatch member
  | cons line lines induction =>
      rcases List.mem_append.mp member with here | later
      · obtain ⟨rfl, opens⟩ := exists_opens_of_mem_inLine here
        exact ⟨le_rfl, line, by simp, opens⟩
      · obtain ⟨above, other, there, opens⟩ := induction later
        have below : site.line - number = site.line - (number + 1) + 1 := by omega
        exact ⟨by omega, other, by rw [below, List.getElem?_cons_succ, there], opens⟩

theorem exists_line_of_mem_all {text : String} (member : site ∈ all text) :
    1 ≤ site.line ∧ ∃ line, (Text.lines text.toList)[site.line - 1]? = some line ∧
      ∃ before, site.Opens line before :=
  exists_line_of_mem_inLines member

end ImportSite

/-! ## The rendered line -/

namespace Diagnostic

variable {diagnostic : Diagnostic} {path source : String} {line column : Nat}

/-- In the plain rendering the line is printed last but one, and the only caret of the last line is
under the character of it at the place. -/
def PointsAt (diagnostic : Diagnostic) (line : List Char) (place : Nat) : Prop :=
  ∃ above margin indent, Text.pieces '\n' (diagnostic.render .plain).toList =
      above ++ [margin ++ line, indent ++ ['^'], []] ∧
    '^' ∉ indent ∧ indent.length = margin.length + place

/-- What is printed before the reported line. -/
def margin (line : Nat) : List Char := (toString line ++ " │ ").toList

/-- What is printed before the caret. -/
def indent (line column : Nat) : List Char :=
  (spaces (toString line).length ++ " │ " ++ spaces (column - 1)).toList

theorem length_indent (line column : Nat) :
    (indent line column).length = (margin line).length + (column - 1) := by
  simp only [indent, margin, spaces, String.toList_append, List.length_append,
    String.toList_ofList, List.length_replicate, String.length_toList]

theorem caret_not_mem_indent (line column : Nat) : '^' ∉ indent line column := by
  have blank : ∀ count, '^' ∉ (spaces count).toList := not_mem_spaces (by decide)
  simp only [indent, String.toList_append, List.mem_append, not_or]
  exact ⟨⟨blank _, by decide⟩, blank _⟩

/-- The plain rendering of a report with its line and column ends with the line and the caret. -/
theorem exists_render_plain (located : diagnostic.path = some path)
    (numbered : diagnostic.line = some line) (placed : diagnostic.column = some column)
    (shown : diagnostic.sourceLine = some source) :
    ∃ front, (diagnostic.render .plain).toList =
      front ++ '\n' :: ((margin line ++ source.toList) ++ '\n' ::
        ((indent line column ++ ['^']) ++ ['\n'])) := by
  obtain ⟨heading, place, bar, rich⟩ : ∃ heading place bar, diagnostic.richLines .plain =
      [heading, place, bar, toString line ++ " │ " ++ source,
        spaces (toString line).length ++ " │ " ++ spaces (column - 1) ++ "^"] := by
    simp [richLines, location?, located, snippetLines, RenderOptions.plain, shown, placed, numbered,
      Severity.paint, String.append_assoc]
  refine ⟨(heading ++ "\n" ++ place ++ "\n" ++ bar).toList, ?_⟩
  rw [render]
  simp only [RenderOptions.plain] at rich ⊢
  simp [rich, margin, indent]

theorem pointsAt_iff (located : diagnostic.path = some path)
    (numbered : diagnostic.line = some line) (placed : diagnostic.column = some column)
    (shown : diagnostic.sourceLine = some source) (single : '\n' ∉ source.toList) {place : Nat} :
    diagnostic.PointsAt source.toList place ↔ column - 1 = place := by
  obtain ⟨front, rendered⟩ := exists_render_plain located numbered placed shown
  have printed : '\n' ∉ margin line ++ source.toList := by
    rw [margin, String.toList_append]
    simp only [List.mem_append, not_or]
    exact ⟨⟨not_mem_toString (by decide) line, by decide⟩, single⟩
  have marked : '\n' ∉ indent line column ++ ['^'] := by
    have blank : ∀ count, '\n' ∉ (spaces count).toList := not_mem_spaces (by decide)
    simp only [indent, String.toList_append, List.mem_append, not_or]
    exact ⟨⟨⟨blank _, by decide⟩, blank _⟩, by decide⟩
  have pieces : Text.pieces '\n' (diagnostic.render .plain).toList = Text.pieces '\n' front ++
      [margin line ++ source.toList, indent line column ++ ['^'], []] := by
    rw [rendered, Text.pieces_append, Text.pieces_append, Text.pieces_append,
      Text.pieces_of_not_mem printed, Text.pieces_of_not_mem marked]
    rfl
  have columns := length_indent line column
  constructor
  · rintro ⟨above, margin', indent', same, _, under⟩
    rw [pieces] at same
    have lines := List.append_inj_right' same (by simp only [List.length_cons])
    simp only [List.cons.injEq, List.append_cancel_right_eq, and_true] at lines
    rw [← lines.1, ← lines.2] at under
    omega
  · rintro rfl
    exact ⟨Text.pieces '\n' front, margin line, indent line column, pieces,
      caret_not_mem_indent line column, columns⟩

end Diagnostic

namespace ImportSite

/-- The report that the import of the root leads to no module, with its line. -/
def missing (site : ImportSite) (root : String) (line : List Char) : Diagnostic :=
  { Diagnostic.missingModule site.module root with
    line := site.line, column := site.column, sourceLine := String.ofList line }

/-- The caret is under the opening quotation mark when only ASCII is before the mark. -/
theorem Opens.pointsAt_iff {site : ImportSite} {line before : List Char}
    (opens : site.Opens line before) (single : '\n' ∉ line) (root : String) :
    (site.missing root line).PointsAt line before.length ↔ ∀ c ∈ before, c.toNat < 128 := by
  have single' : '\n' ∉ (String.ofList line).toList := by rwa [String.toList_ofList]
  have points : (site.missing root line).PointsAt (String.ofList line).toList before.length ↔
      site.column - 1 = before.length :=
    Diagnostic.pointsAt_iff rfl rfl rfl rfl single'
  rw [String.toList_ofList, opens.column, Nat.add_sub_cancel] at points
  exact points.trans Text.utf8ByteSize_eq_length_iff

end ImportSite

/-! ## The reports of a compilation -/

theorem ImportCompiler.diagnostics_of_emit {compiler : ImportCompiler} {roots : List String}
    {options : CompilerOptions} {draft : Draft} {unit : SourceFile}
    {transformer : Program → Transformer} {token : Option Cancellation} {output : EmitOutput}
    (emitted : ((compiler.program roots options draft).emitWithTransform unit transformer token).1 =
      .ok output) : output.diagnostics = [] := by
  rw [Program.emitWithTransform_fst, program] at emitted
  dsimp only at emitted
  split at emitted
  next =>
    obtain rfl := Except.ok.inj emitted
    rfl
  next =>
    rw [Emission.run_bind] at emitted
    split at emitted
    next =>
      obtain rfl := Except.ok.inj emitted
      rfl
    next => cases emitted

/-- What a compilation reports about the program, whether it gives a result or not. -/
def CompileReport.diagnostics? (report : CompileReport) : Option Diagnostics :=
  match report.outcome with
  | .ok result => some result.diagnostics
  | .error (.compilation diagnostics) => some diagnostics
  | .error _ => none

theorem FileSystem.read_of_read_text {fs : FileSystem} {root : Path} {name text : String}
    {encoding : Encoding} (resolved : fs.resolve name = .ok root)
    (readable : fs.read root.text encoding = .ok text) : fs.read name encoding = .ok text := by
  have plain : '\x00' ∉ root.text.toList := by
    intro inside
    have unresolved : fs.resolve root.text = .error (.invalidPath root.text) := by
      rw [FileSystem.resolve, Path.resolve?, if_neg fun plain => plain.2 inside]
    rw [FileSystem.read, unresolved] at readable
    cases readable
  have same : fs.resolve root.text = .ok root := by
    rw [FileSystem.resolve, Path.resolve?_text _ (Path.isSpellable_of_text plain)]
  rw [FileSystem.read, same] at readable
  rw [FileSystem.read, resolved]
  exact readable

theorem Diagnostic.attachSource_of_line_none {diagnostic : Diagnostic}
    (unplaced : diagnostic.line = none) (fs : FileSystem) :
    diagnostic.attachSource fs = diagnostic := by
  rw [attachSource, unplaced]
  cases diagnostic.path <;> rfl

namespace CompileOrder

variable {order : CompileOrder} {session : Session} {root : Path} {diagnostics : Diagnostics}

theorem diagnostics_of_conclude {compiler : ImportCompiler} {roots : List String}
    {options : CompilerOptions} {draft : ImportCompiler.Draft}
    {transformer : Program → Transformer} {bridge : Bridge} {consultation : Option Consultation}
    (reports : CompileReport.diagnostics? ⟨conclude root (compiler.program roots options draft)
      transformer bridge, consultation⟩ = some diagnostics) :
    diagnostics = Diagnostics.attachSources bridge.files draft.diagnostics := by
  rw [CompileReport.diagnostics?] at reports
  dsimp only at reports
  cases entry : (compiler.program roots options draft).unit? root.text with
  | none =>
      rw [conclude, entry] at reports
      cases reports
  | some unit =>
      rw [conclude_of_unit? entry] at reports
      cases emitted : ((compiler.program roots options draft).emitWithTransform unit transformer
          (some bridge.cancellation)).1 with
      | error cause =>
          rw [emitted] at reports
          cases reports
      | ok output =>
          have drafted : (compiler.program roots options draft).diagnostics = draft.diagnostics := rfl
          simp only [emitted, ImportCompiler.diagnostics_of_emit emitted, List.append_nil, drafted]
            at reports
          by_cases withheld : (output.skipped &&
              (Diagnostics.attachSources bridge.files draft.diagnostics).hasErrors) = true
          · rw [if_pos withheld] at reports
            exact (Option.some.inj reports).symm
          · rw [if_neg withheld] at reports
            exact (Option.some.inj reports).symm

theorem diagnostics?_of_refused {cause : CompileError}
    (refused : order.approve session = .error cause) {consultation : Option Consultation} :
    CompileReport.diagnostics? ⟨.error cause, consultation⟩ = none := by
  rw [approve, Session.checkCurrent] at refused
  cases current : session.isCurrent order.ticket.generation with
  | false =>
      rw [current] at refused
      obtain rfl := Except.error.inj refused
      rfl
  | true =>
      cases resolved : session.files.resolve order.root with
      | error failure =>
          rw [current, resolved] at refused
          obtain rfl := Except.error.inj refused
          rfl
      | ok root =>
          rw [current, resolved] at refused
          simp only [if_true, Except.mapError, bind, Except.bind] at refused
          split at refused
          · obtain rfl := Except.error.inj refused
            rfl
          · cases refused

theorem exists_reported_of_compile {compiler : ImportCompiler} {transformer : Program → Transformer}
    (reports : ((order.compile compiler.backend transformer).run session).1.diagnostics? =
      some diagnostics) :
    ∃ root, session.files.resolve order.root = .ok root ∧ ∀ diagnostic ∈ diagnostics,
      ∃ reported, ImportCompiler.Reported session.files root.text reported ∧
        diagnostic = reported.attachSource session.files := by
  cases approved : order.approve session with
  | error cause =>
      rw [run_compile_of_refused approved] at reports
      exact nomatch (diagnostics?_of_refused approved).symm.trans reports
  | ok root =>
      refine ⟨root, root_of_approve approved, fun diagnostic member => ?_⟩
      obtain ⟨draft, program, reported⟩ := ImportCompiler.exists_draft_of_backend compiler
        (.ofConfig session.config) root.text order.effectiveOptions { files := session.files }
      rw [run_compile_of_approved approved] at reports
      dsimp only at reports
      rw [program] at reports
      obtain rfl := diagnostics_of_conclude reports
      rw [ImportCompiler.files_of_backend] at member
      obtain ⟨draft_report, listed, rfl⟩ := List.mem_map.mp member
      exact ⟨draft_report, reported draft_report listed, rfl⟩

/-- A report about a missing module shows the line of the root that the import is in, and the caret
is under the quotation mark that opens the module's name if only ASCII is before the mark. -/
theorem caret_under_quote_iff {compiler : ImportCompiler} {transformer : Program → Transformer}
    (reports : ((order.compile compiler.backend transformer).run session).1.diagnostics? =
      some diagnostics)
    {diagnostic : Diagnostic} (member : diagnostic ∈ diagnostics)
    (missing : diagnostic.code = some Diagnostic.missingModuleCode) :
    ∃ root text site line before, session.files.resolve order.root = .ok root ∧
      session.files.read order.root .utf8 = .ok text ∧ site ∈ ImportSite.all text ∧
      1 ≤ site.line ∧ (Text.lines text.toList)[site.line - 1]? = some line ∧
      site.Opens line before ∧ diagnostic = site.missing root.text line ∧
      (diagnostic.PointsAt line before.length ↔ ∀ c ∈ before, c.toNat < 128) := by
  obtain ⟨root, resolved, each⟩ := exists_reported_of_compile reports
  obtain ⟨reported, known, rfl⟩ := each diagnostic member
  cases known with
  | fileNotFound unreadable =>
      rw [Diagnostic.attachSource_of_line_none rfl] at missing
      exact nomatch missing
  | @missingModule text site readable found =>
      obtain ⟨counted, line, there, before, opens⟩ := ImportSite.exists_line_of_mem_all found
      have shown : Diagnostic.attachSource session.files
          { Diagnostic.missingModule site.module root.text with
            line := site.line, column := site.column } = site.missing root.text line := by
        simp only [Diagnostic.attachSource, Diagnostic.missingModule, ImportSite.missing, readable,
          there, Option.map_some]
      have single := Text.newline_not_mem_of_mem_lines (List.mem_of_getElem? there)
      rw [shown]
      exact ⟨root, text, site, line, before, resolved,
        FileSystem.read_of_read_text resolved readable, found, counted, there, opens, rfl,
        opens.pointsAt_iff single root.text⟩

end CompileOrder

namespace Sample

/-- A session on nearby servers in which the root has this text, ready to compile it. -/
def rooted (text : String) : Option (CompileOrder × Session) := do
  let config ← mirrors.build.toOption
  let start ← (Session.create config).toOption
  let live := LiveSession.after start
    [.write "/index.ts" text .utf8, .start (.prepare { noLib := true } [])]
  let ticket ← live.ticket? 0
  return ({ ticket }, live.session)

/-- What compiling the root comes to. -/
def rootReport (prepared : CompileOrder × Session) : CompileReport :=
  ((prepared.1.compile (ImportCompiler.backend {}) fun _ => .ofUnit .ok).run prepared.2).1

/-- The line of an import whose name has an accent. -/
def accentedLine : List Char := "import { é } from 'x';".toList

/-- The import in the line. -/
def accentedSite : ImportSite := ⟨"x", 1, 20⟩

theorem reports_accented : ∃ prepared, rooted (String.ofList accentedLine) = some prepared ∧
    (rootReport prepared).diagnostics? = some [accentedSite.missing "/index.ts" accentedLine] := by
  have stands : ((rooted (String.ofList accentedLine)).bind fun prepared =>
      (rootReport prepared).diagnostics?) =
        some [accentedSite.missing "/index.ts" accentedLine] := by
    decide +kernel
  exact Option.bind_eq_some_iff.mp stands

/-- The report about the import shows its line, and its caret has moved with the accent. -/
theorem caret_under_quote_iff_accented : ∃ (prepared : CompileOrder × Session)
    (diagnostic : Diagnostic) (line before : List Char),
    rooted (String.ofList accentedLine) = some prepared ∧
      (rootReport prepared).diagnostics? = some [diagnostic] ∧
      diagnostic.sourceLine = some (String.ofList line) ∧
      (diagnostic.PointsAt line before.length ↔ ∀ c ∈ before, c.toNat < 128) := by
  obtain ⟨prepared, made, reports⟩ := reports_accented
  obtain ⟨_, _, _, line, before, _, _, _, _, _, _, shown, iff⟩ :=
    CompileOrder.caret_under_quote_iff reports List.mem_cons_self rfl
  exact ⟨prepared, _, line, before, made, reports, congrArg Diagnostic.sourceLine shown, iff⟩

/-- The caret of the report is not under the opening quotation mark. -/
theorem caret_beside_quote : ∃ (prepared : CompileOrder × Session) (diagnostic : Diagnostic)
    (before : List Char), rooted (String.ofList accentedLine) = some prepared ∧
      (rootReport prepared).diagnostics? = some [diagnostic] ∧
      diagnostic.code = some Diagnostic.missingModuleCode ∧
      diagnostic.sourceLine = some (String.ofList accentedLine) ∧
      accentedSite ∈ ImportSite.all (String.ofList accentedLine) ∧
      accentedSite.Opens accentedLine before ∧ ¬diagnostic.PointsAt accentedLine before.length := by
  obtain ⟨prepared, made, reports⟩ := reports_accented
  have opens : accentedSite.Opens accentedLine "import { é } from ".toList :=
    ⟨⟨'\'', by decide, [';'], by decide, by decide⟩,
      ⟨"from ".toList, by decide, by decide⟩, by decide⟩
  refine ⟨prepared, _, "import { é } from ".toList, made, reports, rfl, rfl, by decide, opens, ?_⟩
  rw [opens.pointsAt_iff (by decide)]
  exact fun ascii => absurd (ascii 'é' (by decide)) (by decide)

end Sample
end Workbench
