import Workbench.Compile.Imports
import Workbench.Proofs.FileSystem.Growth
import Workbench.Proofs.Session.Stretch
import Workbench.Session.Compile

/-!
# What a compiler that follows imports makes of its root

Building a program only reads: the files stay as they are, and whenever the root is loaded, under
whatever import or library, it is loaded with the text that its file has. The emission gives that
unit to the transformer once and writes what comes of it.
-/

namespace Workbench

namespace Dialogue

variable {α β : Type} {host : CompilerHost} {files : FileSystem}

theorem run_bind (dialogue : Dialogue α) (next : α → Dialogue β) (bridge : Bridge) :
    (dialogue >>= next).run host bridge =
      let first := dialogue.run host bridge
      let second := (next first.value).run host first.bridge
      ⟨second.value, second.bridge, first.exchanges ++ second.exchanges⟩ := by
  induction dialogue generalizing bridge with
  | done value => rfl
  | ask request more induction =>
      have rest := induction (host.answer bridge request).1 (host.answer bridge request).2
      simp only [Bind.bind] at rest
      simp only [Bind.bind, Dialogue.bind, run, rest, List.cons_append]

/-- With these files behind the host, the dialogue leaves them and comes to such a value. -/
def Reads (host : CompilerHost) (files : FileSystem) (dialogue : Dialogue α)
    (Holds : α → Prop) : Prop :=
  ∀ bridge : Bridge, bridge.files = files →
    (dialogue.run host bridge).bridge.files = files ∧ Holds (dialogue.run host bridge).value

variable {Holds : α → Prop} {Later : β → Prop} {dialogue : Dialogue α} {next : α → Dialogue β}

theorem reads_pure {value : α} (holds : Holds value) :
    Reads host files (pure value : Dialogue α) Holds :=
  fun _ same => ⟨same, holds⟩

theorem Reads.bind (first : Reads host files dialogue Holds)
    (rest : ∀ value, Holds value → Reads host files (next value) Later) :
    Reads host files (dialogue >>= next) Later := by
  intro bridge same
  obtain ⟨kept, holds⟩ := first bridge same
  rw [run_bind]
  exact rest _ holds _ kept

theorem Reads.and {Also : α → Prop} (first : Reads host files dialogue Holds)
    (second : Reads host files dialogue Also) :
    Reads host files dialogue fun value => Holds value ∧ Also value :=
  fun bridge same => ⟨(first bridge same).1, (first bridge same).2, (second bridge same).2⟩

theorem reads_request {request : HostRequest} {Holds : request.Answer → Prop}
    (kept : ∀ bridge, (host.answer bridge request).2.files = bridge.files)
    (holds : ∀ bridge : Bridge, bridge.files = files → Holds (host.answer bridge request).1) :
    Reads host files (Dialogue.request request) Holds :=
  fun bridge same => ⟨(kept bridge).trans same, holds bridge same⟩

theorem reads_question {request : HostRequest}
    (kept : ∀ bridge, (host.answer bridge request).2.files = bridge.files) :
    Reads host files (Dialogue.request request) fun _ => True :=
  reads_request kept fun _ _ => trivial

theorem reads_foldlM {step : β → α → Dialogue β} {start : β} (list : List α)
    (each : ∀ reached, ∀ value ∈ list, Later reached →
      Reads host files (step reached value) Later)
    (begins : Later start) : Reads host files (list.foldlM step start) Later := by
  induction list generalizing start with
  | nil => exact reads_pure begins
  | cons value list induction =>
      refine (each start value List.mem_cons_self begins).bind fun _ => induction ?_
      exact fun reached other member => each reached other (List.mem_cons_of_mem value member)

theorem reads_forM {step : α → Dialogue Unit} (list : List α)
    (each : ∀ value, Reads host files (step value) fun _ => True) :
    Reads host files (list.forM step) fun _ => True := by
  induction list with
  | nil => exact reads_pure trivial
  | cons value list induction => exact (each value).bind fun _ _ => induction

end Dialogue

theorem Program.emitWithTransform_fst (program : Program) (entry : SourceFile)
    (transformer : Program → Transformer) (token : Option Cancellation) :
    (program.emitWithTransform entry transformer token).1 =
      let ran := (program.emit (some entry)).run
        { hooks := [{ transformer := transformer program, guarded := true }], token }
      ran.1.map fun result => ⟨ran.2.files, result.skipped, result.diagnostics⟩ := rfl

namespace ImportCompiler

open Dialogue (Reads reads_pure reads_request reads_question reads_foldlM reads_forM)

variable {host : CompilerHost} {files : FileSystem} {options : CompilerOptions}

/-! ## Drafts -/

/-- What may be reported over these files: a file that cannot be read as text, or an import in the
text of the root's file. -/
inductive Reported (files : FileSystem) (root : String) : Diagnostic → Prop
  | fileNotFound {name : String} (unreadable : ∀ text, files.read name .utf8 ≠ .ok text) :
      Reported files root (.fileNotFound name)
  | missingModule {text : String} {site : ImportSite} (readable : files.read root .utf8 = .ok text)
      (found : site ∈ ImportSite.all text) :
      Reported files root { Diagnostic.missingModule site.module root with
        line := site.line, column := site.column }

/-- A property of drafts that survives such reports and whatever is loaded from the files. -/
structure Lasting (files : FileSystem) (root : String) (target : LanguageTarget)
    (Holds : Draft → Prop) : Prop where
  report : ∀ draft diagnostic, Reported files root diagnostic → Holds draft →
    Holds (draft.report diagnostic)
  load : ∀ (draft : Draft) (name : String) (bridge : Bridge), bridge.files = files → Holds draft →
    Holds { draft with
      units := draft.units ++ [(CompilerHost.loadUnit bridge name target).unit] }

variable {Holds Before : Draft → Prop} {draft : Draft} {root : String}

theorem Lasting.and {target : LanguageTarget} {Also : Draft → Prop}
    (lasting : Lasting files root target Holds) (lasting' : Lasting files root target Also) :
    Lasting files root target fun draft => Holds draft ∧ Also draft where
  report draft diagnostic reported both :=
    ⟨lasting.report draft diagnostic reported both.1,
      lasting'.report draft diagnostic reported both.2⟩
  load draft name bridge same both :=
    ⟨lasting.load draft name bridge same both.1, lasting'.load draft name bridge same both.2⟩

/-- Every unit has the text of its file, or no text. -/
def Faithful (files : FileSystem) (draft : Draft) : Prop :=
  ∀ unit ∈ draft.units, files.read unit.name .utf8 = .ok unit.text ∨ unit.text = ""

theorem lasting_faithful (files : FileSystem) (root : String) (target : LanguageTarget) :
    Lasting files root target (Faithful files) where
  report draft diagnostic _ faithful := faithful
  load draft name bridge same faithful := by
    intro unit member
    rcases List.mem_append.mp member with old | new
    · exact faithful unit old
    · obtain rfl := List.mem_singleton.mp new
      rw [CompilerHost.loadUnit, Bridge.fileText, same]
      cases outcome : files.read name .utf8 with
      | error cause => exact .inr rfl
      | ok text => exact .inl outcome

/-- A unit in whose text an import is found has the text of its file. -/
theorem Faithful.readable (faithful : Faithful files draft) {unit : SourceFile}
    (found : draft.unit? root = some unit) {site : ImportSite}
    (member : site ∈ ImportSite.all unit.text) : files.read root .utf8 = .ok unit.text := by
  have named : unit.name = root := by simpa using List.find?_some found
  rcases faithful unit (List.mem_of_find?_eq_some found) with readable | empty
  · exact named ▸ readable
  · rw [empty] at member
    exact nomatch member

theorem reads_load (lasting : Lasting files root options.target Holds) (holds : Holds draft)
    (name : String) : Reads host files (draft.load name options.target) Holds := by
  rw [Draft.load]
  split
  · exact reads_pure holds
  · have asked : Reads host files (Dialogue.request (.loadUnit name options.target))
        fun loaded => ∃ bridge : Bridge, bridge.files = files ∧
          loaded = CompilerHost.loadUnit bridge name options.target :=
      reads_request (fun _ => rfl) fun bridge same => ⟨bridge, same, rfl⟩
    refine asked.bind ?_
    rintro _ ⟨bridge, same, rfl⟩
    refine reads_pure (lasting.load _ name bridge same ?_)
    split
    next reported =>
      refine lasting.report draft _ (.fileNotFound fun text readable => ?_) holds
      rw [CompilerHost.loadUnit, Bridge.fileText, same, readable] at reported
      exact nomatch reported
    next => exact holds

theorem fileExists_of_read {bridge : Bridge} {path text : String} {encoding : Encoding}
    (readable : bridge.files.read path encoding = .ok text) : bridge.fileExists path = true := by
  rw [FileSystem.read] at readable
  cases resolved : bridge.files.resolve path with
  | error cause =>
      rw [resolved] at readable
      cases readable
  | ok place =>
      rw [resolved] at readable
      simp only [bind, Except.bind, FileSystem.readAt_eq] at readable
      simp only [Bridge.fileExists, Bridge.kind?, FileSystem.stat, resolved, bind, Except.bind,
        FileSystem.statAt_eq]
      split at readable
      next content there =>
        rw [there]
        rfl
      next => cases readable

theorem reads_loadLibrary (lasting : Lasting files root options.target Holds) (holds : Holds draft)
    (path : String) : Reads host files (loadLibrary options draft path) Holds := by
  have asked : Reads host files (Dialogue.request (.fileExists path))
      fun found => ∃ bridge : Bridge, bridge.files = files ∧ found = bridge.fileExists path :=
    reads_request (fun _ => rfl) fun bridge same => ⟨bridge, same, rfl⟩
  refine asked.bind fun found answer => ?_
  obtain ⟨bridge, rfl, rfl⟩ := answer
  cases exists_eq : bridge.fileExists path with
  | false =>
      refine reads_pure (lasting.report draft _ (.fileNotFound fun text readable => ?_) holds)
      exact nomatch exists_eq.symm.trans (fileExists_of_read readable)
  | true => exact reads_load lasting holds path

theorem reads_follow (lasting : Lasting files root options.target Holds) (holds : Holds draft)
    {text : String} (readable : files.read root .utf8 = .ok text)
    {found : ImportSite × Option ResolvedModule} (member : found.1 ∈ ImportSite.all text) :
    Reads host files (follow options root draft found) Holds := by
  obtain ⟨site, _ | module⟩ := found
  · exact reads_pure (lasting.report draft _ (.missingModule readable member) holds)
  · refine (reads_question fun _ => rfl).bind fun found _ => ?_
    cases found with
    | false => exact reads_pure (lasting.report draft _ (.missingModule readable member) holds)
    | true => exact reads_load lasting holds module.file

theorem reads_loadRoot (lasting : Lasting files root options.target Holds)
    (first : Reads host files (draft.load root options.target) Holds)
    (faithful : Faithful files draft) :
    Reads host files (loadRoot options draft root) Holds := by
  have loaded := first.and (reads_load (lasting_faithful files root options.target) faithful root)
  refine loaded.bind fun draft both => ?_
  obtain ⟨holds, faithful⟩ := both
  cases unit_eq : draft.unit? root with
  | none => exact reads_pure holds
  | some unit =>
      refine (reads_question fun _ => rfl).bind fun resolved _ => ?_
      refine reads_foldlM _ (fun _ found member holds => ?_) holds
      have inside := (List.of_mem_zip member).1
      exact reads_follow lasting holds (faithful.readable unit_eq inside) inside

theorem reads_libraryPaths : Reads host files (libraryPaths options) fun _ => True := by
  rw [libraryPaths]
  split
  · exact reads_pure trivial
  · split
    · exact (reads_question fun _ => rfl).bind fun _ _ => reads_pure trivial
    · exact (reads_question fun _ => rfl).bind fun _ _ => reads_pure trivial

/-- Building a program with one root leaves the files, and drafts it from what it loads. -/
theorem reads_backend (compiler : ImportCompiler)
    (before : Lasting files root options.target Before)
    (lasting : Lasting files root options.target Holds)
    (begins : Before {})
    (first : ∀ draft, Before draft → Reads host files (draft.load root options.target) Holds) :
    Reads host files (compiler.backend [root] options) fun program =>
      ∃ draft, program = compiler.program [root] options draft ∧ Holds draft := by
  refine reads_libraryPaths.bind fun libraries _ => ?_
  have begun := before.and (lasting_faithful files root options.target)
  refine (reads_foldlM libraries (fun _ path _ both => reads_loadLibrary begun both path)
    ⟨begins, nofun⟩).bind fun draft both => ?_
  have rooted : Reads host files ([root].foldlM (loadRoot options) draft) Holds :=
    (reads_loadRoot lasting (first draft both.1) both.2).bind fun _ => reads_pure
  refine rooted.bind fun draft holds => ?_
  have written : Reads host files
      (compiler.console.forM fun line => Dialogue.request (.write line)) fun _ => True :=
    reads_forM _ fun line => reads_question fun _ => rfl
  refine written.bind fun _ _ => ?_
  cases compiler.exitCode with
  | none => exact reads_pure ⟨draft, rfl, holds⟩
  | some code =>
      exact (reads_question fun _ => rfl).bind fun _ _ => reads_pure ⟨draft, rfl, holds⟩

/-! ## The root -/

/-- The draft has no other unit of the name, and has this one once it is loaded. -/
structure Knows (unit : SourceFile) (loaded : Prop) (draft : Draft) : Prop where
  unique : ∀ other ∈ draft.units, other.name = unit.name → other = unit
  present : loaded → unit ∈ draft.units

variable {unit : SourceFile}

theorem loadUnit_of_readable (readable : files.read unit.name .utf8 = .ok unit.text)
    {bridge : Bridge} (same : bridge.files = files) :
    CompilerHost.loadUnit bridge unit.name unit.target = ⟨unit, none⟩ := by
  rw [CompilerHost.loadUnit, Bridge.fileText, same, readable]

theorem loadUnit_name (bridge : Bridge) (name : String) (target : LanguageTarget) :
    (CompilerHost.loadUnit bridge name target).unit.name = name := by
  rw [CompilerHost.loadUnit]
  split <;> rfl

theorem lasting_knows (readable : files.read unit.name .utf8 = .ok unit.text) (loaded : Prop) :
    Lasting files root unit.target (Knows unit loaded) where
  report draft diagnostic _ knows := ⟨knows.unique, knows.present⟩
  load draft name bridge same knows := by
    refine ⟨fun other member named => ?_,
      fun loaded => List.mem_append_left _ (knows.present loaded)⟩
    rcases List.mem_append.mp member with old | new
    · exact knows.unique other old named
    · obtain rfl := List.mem_singleton.mp new
      rw [loadUnit_name] at named
      rw [named, loadUnit_of_readable readable same]

theorem lasting_trivial (files : FileSystem) (root : String) (target : LanguageTarget) :
    Lasting files root target fun _ => True :=
  ⟨fun _ _ _ _ => trivial, fun _ _ _ _ _ => trivial⟩

theorem Knows.unit?_eq (knows : Knows unit True draft) : draft.unit? unit.name = some unit := by
  have found : (draft.unit? unit.name).isSome := by
    rw [Draft.unit?, List.find?_isSome]
    exact ⟨unit, knows.present trivial, by simp⟩
  obtain ⟨other, other_eq⟩ := Option.isSome_iff_exists.mp found
  have named : other.name = unit.name := by simpa using List.find?_some other_eq
  rw [other_eq, knows.unique other (List.mem_of_find?_eq_some other_eq) named]

theorem reads_load_root (readable : files.read unit.name .utf8 = .ok unit.text)
    (knows : Knows unit False draft) :
    Reads host files (draft.load unit.name unit.target) (Knows unit True) := by
  rw [Draft.load]
  split
  next found =>
    obtain ⟨other, other_eq⟩ := Option.isSome_iff_exists.mp found
    have named : other.name = unit.name := by simpa using List.find?_some other_eq
    have member := List.mem_of_find?_eq_some other_eq
    rw [knows.unique other member named] at member
    exact reads_pure ⟨knows.unique, fun _ => member⟩
  next =>
    have asked : Reads host files (Dialogue.request (.loadUnit unit.name unit.target))
        fun loaded => loaded = ⟨unit, none⟩ :=
      reads_request (fun _ => rfl) fun bridge same => loadUnit_of_readable readable same
    refine asked.bind ?_
    rintro _ rfl
    refine reads_pure ⟨fun other member named => ?_, fun _ => by simp⟩
    rcases List.mem_append.mp member with old | new
    · exact knows.unique other old named
    · exact List.mem_singleton.mp new

theorem files_of_backend (compiler : ImportCompiler) (host : CompilerHost) (root : String)
    (options : CompilerOptions) (bridge : Bridge) :
    ((compiler.backend [root] options).run host bridge).bridge.files = bridge.files := by
  have lasting := lasting_trivial bridge.files root options.target
  exact (reads_backend compiler lasting lasting trivial
    (fun _ _ => reads_load lasting trivial root) bridge rfl).1

/-- Building a program reports nothing but files that cannot be read and imports of the root. -/
theorem exists_draft_of_backend (compiler : ImportCompiler) (host : CompilerHost) (root : String)
    (options : CompilerOptions) (bridge : Bridge) :
    ∃ draft, ((compiler.backend [root] options).run host bridge).value =
        compiler.program [root] options draft ∧
      ∀ diagnostic ∈ draft.diagnostics, Reported bridge.files root diagnostic := by
  have lasting : Lasting bridge.files root options.target fun draft =>
      ∀ diagnostic ∈ draft.diagnostics, Reported bridge.files root diagnostic := by
    refine ⟨fun draft new reported earlier diagnostic member => ?_, fun _ _ _ _ earlier => earlier⟩
    rcases List.mem_append.mp member with old | new
    · exact earlier diagnostic old
    · exact List.mem_singleton.mp new ▸ reported
  exact (reads_backend compiler lasting lasting nofun
    (fun _ earlier => reads_load lasting earlier root) bridge rfl).2

theorem reported_of_backend (compiler : ImportCompiler) (host : CompilerHost) (root : String)
    (options : CompilerOptions) (bridge : Bridge) :
    ∀ diagnostic ∈ ((compiler.backend [root] options).run host bridge).value.diagnostics,
      Reported bridge.files root diagnostic := by
  obtain ⟨draft, program_eq, reported⟩ :=
    exists_draft_of_backend compiler host root options bridge
  rw [program_eq]
  exact reported

/-- A program has its root with the text of the root's file. -/
theorem exists_program_of_backend (compiler : ImportCompiler) (host : CompilerHost)
    (unit : SourceFile) {bridge : Bridge}
    (readable : bridge.files.read unit.name .utf8 = .ok unit.text)
    (targeted : options.target = unit.target) :
    ∃ draft, ((compiler.backend [unit.name] options).run host bridge).value =
        compiler.program [unit.name] options draft ∧ draft.unit? unit.name = some unit := by
  have before : Lasting bridge.files unit.name options.target (Knows unit False) :=
    targeted ▸ lasting_knows readable False
  have lasting : Lasting bridge.files unit.name options.target (Knows unit True) :=
    targeted ▸ lasting_knows readable True
  have begins : Knows unit False {} := ⟨nofun, False.elim⟩
  obtain ⟨draft, program, knows⟩ := (reads_backend compiler before lasting begins
    (fun _ knows => targeted ▸ reads_load_root readable knows) bridge rfl).2
  exact ⟨draft, program, knows.unit?_eq⟩

/-! ## The emission -/

/-- What comes of a unit that is transformed by itself: no file if it only declares, and else one
file with the name and the text that the transformed unit gives. -/
def Renders (apply : SourceFile → Except TransformError SourceFile) (unit : SourceFile)
    (files : List EmittedFile) : Prop :=
  if unit.isDeclaration then files = []
  else ∃ rendered, apply unit = .ok rendered ∧ files = [⟨outputName rendered.name, rendered.text⟩]

theorem emit_root (compiler : ImportCompiler) (single : compiler.transformTwice = false)
    (roots : List String) (options : CompilerOptions) (draft : Draft) (unit : SourceFile) :
    (compiler.program roots options draft).emit (some unit) =
      if options.noEmitOnError && draft.diagnostics.hasErrors then .done { skipped := true }
      else .look fun
        | some code => .fail (.cancelled code)
        | none =>
          if unit.isDeclaration then .done {}
          else .transform unit fun
            | .ok rendered => .write ⟨outputName rendered.name, rendered.text⟩ (.done {})
            | .error cause => .fail cause := by
  rw [program]
  simp only [single]
  split
  · rfl
  · refine congrArg Emission.look (funext fun code => ?_)
    cases code with
    | some code => rfl
    | none =>
        cases declaration : unit.isDeclaration with
        | true => rfl
        | false =>
            refine congrArg (Emission.transform unit) (funext fun result => ?_)
            cases result <;> rfl

/-- A guarded hook that is called for the first time, and not too late, gives what its transformer
gives. -/
theorem exists_callAll_eq {token : Option Cancellation} (quiet : token.bind (·.code) = none)
    (apply : SourceFile → Except TransformError SourceFile) (unit : SourceFile) :
    ∃ hooks, Hook.callAll token [{ transformer := .ofUnit apply, guarded := true }] unit =
      (apply unit, hooks) := by
  have unchecked : (token.getD {}).check = .ok () := by
    cases token with
    | none => rfl
    | some cancellation =>
        have none_requested : cancellation.code = none := quiet
        simp only [Option.getD_some, Cancellation.check, none_requested]
  cases outcome : apply unit <;>
    simp [Hook.callAll, Hook.call, unchecked, Hook.invoke, Transformer.ofUnit, outcome]

/-- An emission of a unit that succeeds is skipped because of errors, or renders the unit. -/
theorem renders_of_emit {compiler : ImportCompiler} (single : compiler.transformTwice = false)
    {roots : List String} {apply : SourceFile → Except TransformError SourceFile}
    {token : Option Cancellation} {output : EmitOutput}
    (emitted : ((compiler.program roots options draft).emitWithTransform unit
      (fun _ => .ofUnit apply) token).1 = .ok output) :
    output.skipped = true ∧ draft.diagnostics.hasErrors = true ∨
      Renders apply unit output.files := by
  rw [Program.emitWithTransform_fst, emit_root compiler single] at emitted
  split at emitted
  next skips =>
    obtain rfl := Except.ok.inj emitted
    rw [Bool.and_eq_true] at skips
    exact .inl ⟨rfl, skips.2⟩
  next =>
    right
    rw [Emission.run] at emitted
    cases stop : token.bind (·.code) with
    | some code =>
        simp only [stop] at emitted
        exact nomatch emitted
    | none =>
        simp only [stop] at emitted
        rw [Renders]
        split at emitted
        next declaration =>
          obtain rfl := Except.ok.inj emitted
          rw [if_pos declaration]
          rfl
        next declaration =>
          rw [if_neg declaration]
          obtain ⟨hooks, called⟩ := exists_callAll_eq stop apply unit
          rw [Emission.run, called] at emitted
          cases rendered : apply unit with
          | error cause =>
              rw [rendered] at emitted
              exact nomatch emitted
          | ok result =>
              rw [rendered] at emitted
              obtain rfl := Except.ok.inj emitted
              exact ⟨result, rfl, rfl⟩

end ImportCompiler

/-! ## The result -/

namespace Diagnostics

theorem hasErrors_attachSources (fs : FileSystem) (diagnostics : Diagnostics) :
    (attachSources fs diagnostics).hasErrors = diagnostics.hasErrors := by
  have severity : ∀ diagnostic : Diagnostic,
      (diagnostic.attachSource fs).severity = diagnostic.severity := by
    intro diagnostic
    rw [Diagnostic.attachSource]
    split
    · split <;> rfl
    · rfl
  rw [attachSources, hasErrors, hasErrors, List.any_map]
  simp only [Function.comp_def, severity]

theorem hasErrors_append_of_left {first : Diagnostics} (errors : first.hasErrors = true)
    (second : Diagnostics) : Diagnostics.hasErrors (first ++ second) = true := by
  rw [hasErrors, List.any_append, Bool.or_eq_true]
  exact .inl errors

end Diagnostics

namespace CompileOrder

open ImportCompiler (Renders)

variable {compiler : ImportCompiler} {apply : SourceFile → Except TransformError SourceFile}
  {result : CompileResult}

theorem conclude_of_unit? {root : Path} {program : Program} {transformer : Program → Transformer}
    {bridge : Bridge} {unit : SourceFile} (entry : program.unit? root.text = some unit) :
    conclude root program transformer bridge =
      match (program.emitWithTransform unit transformer (some bridge.cancellation)).1 with
      | .error cause => .error (.transform cause)
      | .ok output =>
        let diagnostics := Diagnostics.attachSources bridge.files
          (program.diagnostics ++ output.diagnostics)
        if output.skipped && diagnostics.hasErrors then .error (.compilation diagnostics)
        else .ok ⟨output, diagnostics, bridge.console⟩ := by
  rw [conclude, entry]
  simp only [pure_bind]
  cases (program.emitWithTransform unit transformer (some bridge.cancellation)).1 with
  | error cause => rfl
  | ok output =>
      simp only [Except.mapError, bind, Except.bind]
      split <;> rfl

theorem renders_of_conclude (single : compiler.transformTwice = false) {root : Path}
    {roots : List String} {options : CompilerOptions} {draft : ImportCompiler.Draft}
    {unit : SourceFile} (found : draft.unit? root.text = some unit) {bridge : Bridge}
    (success : conclude root (compiler.program roots options draft) (fun _ => .ofUnit apply) bridge =
      .ok result) : Renders apply unit result.output.files := by
  have entry : (compiler.program roots options draft).unit? root.text = some unit := found
  rw [conclude_of_unit? entry] at success
  split at success
  next => exact nomatch success
  next output emitted =>
    dsimp only at success
    split at success
    next => exact nomatch success
    next fine =>
      obtain rfl := Except.ok.inj success
      rcases ImportCompiler.renders_of_emit single emitted with ⟨skipped, errors⟩ | renders
      · refine absurd ?_ fine
        rw [skipped, Diagnostics.hasErrors_attachSources, Bool.true_and]
        exact Diagnostics.hasErrors_append_of_left errors output.diagnostics
      · exact renders

variable {order : CompileOrder} {session : Session} {root : Path}

theorem run_compile_of_refused {cause : CompileError}
    (refused : order.approve session = .error cause) (backend : Backend)
    (transformer : Program → Transformer) :
    (order.compile backend transformer).run session = (⟨.error cause, none⟩, session) := by
  have got : (get : StateM Session Session).run session = (session, session) := rfl
  rw [compile, run_bind_of_run got, refused]
  rfl

theorem run_compile_of_approved (approved : order.approve session = .ok root) (backend : Backend)
    (transformer : Program → Transformer) :
    (order.compile backend transformer).run session =
      let consulted := (backend [root.text] order.effectiveOptions).run
        (.ofConfig session.config) { files := session.files }
      (⟨conclude root consulted.value transformer consulted.bridge,
        some ⟨[root.text], order.effectiveOptions, consulted.exchanges⟩⟩,
        { session with files := consulted.bridge.files }) := by
  have got : (get : StateM Session Session).run session = (session, session) := rfl
  rw [compile, run_bind_of_run got, approved]
  rfl

/-- A compiler that follows imports leaves the session as it is. -/
theorem compile_leaves (order : CompileOrder) (compiler : ImportCompiler)
    (transformer : Program → Transformer) (session : Session) :
    ((order.compile compiler.backend transformer).run session).2 = session := by
  cases approved : order.approve session with
  | error cause => rw [run_compile_of_refused approved]
  | ok root =>
      rw [run_compile_of_approved approved]
      dsimp only
      rw [ImportCompiler.files_of_backend]

theorem root_of_approve (approved : order.approve session = .ok root) :
    session.files.resolve order.root = .ok root := by
  rw [approve] at approved
  cases current : session.checkCurrent order.ticket.generation with
  | error cause =>
      rw [current] at approved
      exact nomatch approved
  | ok leave =>
      cases resolved : session.files.resolve order.root with
      | error cause =>
          rw [current, resolved] at approved
          exact nomatch approved
      | ok path =>
          rw [current, resolved] at approved
          simp only [Except.mapError, bind, Except.bind] at approved
          split at approved
          · exact nomatch approved
          · exact congrArg Except.ok (Except.ok.inj approved)

/-- What comes of compiling a root whose file has this text, if anything comes of it. -/
theorem renders_of_compile (single : compiler.transformTwice = false) {text : String}
    (spellable : root.IsSpellable) (named : order.root = root.text)
    (there : session.files.occupant? root = some (.file text.toUTF8))
    (success : ((order.compile compiler.backend fun _ => .ofUnit apply).run session).1.outcome =
      .ok result) :
    Renders apply ⟨root.text, text, order.effectiveOptions.target⟩ result.output.files := by
  cases approved : order.approve session with
  | error cause =>
      rw [run_compile_of_refused approved] at success
      exact nomatch success
  | ok path =>
      have resolved : session.files.resolve root.text = .ok root := by
        rw [FileSystem.resolve, Path.resolve?_text _ spellable]
      have same := root_of_approve approved
      rw [named, resolved] at same
      obtain rfl := Except.ok.inj same
      let bridge : Bridge := { files := session.files }
      let unit : SourceFile := ⟨root.text, text, order.effectiveOptions.target⟩
      have readable : bridge.files.read unit.name .utf8 = .ok unit.text := by
        have read : session.files.read root.text .utf8 = session.files.readAt root .utf8 := by
          rw [FileSystem.read, resolved]
          rfl
        exact read.trans (FileSystem.readAt_of_occupant? there)
      obtain ⟨draft, program, found⟩ := ImportCompiler.exists_program_of_backend compiler
        (.ofConfig session.config) unit readable rfl
      rw [run_compile_of_approved approved] at success
      dsimp only at success
      rw [program] at success
      exact renders_of_conclude single found success

end CompileOrder
end Workbench
