import Workbench.Proofs.Session.LiveSession

/-!
# Libraries are where compilers look for them

Libraries are put in place under the names that a load gives them, in the directory that their
location leads to. A compiler looks for them under the text of the location and the names that its
options call for. These are the same files, and once they are in place they stay there. So whoever
compiles with a ticket finds all of them, however long ago the ticket was given and whatever
happened since.
-/

namespace Workbench

theorem CompilerOptions.rootLibraries_congr {options other : CompilerOptions}
    (same : options.libraries = other.libraries) : options.rootLibraries = other.rootLibraries := by
  obtain ⟨target, lib, noLib⟩ := LibrarySelection.mk.inj same
  rw [rootLibraries, rootLibraries, target, lib, noLib]

namespace Config

variable {config : Config} {fs after : FileSystem} {name : String}

/-- The library is a file at the location of the libraries. -/
def Stocks (config : Config) (fs : FileSystem) (name : String) : Prop :=
  ∃ location named, config.currentDirectory.resolve? config.libraryLocation = some location ∧
    '\x00' ∉ name.toList ∧ Occupant.IsFile (fs.occupant? (location.child name named))

theorem Stocks.grow {territory : Path → Prop} (growth : FileSystem.Growth territory fs after)
    (stocks : config.Stocks fs name) : config.Stocks after name := by
  obtain ⟨location, named, resolved, plain, isFile⟩ := stocks
  exact ⟨location, named, resolved, plain, growth.file _ isFile⟩

theorem resolve?_libraryLocation_append {settings : Settings} (built : settings.build = .ok config)
    {location : Path} (resolved : config.currentDirectory.resolve? config.libraryLocation =
      some location) (named : IsName name) (plain : '\x00' ∉ name.toList) :
    config.currentDirectory.resolve? (config.libraryLocation ++ name) =
      some (location.child name named) := by
  have spellable := Settings.isSpellable_of_build built
  obtain ⟨directory, inner, _, _, _, _, _, _, rfl⟩ := Settings.exists_of_build built
  rw [libraryLocation, Path.resolve?_directoryText _ spellable] at resolved
  split at resolved
  · cases resolved
  next readable =>
    obtain rfl := Option.some.inj resolved
    have readable' : '\x00' ∉ (inner ++ "/" ++ name).toList := by
      rw [String.toList_append, List.mem_append, not_or]
      exact ⟨readable, plain⟩
    have leads := Path.walk_append directory inner ""
    rw [String.append_empty, Path.walk_empty] at leads
    rw [libraryLocation, String.append_assoc, Path.resolve?_directoryText _ spellable,
      if_neg readable', Path.walk_append, Path.walk_of_isName _ named]
    simp only [leads]

theorem Stocks.exists_file {settings : Settings} (built : settings.build = .ok config)
    (workingDirectory : fs.workingDirectory = config.currentDirectory)
    (stocks : config.Stocks fs name) :
    ∃ path, fs.workingDirectory.resolve? (config.libraryLocation ++ name) = some path ∧
      Occupant.IsFile (fs.occupant? path) := by
  obtain ⟨location, named, resolved, plain, isFile⟩ := stocks
  rw [workingDirectory]
  exact ⟨_, resolve?_libraryLocation_append built resolved named plain, isFile⟩

end Config

/-! ## What stays in place -/

namespace Session

variable {config : Config} {session : Session}

/-- All files hold texts, and the libraries that installed selections call for are in place. -/
structure Stocked (config : Config) (session : Session) : Prop extends Situated config session where
  legible : session.files.Legible
  stocks : ∀ options : CompilerOptions, options.libraries ∈ session.installed →
    ∀ name ∈ options.rootLibraries, config.Stocks session.files name

theorem stocked_create {settings : Settings} {start : Session}
    (built : settings.build = .ok config) (created : create config = .ok start) :
    start.Stocked config := by
  obtain ⟨fresh, start_eq, added⟩ := eq_of_create created
  refine { situated_create built created with legible := ?_, stocks := ?_ }
  · rw [start_eq]
    exact added.legible (FileSystem.legible_bare config.currentDirectory)
  · rw [start_eq]
    exact fun _ installed => nomatch installed

theorem Stocked.add (stocked : session.Stocked config) {files : FileSystem}
    (added : FileSystem.Added session.files files) : Stocked config { session with files } where
  config_eq := stocked.config_eq
  workingDirectory := added.growth.workingDirectory.trans stocked.workingDirectory
  spellable := stocked.spellable
  legible := added.legible stocked.legible
  stocks options installed name wanted :=
    (stocked.stocks options installed name wanted).grow added.growth

theorem Stocked.settled (stocked : session.Stocked config) (name : String)
    (fetched : Except FetchError FetchedPackage) :
    (Invocation.settled name fetched session).Stocked config := by
  have stored := Invocation.run_store fetched session
  cases fetched with
  | error cause => exact { stocked with }
  | ok package =>
      have added := package.adds_materialize session.files
      simp only [Invocation.settled, stored]
      exact { stocked.add added with }

theorem Stocked.installed (stocked : session.Stocked config) {options : CompilerOptions}
    {libraries : LibraryFiles} (supplies : LibraryLoad.Supplies options.rootLibraries libraries) :
    ((Session.install options.libraries libraries).run session).2.Stocked config := by
  have spellable := stocked.workingDirectory ▸ stocked.spellable
  have added := libraries.adds_install session.config.libraryLocation session.files
  rw [run_install]
  rcases placed : (libraries.install session.config.libraryLocation).perform session.files with
    ⟨cause | paths, files⟩
  · rw [placed] at added
    exact stocked.add added
  · rw [placed] at added
    have grown := stocked.add added
    refine { grown with stocks := fun other known name wanted => ?_ }
    rcases List.mem_cons.mp known with same | old
    · rw [CompilerOptions.rootLibraries_congr same] at wanted
      obtain ⟨location, resolved, there⟩ :=
        LibraryFiles.files_of_install spellable supplies.named placed
      obtain ⟨file, member, rfl⟩ := List.mem_map.mp (supplies.covers wanted)
      obtain ⟨plain, named, isFile⟩ := there file member
      rw [FileSystem.resolve_eq_ok_iff, stocked.workingDirectory, stocked.config_eq] at resolved
      exact ⟨location, named, resolved, plain, isFile⟩
    · exact grown.stocks other old name wanted

/-- Libraries stay in place unless others are installed by hand. -/
theorem enduring_stocked (config : Config) : Enduring Event.IsPlain (Stocked config) where
  settled _ stocked := stocked.settled _ _
  installed supplies stocked := stocked.installed supplies
  begun stocked := { stocked with }
  added added stocked := stocked.add added
  install plain _ := plain.elim
  write plain success stocked := by
    obtain rfl := plain
    exact stocked.add (FileSystem.added_of_write success)

end Session

/-! ## What is compiled -/

/-- An order that is given to a session, and what is to carry it out. -/
structure Compilation where
  /-- The order. -/
  order : CompileOrder
  /-- The session as it is then. -/
  session : Session
  /-- What builds the program. -/
  backend : Backend
  /-- What transforms the output. -/
  transformer : Program → Transformer

/-- The report of a compilation and the session that it leaves. -/
def Compilation.result (compilation : Compilation) : CompileReport × Session :=
  (compilation.order.compile compilation.backend compilation.transformer).run compilation.session

/-- What a run compiles once its preparation has come to this. -/
def PendingCompile.compilation? (pending : PendingCompile) :
    Progress Invocation InvocationOutcome × Session → Option Compilation
  | (.done (.ok number), session) =>
    some ⟨⟨⟨number, pending.options⟩, pending.root.text, some pending.options⟩, session,
      pending.backend, pending.transformer⟩
  | _ => none

/-- What is compiled in the turn of the event. -/
def LiveSession.compilation? (live : LiveSession) : Event → Option Compilation
  | .compile index root options backend transformer =>
    (live.ticket? index).map fun ticket =>
      ⟨⟨ticket, root, options⟩, live.session, backend, transformer⟩
  | .start (.run plugin editor backend transformer) =>
    match (Session.onFiles (FileSystem.store editor.file editor.text)).run live.session with
    | (.ok root, session) =>
      PendingCompile.compilation? ⟨root, editor.options, backend, transformer⟩
        ((Invocation.prepare editor.options plugin.config.packages).run session)
    | _ => none
  | .resume index reply =>
    match live.tasks[index]? with
    | some (.waiting _ (.run _ run)) =>
      run.pending.compilation? ((run.invocation.resume reply).run live.session)
    | _ => none
  | _ => none

namespace Compilation

open Session (Enduring)

variable {Permits : Event → Prop} {Holds : Session → Prop} {live : LiveSession}
  {compilation : Compilation}

/-- The session has the property, and the libraries that the ticket was given for are installed. -/
structure Warranted (Holds : Session → Prop) (compilation : Compilation) : Prop where
  holds : Holds compilation.session
  equipped : compilation.session.IsEquipped compilation.order.ticket.options

theorem isEquipped_of_promising {session : Session} {options : CompilerOptions} {number : Nat}
    (promising : Invocation.Promising session (.prepare options) (.done (.ok number))) :
    session.IsEquipped options := by
  obtain ⟨_, _, _, provided⟩ := promising.standing
  obtain ⟨⟨seen, installed, equipped⟩, _⟩ := provided options rfl
  exact equipped.imp_right fun member => installed member

/-- What a run compiles after its preparation leaves what the run leaves. -/
theorem of_pending {pending : PendingCompile} {before : Session}
    {result : Progress Invocation InvocationOutcome × Session}
    (served : Invocation.Served Holds before (.prepare pending.options) result)
    (compiles : pending.compilation? result = some compilation) :
    Warranted Holds compilation ∧
      ((PluginRun.proceed pending result.1).run result.2).2 = compilation.result.2 := by
  rcases result with ⟨_ | cause | number, session⟩
  · exact nomatch compiles
  · exact nomatch compiles
  · obtain rfl := Option.some.inj compiles
    refine ⟨⟨served.holds, isEquipped_of_promising served.promising⟩, ?_⟩
    rw [PluginRun.run_proceed_of_done, PluginRun.run_compile_of_ok]
    rfl

theorem isEquipped_of_ticket? (orderly : live.Orderly Holds) {index : Nat} {ticket : Ticket}
    (brought : live.ticket? index = some ticket) : live.session.IsEquipped ticket.options := by
  rw [LiveSession.ticket?] at brought
  split at brought
  next own found =>
    obtain rfl := Option.some.inj brought
    have standing := orderly.standing _ (List.mem_of_getElem? found)
    generalize progress_eq : (.done (.prepared (.ok own)) : TaskProgress) = progress at standing
    cases standing with
    | prepare promising =>
        obtain ⟨outcome, rfl, outcome_eq⟩ := Progress.exists_of_map_eq_done progress_eq.symm
        cases outcome with
        | error cause => exact nomatch outcome_eq
        | ok number =>
            obtain rfl := Except.ok.inj (TaskResult.prepared.inj outcome_eq)
            exact isEquipped_of_promising promising
    | preload promising | mount promising | run promising =>
        obtain ⟨_, _, outcome_eq⟩ := Progress.exists_of_map_eq_done progress_eq.symm
        exact nomatch outcome_eq
  next => exact nomatch brought

/-- Whatever is compiled in a turn is warranted, and nothing happens to the session after it. -/
theorem warranted (enduring : Enduring Permits Holds) (orderly : live.Orderly Holds)
    {event : Event} (compiles : live.compilation? event = some compilation) :
    Warranted Holds compilation ∧ (live.step event).session = compilation.result.2 := by
  unfold LiveSession.compilation? at compiles
  split at compiles
  next index root options backend transformer =>
    obtain ⟨ticket, found, rfl⟩ := Option.map_eq_some_iff.mp compiles
    refine ⟨⟨orderly.holds, isEquipped_of_ticket? orderly found⟩, ?_⟩
    rw [LiveSession.step, found]
    rfl
  next plugin editor backend transformer =>
    have added := FileSystem.adds_store editor.file editor.text live.session.files
    rw [Session.run_onFiles] at compiles
    rcases stored : (FileSystem.store editor.file editor.text).perform live.session.files with
      ⟨cause | root, files⟩
    · rw [stored] at compiles
      cases compiles
    · rw [stored] at compiles added
      obtain ⟨warranted, left_eq⟩ := of_pending
        (Invocation.served_prepare enduring editor.options plugin.config.packages
          (enduring.added added orderly.holds)) compiles
      exact ⟨warranted, (congrArg Prod.snd (Plugin.run_run_of_ok stored)).trans left_eq⟩
  next index reply =>
    split at compiles
    next url plugin run found =>
      have standing := orderly.standing _ (List.mem_of_getElem? found)
      generalize progress_eq : (.waiting url (.run plugin run) : TaskProgress) = progress
        at standing
      cases standing with
      | run promising =>
          obtain ⟨own, rfl, same⟩ := Progress.exists_of_map_eq_waiting progress_eq.symm
          obtain ⟨rfl, rfl⟩ := Task.run.inj same
          obtain ⟨warranted, left_eq⟩ := of_pending
            ((promising url own rfl).resume enduring reply orderly.holds) compiles
          refine ⟨warranted, ?_⟩
          rw [LiveSession.step, found]
          exact left_eq
      | prepare promising | preload promising | mount promising =>
          obtain ⟨_, _, same⟩ := Progress.exists_of_map_eq_waiting progress_eq.symm
          cases same
    next => cases compiles
  next => cases compiles

theorem exists_approve_of_consultation {consultation : Consultation}
    (consults : compilation.result.1.consultation = some consultation) :
    ∃ root, compilation.order.approve compilation.session = .ok root ∧
      consultation.roots = [root.text] ∧
      consultation.options = compilation.order.effectiveOptions := by
  rw [result] at consults
  cases approved : compilation.order.approve compilation.session with
  | error cause =>
      rw [CompileOrder.run_compile_of_refused approved] at consults
      exact nomatch consults
  | ok root =>
      rw [CompileOrder.run_compile_of_approved approved] at consults
      obtain rfl := Option.some.inj consults
      exact ⟨root, rfl, rfl, rfl⟩

end Compilation

theorem Session.Situated.answer_libraryLocation {config : Config} {session : Session}
    (situated : session.Situated config) :
    ((CompilerHost.ofConfig session.config).answer { files := session.files }
      .libraryLocation).1 = config.libraryLocation := by
  simp only [CompilerHost.answer, CompilerHost.libraryLocation, CompilerHost.ofConfig,
    Bridge.currentDirectory, Config.libraryLocation, situated.workingDirectory,
    situated.config_eq]

/-- Options that are let through call for libraries of the ticket's selection or for none. -/
theorem CompileOrder.libraries_of_approve {order : CompileOrder} {session : Session} {root : Path}
    (approved : order.approve session = .ok root) (wanted : order.effectiveOptions.noLib = false) :
    order.effectiveOptions.libraries = order.ticket.options.libraries := by
  rw [approve] at approved
  obtain ⟨_, _, approved⟩ := exists_of_bind_eq_ok approved
  obtain ⟨path, _, approved⟩ := exists_of_bind_eq_ok approved
  by_contra other
  simp [wanted, other] at approved
  cases approved

theorem Diagnostic.fileNotFound_injective : Function.Injective fileNotFound := by
  intro file other same
  have worded := congrArg Diagnostic.message same
  exact (String.append_right_inj _).mp ((String.append_left_inj _).mp worded)

theorem ImportCompiler.fileNotFound_not_mem (compiler : ImportCompiler) (host : CompilerHost)
    (root : String) (options : CompilerOptions) {bridge : Bridge} {path text : String}
    (readable : bridge.files.read path .utf8 = .ok text) :
    .fileNotFound path ∉ ((compiler.backend [root] options).run host bridge).value.diagnostics := by
  intro member
  have reported := reported_of_backend compiler host root options bridge _ member
  generalize diagnostic_eq : Diagnostic.fileNotFound path = diagnostic at reported
  cases reported with
  | fileNotFound unreadable =>
      obtain rfl := Diagnostic.fileNotFound_injective diagnostic_eq
      exact unreadable text readable
  | missingModule readable found => exact nomatch congrArg Diagnostic.code diagnostic_eq

namespace Compilation

theorem Warranted.installed {Holds : Session → Prop} {compilation : Compilation}
    (warranted : Warranted Holds compilation) {root : Path}
    (approved : compilation.order.approve compilation.session = .ok root)
    (wanted : compilation.order.effectiveOptions.noLib = false) :
    compilation.order.effectiveOptions.libraries ∈ compilation.session.installed := by
  have selection := CompileOrder.libraries_of_approve approved wanted
  have needed : compilation.order.ticket.options.noLib = false :=
    (congrArg LibrarySelection.noLib selection).symm.trans wanted
  rw [selection]
  refine warranted.equipped.resolve_left fun none_needed => ?_
  exact nomatch needed.symm.trans none_needed

/-- Whenever a backend is consulted for options that need libraries, each of these is a file under
the text of their location and its name, the default library in particular, and a compiler that
follows imports reports none of them as not found. -/
theorem finds_libraries {settings : Settings} {config : Config} {start : Session}
    (built : settings.build = .ok config) (created : Session.create config = .ok start)
    {events : List Event} (plain : ∀ event ∈ events, event.IsPlain) {event : Event}
    {compilation : Compilation}
    (compiles : (LiveSession.after start events).compilation? event = some compilation)
    {consultation : Consultation}
    (consults : compilation.result.1.consultation = some consultation)
    (wanted : consultation.options.noLib = false) :
    let host := CompilerHost.ofConfig compilation.session.config
    let bridge : Bridge := { files := compilation.session.files }
    let location := (host.answer bridge .libraryLocation).1
    ((LiveSession.after start events).step event).session = compilation.result.2 ∧
      (∀ name ∈ consultation.options.rootLibraries, bridge.fileExists (location ++ name) = true) ∧
      (consultation.options.lib = [] →
        bridge.fileExists (host.answer bridge (.defaultLibrary consultation.options)).1 = true) ∧
      ∀ (compiler : ImportCompiler), ∀ name ∈ consultation.options.rootLibraries,
        .fileNotFound (location ++ name) ∉ ((compiler.backend consultation.roots
          consultation.options).run host bridge).value.diagnostics := by
  intro host bridge location
  obtain ⟨warranted, left_eq⟩ := warranted (Session.enduring_stocked config)
    (LiveSession.orderly_after (Session.enduring_stocked config)
      (Session.stocked_create built created) plain) compiles
  obtain ⟨root, approved, roots_eq, options_eq⟩ := exists_approve_of_consultation consults
  rw [options_eq] at wanted
  have stocked := warranted.holds
  have installed := warranted.installed approved wanted
  have location_eq : location = config.libraryLocation :=
    stocked.toSituated.answer_libraryLocation
  have leads : ∀ name ∈ consultation.options.rootLibraries, ∃ path,
      bridge.files.workingDirectory.resolve? (location ++ name) = some path ∧
        Occupant.IsFile (bridge.files.occupant? path) := by
    intro name listed
    rw [location_eq]
    rw [options_eq] at listed
    exact (stocked.stocks _ installed name listed).exists_file built stocked.workingDirectory
  have exist : ∀ name ∈ consultation.options.rootLibraries,
      bridge.fileExists (location ++ name) = true := by
    intro name listed
    obtain ⟨path, resolved, isFile⟩ := leads name listed
    obtain ⟨size, stat_eq⟩ := FileSystem.stat_of_isFile resolved isFile
    rw [Bridge.fileExists, Bridge.kind?, stat_eq]
    rfl
  refine ⟨left_eq, exist, fun empty => exist _ ?_, fun compiler name listed => ?_⟩
  · rw [options_eq] at empty ⊢
    rw [CompilerOptions.rootLibraries, wanted, empty]
    exact List.mem_singleton.mpr rfl
  · obtain ⟨path, resolved, isFile⟩ := leads name listed
    obtain ⟨text, readable⟩ := stocked.legible.exists_read resolved isFile
    rw [roots_eq]
    exact compiler.fileNotFound_not_mem host root.text consultation.options readable

end Compilation

namespace Sample

/-- A library comes, and then its file is written by hand. -/
def refit : List Event := [
  .start (.prepare { lib := ["ES5"] } []),
  .resume 0 (.ok ⟨200, "interface Array<T> \x7b length: number; \x7d\n"⟩),
  .makeDirectories "/libs/lib.es5.d.ts/deep",
  .write "/libs/lib.es5.d.ts" "" .utf8]

/-- The ticket of the preparation, with options that need the same library. -/
def recompile : Event :=
  .compile 0 "index.ts" (some { lib := ["ES5"], noEmitOnError := true })
    (ImportCompiler.backend {}) fun _ => .ofUnit .ok

/-- What is compiled then, and how the backend is consulted. -/
def refitted : Option (Config × Session × Compilation × Consultation) := do
  let config ← mirrors.build.toOption
  let start ← (Session.create config).toOption
  let compilation ← (LiveSession.after start refit).compilation? recompile
  let consultation ← compilation.result.1.consultation
  if consultation.options.noLib = false ∧ consultation.options.rootLibraries = ["lib.es5.d.ts"] then
    some (config, start, compilation, consultation)
  else none

/-- The compiler finds the library. -/
theorem finds_libraries_refitted :
    ∃ config start compilation consultation, mirrors.build = .ok config ∧
      Session.create config = .ok start ∧
      (LiveSession.after start refit).compilation? recompile = some compilation ∧
      compilation.result.1.consultation = some consultation ∧
      consultation.options.rootLibraries = ["lib.es5.d.ts"] ∧
      Bridge.fileExists { files := compilation.session.files }
        (((CompilerHost.ofConfig compilation.session.config).answer
          { files := compilation.session.files } .libraryLocation).1 ++ "lib.es5.d.ts") = true := by
  have stands : refitted.isSome := by decide +kernel
  obtain ⟨found, found_eq⟩ := Option.isSome_iff_exists.mp stands
  simp only [refitted, bind, Option.bind_eq_some_iff] at found_eq
  obtain ⟨config, built, start, created, compilation, compiles, consultation, consults,
    found_eq⟩ := found_eq
  have built := eq_ok_of_toOption_eq_some built
  have created := eq_ok_of_toOption_eq_some created
  split at found_eq
  next needs =>
    obtain ⟨wanted, libraries⟩ := needs
    have plain : ∀ event ∈ refit, event.IsPlain := by decide
    obtain ⟨_, exist, _⟩ := Compilation.finds_libraries built created plain compiles consults wanted
    have listed : "lib.es5.d.ts" ∈ consultation.options.rootLibraries := by simp [libraries]
    exact ⟨config, start, compilation, consultation, built, created, compiles, consults, libraries,
      exist _ listed⟩
  next => exact nomatch found_eq

end Sample
end Workbench
