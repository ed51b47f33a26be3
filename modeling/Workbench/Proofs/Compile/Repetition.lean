import Workbench.Compile.Imports
import Workbench.Compile.Script
import Workbench.Proofs.Compile.Watching

/-!
# Units that pass through the hook again

A program that has a unit pass through its hook again, on the previous result, is stopped by the
guard as long as the transformer keeps the name of the unit. The guard knows units by their names
alone, so a result with another name counts as another unit.
-/

namespace Workbench

namespace Emission

variable {α β γ : Type}

theorem bind_assoc (emission : Emission α) (next : α → Emission β) (last : β → Emission γ) :
    (emission.bind next).bind last = emission.bind fun value => (next value).bind last := by
  induction emission with
  | done value => rfl
  | fail cause => rfl
  | write file rest induction => exact congrArg (write file) induction
  | exit code rest induction => exact congrArg (exit code) induction
  | look rest induction => exact congrArg look (funext induction)
  | transform unit rest induction => exact congrArg (transform unit) (funext induction)

theorem bind_done (emission : Emission α) : emission.bind done = emission := by
  induction emission with
  | done value => rfl
  | fail cause => rfl
  | write file rest induction => exact congrArg (write file) induction
  | exit code rest induction => exact congrArg (exit code) induction
  | look rest induction => exact congrArg look (funext induction)
  | transform unit rest induction => exact congrArg (transform unit) (funext induction)

instance : LawfulMonad Emission :=
  LawfulMonad.mk' Emission bind_done (fun _ _ => rfl) bind_assoc

theorem run_bind (emission : Emission α) (next : α → Emission β) (state : EmissionState) :
    (emission >>= next).run state =
      match emission.run state with
      | (.ok value, state) => (next value).run state
      | (.error cause, state) => (.error cause, state) := by
  change (emission.bind next).run state = _
  induction emission generalizing state with
  | done value => rfl
  | fail cause => rfl
  | write file rest induction => exact induction _
  | exit code rest induction => exact induction _
  | look rest induction => exact induction _ _
  | transform unit rest induction => exact induction _ _

end Emission

/-! ## Emissions with a single hook -/

theorem Hook.given_prefix_call (hook : Hook) (token : Option Cancellation) (unit : SourceFile) :
    hook.given <+: (hook.call token unit).2.given := by
  rw [call]
  split
  next =>
    split
    next => exact List.prefix_rfl
    next =>
      split
      next => exact List.prefix_rfl
      next => exact List.prefix_append hook.given [unit]
  next => exact List.prefix_append hook.given [unit]

namespace Emission

variable {α : Type} {state : EmissionState} {hook : Hook}

theorem exists_hook (emission : Emission α) (alone : state.hooks = [hook]) :
    ∃ left, (emission.run state).2.hooks = [left] ∧ hook.given <+: left.given := by
  induction emission generalizing state hook with
  | done value => exact ⟨hook, alone, List.prefix_rfl⟩
  | fail cause => exact ⟨hook, alone, List.prefix_rfl⟩
  | write file next induction => exact induction alone
  | exit code next induction => exact induction alone
  | look next induction => exact induction _ alone
  | transform unit next induction =>
      rw [run, alone, Hook.callAll_singleton]
      have alone' : EmissionState.hooks { state with hooks := [(hook.call state.token unit).2] } =
          [(hook.call state.token unit).2] := rfl
      obtain ⟨left, left_eq, more⟩ := induction (hook.call state.token unit).1 alone'
      exact ⟨left, left_eq, (hook.given_prefix_call state.token unit).trans more⟩

theorem run_transformed (unit : SourceFile) (alone : state.hooks = [hook]) :
    (transformed unit).run state = ((hook.call state.token unit).1,
      { state with hooks := [(hook.call state.token unit).2] }) := by
  rw [transformed, run, alone, Hook.callAll_singleton]
  rcases hook.call state.token unit with ⟨answer, left⟩
  cases answer <;> rfl

theorem run_checkpoint (state : EmissionState) :
    checkpoint.run state =
      ((match (state.token.getD {}).code with
        | some code => .error (.cancelled code)
        | none => .ok ()), state) := by
  rw [checkpoint, run]
  rcases state.token with _ | ⟨_ | code⟩ <;> rfl

end Emission

/-! ## The second pass -/

/-- The program has the unit pass through its hooks twice or more often, each time on the previous
result. It may look for a request to stop before. -/
def Program.Repasses (program : Program) (unit : SourceFile) : Prop :=
  ∃ (looks : Bool) (passes : Nat) (more : SourceFile → Emission EmitResult),
    program.emit (some unit) = do
      (if looks then Emission.checkpoint else pure ())
      let result ← Emission.transformedTimes (passes + 2) unit
      more result

theorem ImportCompiler.repasses_program {compiler : ImportCompiler}
    (twice : compiler.transformTwice = true) (roots : List String) {options : CompilerOptions}
    {draft : Draft} (emits : (options.noEmitOnError && draft.diagnostics.hasErrors) = false)
    {unit : SourceFile} (produces : unit.isDeclaration = false) :
    (compiler.program roots options draft).Repasses unit := by
  refine ⟨true, 0, fun result => do
    Emission.writeFile ⟨outputName result.name, result.text⟩
    return {}, ?_⟩
  simp [program, emits, twice, emitUnit, produces]

/-- The transformer keeps the name of the unit that it is given first, unless it refuses the unit. -/
def Transformer.KeepsName (transformer : Transformer) (unit : SourceFile) : Prop :=
  ∀ result, transformer.apply [] unit = .ok result → result.name = unit.name

/-- What two passes come to before anything else is transformed. -/
theorem Emission.second_pass_fails_iff (transformer : Transformer) (token : Option Cancellation)
    (unit : SourceFile) (more : SourceFile → Emission EmitResult) :
    let outcome := (do more (← transformed (← transformed unit))).run
      { hooks := [{ transformer, guarded := true }], token }
    ∃ hook, outcome.2.hooks = [hook] ∧
      ((∃ cause, outcome.1 = .error cause) ∧ hook.given.length ≤ 1 ↔
        (token.getD {}).isCancelled ∨ transformer.KeepsName unit) := by
  intro outcome
  have first : outcome = _ := run_bind _ _ _
  rw [run_transformed unit rfl] at first
  cases stop : (token.getD {}).code with
  | some code =>
      rw [Hook.call_of_stopped rfl stop] at first
      rw [first]
      refine ⟨_, rfl, fun _ => .inl ?_, fun _ => ⟨⟨_, rfl⟩, Nat.zero_le 1⟩⟩
      rw [Cancellation.isCancelled, stop, Option.isSome_some]
  | none =>
      rw [Hook.call_of_new rfl stop List.not_mem_nil] at first
      cases result : transformer.apply [] unit with
      | error cause =>
          simp only [Hook.invoke, result] at first
          rw [first]
          refine ⟨_, rfl, fun _ => .inr fun kept kept_eq => ?_, fun _ => ⟨⟨_, rfl⟩, Nat.le_refl 1⟩⟩
          exact nomatch result.symm.trans kept_eq
      | ok kept =>
          simp only [Hook.invoke, result] at first
          rw [run_bind, run_transformed kept rfl] at first
          by_cases same : kept.name = unit.name
          next =>
            rw [Hook.call_of_given rfl stop (by simp [same])] at first
            rw [first]
            refine ⟨_, rfl, fun _ => .inr ?_, fun _ => ⟨⟨_, rfl⟩, Nat.le_refl 1⟩⟩
            intro other other_eq
            rwa [← Except.ok.inj (result.symm.trans other_eq)]
          next =>
            rw [Hook.call_of_new rfl stop (by simpa using same)] at first
            -- Whatever comes after, the transformer has been given two units by now.
            have twice : ∃ hook, outcome.2.hooks = [hook] ∧ [unit, kept] <+: hook.given := by
              rw [first, Hook.invoke]
              dsimp only [List.nil_append, List.cons_append]
              cases transformer.apply [unit] kept with
              | error cause => exact ⟨⟨transformer, true, [unit, kept]⟩, rfl, List.prefix_rfl⟩
              | ok last => exact @exists_hook _ _ ⟨transformer, true, [unit, kept]⟩ (more last) rfl
            obtain ⟨hook, alone, given⟩ := twice
            refine ⟨hook, alone, fun fails => ?_, ?_⟩
            · exact absurd (Nat.le_trans given.length_le fails.2) (Nat.not_succ_le_self 1)
            · rintro (cancelled | keeps)
              · rw [Cancellation.isCancelled, stop] at cancelled
                exact nomatch cancelled
              · exact absurd (keeps kept result) same

theorem Program.emitWithTransform_fails_iff (program : Program) (entry : SourceFile)
    (transformer : Program → Transformer) (token : Option Cancellation) :
    (∃ cause, (program.emitWithTransform entry transformer token).1 = .error cause) ↔
      ∃ cause, ((program.emit (some entry)).run
        { hooks := [{ transformer := transformer program, guarded := true }], token }).1 =
          .error cause := by
  rw [emitWithTransform, emitWith]
  rcases (program.emit (some entry)).run _ with ⟨_ | _, state⟩
  · exact iff_of_true ⟨_, rfl⟩ ⟨_, rfl⟩
  · exact iff_of_false (fun ⟨_, fails⟩ => nomatch fails) (fun ⟨_, fails⟩ => nomatch fails)

/-- A unit that passes through a guarded hook again makes the emission fail, and the transformer is
given that unit alone if at all, exactly when a stop was requested or the transformer keeps the name
of the unit. -/
theorem Program.repeated_pass_fails_iff {program : Program} {entry : SourceFile}
    (repasses : program.Repasses entry) (transformer : Program → Transformer)
    (token : Option Cancellation) :
    ∃ hook, (program.emitWithTransform entry transformer token).2.hooks = [hook] ∧
      ((∃ cause, (program.emitWithTransform entry transformer token).1 = .error cause) ∧
          hook.given.length ≤ 1 ↔
        (token.getD {}).isCancelled ∨ (transformer program).KeepsName entry) := by
  obtain ⟨looks, passes, more, emit_eq⟩ := repasses
  rw [Program.emitWithTransform_fails_iff, Program.emitWithTransform, Program.emitWith, emit_eq,
    Emission.run_bind]
  have passes_iff := Emission.second_pass_fails_iff (transformer program) token entry
    fun last => Emission.transformedTimes passes last >>= more
  have passes_eq : (Emission.transformedTimes (passes + 2) entry >>= more) =
      (Emission.transformed entry >>= fun kept => Emission.transformed kept >>= fun last =>
        Emission.transformedTimes passes last >>= more) := by
    simp only [Emission.transformedTimes, bind_assoc]
  rw [← passes_eq] at passes_iff
  cases looks with
  | false => exact passes_iff
  | true =>
      rw [if_pos rfl, Emission.run_checkpoint]
      cases stop : (token.getD {}).code with
      | none => exact passes_iff
      | some code =>
          refine ⟨_, rfl, fun _ => .inl ?_, fun _ => ⟨⟨_, rfl⟩, Nat.zero_le 1⟩⟩
          rw [Cancellation.isCancelled, stop, Option.isSome_some]

namespace Sample

/-- A unit that has output. -/
def indexUnit : SourceFile := ⟨"/index.ts", "let a = 1;", .es2015⟩

/-- A program of the unit that has units pass through the hooks twice. -/
def twiceProgram : Program :=
  { transformTwice := true : ImportCompiler }.program [indexUnit.name] { noLib := true }
    { units := [indexUnit] }

theorem twiceProgram_repasses : twiceProgram.Repasses indexUnit :=
  ImportCompiler.repasses_program rfl _ rfl (by decide)

/-- A transformer that keeps the name of the unit while it changes the text is called once. -/
theorem repeated_pass_fails_iff_newText : twiceProgram.Repasses indexUnit ∧
    let transformer := Transformer.ofUnit fun unit => .ok { unit with text := unit.text ++ "//" }
    transformer.KeepsName indexUnit ∧
      ∃ hook, (twiceProgram.emitWithTransform indexUnit (fun _ => transformer) none).2.hooks =
          [hook] ∧
        (∃ cause, (twiceProgram.emitWithTransform indexUnit (fun _ => transformer) none).1 =
          .error cause) ∧ hook.given.length ≤ 1 := by
  refine ⟨twiceProgram_repasses, ?_⟩
  intro transformer
  have keeps : transformer.KeepsName indexUnit := fun result result_eq => by
    rw [← Except.ok.inj result_eq]
  obtain ⟨hook, alone, fails_iff⟩ :=
    Program.repeated_pass_fails_iff twiceProgram_repasses (fun _ => transformer) none
  exact ⟨keeps, hook, alone, fails_iff.mpr (.inr keeps)⟩

/-- A transformer that changes the name of the unit is called on it twice, and the emission
succeeds. -/
theorem repeated_pass_succeeds : indexUnit.isDeclaration = false ∧
    twiceProgram.Repasses indexUnit ∧
    let transformer := Transformer.ofUnit fun unit => .ok { unit with name := unit.name ++ ".x" }
    let outcome := twiceProgram.emitWithTransform indexUnit (fun _ => transformer) none
    outcome.1 = .ok { files := [⟨"/index.ts.x.x.js", "let a = 1;"⟩] } ∧
      outcome.2.hooks.map (·.given) = [[indexUnit, { indexUnit with name := "/index.ts.x" }]] := by
  refine ⟨by decide, twiceProgram_repasses, ?_, ?_⟩
  · decide
  · decide

end Sample

end Workbench
