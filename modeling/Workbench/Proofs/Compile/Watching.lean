import Mathlib.Data.List.Nodup
import Workbench.Compile.Program

/-!
# Hooks under watch

During an emission a program may call its hook on any units and request a stop at any time, and what
it does next may depend on every answer. Whatever it does, the transformer behind a guarded hook is
given just the first unit of every name that comes before the first request to stop. All other calls
are refused, with the code of that request or with the name that comes again.
-/

namespace Workbench

/-- What a program does that concerns its hook. -/
inductive EmissionStep where
  /-- It calls the hook on a unit and gets the answer. -/
  | called (unit : SourceFile) (answer : Except TransformError SourceFile)
  /-- It requests a stop. -/
  | stopped (code : Int)

namespace EmissionStep

/-- The code of a request to stop. -/
def code? : EmissionStep → Option Int
  | called _ _ => none
  | stopped code => some code

/-- The name of the unit that the hook is called on. -/
def name? : EmissionStep → Option String
  | called unit _ => some unit.name
  | stopped _ => none

/-- The code of the first request to stop. -/
def firstCode? (story : List EmissionStep) : Option Int := story.findSome? code?

/-- The names of all units that the hook was called on. -/
def names (story : List EmissionStep) : List String := story.filterMap name?

/-- The units that come first under their names, before any request to stop; those with the names
that were seen come too late. -/
def firsts (seen : List String) : List EmissionStep → List SourceFile
  | [] => []
  | stopped _ :: _ => []
  | called unit _ :: more =>
    if unit.name ∈ seen then firsts seen more else unit :: firsts (unit.name :: seen) more

/-- What a guarded hook answers after the story so far. -/
structure IsGuarded (transformer : Transformer) (story : List EmissionStep) (unit : SourceFile)
    (answer : Except TransformError SourceFile) : Prop where
  /-- Once a stop was requested, the code of the first request. -/
  cancelled : ∀ code, firstCode? story = some code → answer = .error (.cancelled code)
  /-- Else, the name of a unit that comes again. -/
  repeated : firstCode? story = none → unit.name ∈ names story →
    answer = .error (.repeated unit.name)
  /-- Else, what the transformer gives after the units that it was given. -/
  applied : firstCode? story = none → unit.name ∉ names story →
    answer = transformer.apply (firsts [] story) unit

end EmissionStep

/-- The requests to stop that had been made when the token had this state. -/
def Cancellation.requests (token : Cancellation) : List EmissionStep :=
  token.code.toList.map .stopped

/-- What the emission does, from the given state on. -/
def Emission.steps {α : Type} : Emission α → EmissionState → List EmissionStep
  | done _, _ => []
  | fail _, _ => []
  | write file next, state => next.steps { state with files := state.files ++ [file] }
  | exit code next, state =>
    .stopped code :: next.steps { state with token := state.token.map (·.cancel code) }
  | look next, state => (next (state.token.bind (·.code))).steps state
  | transform unit next, state =>
    let (answer, hooks) := Hook.callAll state.token state.hooks unit
    .called unit answer :: (next answer).steps { state with hooks }

/-- The story of an emission with a guarded hook, from before the token was handed over. -/
def Program.story (program : Program) (entry : SourceFile) (transformer : Program → Transformer)
    (token : Cancellation) : List EmissionStep :=
  token.requests ++ (program.emit (some entry)).steps
    { hooks := [{ transformer := transformer program, guarded := true }], token := some token }

namespace EmissionStep

variable {story before after : List EmissionStep} {seen : List String}

/-! ## Stories that go on -/

theorem firstCode?_append (before after : List EmissionStep) :
    firstCode? (before ++ after) = (firstCode? before).or (firstCode? after) :=
  List.findSome?_append

theorem firsts_append_of_stopped {code : Int} (stopped : firstCode? before = some code)
    (seen : List String) (after : List EmissionStep) :
    firsts seen (before ++ after) = firsts seen before := by
  induction before generalizing seen with
  | nil => exact nomatch stopped
  | cons step before induction =>
      cases step with
      | stopped code => rfl
      | called unit answer =>
          have later : firstCode? before = some code := stopped
          rw [List.cons_append, firsts, firsts, induction later, induction later]

theorem mem_names_firsts_iff (quiet : firstCode? story = none) (seen : List String) (name : String) :
    name ∈ (firsts seen story).map (·.name) ∨ name ∈ seen ↔ name ∈ names story ∨ name ∈ seen := by
  induction story generalizing seen with
  | nil => rfl
  | cons step story induction =>
      cases step with
      | stopped code => exact nomatch quiet
      | called unit answer =>
          have later : firstCode? story = none := quiet
          have names_eq : names (called unit answer :: story) = unit.name :: names story := rfl
          rw [names_eq, firsts]
          split
          next old =>
            have rest := induction later seen
            simp only [List.mem_cons] at rest ⊢
            grind
          next new =>
            have rest := induction later (unit.name :: seen)
            simp only [List.map_cons, List.mem_cons] at rest ⊢
            tauto

/-- Until a stop is requested, a call adds its unit to the firsts unless the name comes again. -/
theorem firsts_concat (quiet : firstCode? story = none) (seen : List String) (unit : SourceFile)
    (answer : Except TransformError SourceFile) :
    firsts seen (story ++ [called unit answer]) = firsts seen story ++
      if unit.name ∈ names story ∨ unit.name ∈ seen then [] else [unit] := by
  induction story generalizing seen with
  | nil =>
      rw [List.nil_append, firsts]
      split <;> simp_all [names, firsts]
  | cons step story induction =>
      cases step with
      | stopped code => exact nomatch quiet
      | called other answer' =>
          have later : firstCode? story = none := quiet
          have names_eq : names (called other answer' :: story) = other.name :: names story := rfl
          rw [names_eq, List.cons_append, firsts, firsts, induction later, induction later]
          by_cases old : other.name ∈ seen <;> by_cases again : unit.name = other.name <;>
            simp_all

theorem firsts_concat_stopped (seen : List String) (story : List EmissionStep) (code : Int) :
    firsts seen (story ++ [stopped code]) = firsts seen story := by
  induction story generalizing seen with
  | nil => rfl
  | cons step story induction =>
      cases step with
      | stopped code => rfl
      | called unit answer => rw [List.cons_append, firsts, firsts, induction, induction]

theorem nodup_names_firsts (seen : List String) (story : List EmissionStep) :
    ((firsts seen story).map (·.name)).Nodup ∧
      ∀ name ∈ (firsts seen story).map (·.name), name ∉ seen := by
  induction story generalizing seen with
  | nil => exact ⟨List.nodup_nil, nofun⟩
  | cons step story induction =>
      cases step with
      | stopped code => exact ⟨List.nodup_nil, nofun⟩
      | called unit answer =>
          rw [firsts]
          split
          next => exact induction seen
          next new =>
            obtain ⟨apart, unseen⟩ := induction (unit.name :: seen)
            refine ⟨List.nodup_cons.mpr ⟨fun again => ?_, apart⟩, ?_⟩
            · exact unseen _ again List.mem_cons_self
            · refine List.forall_mem_cons.mpr ⟨new, fun name member old => ?_⟩
              exact unseen name member (List.mem_cons_of_mem _ old)

end EmissionStep

/-! ## One step -/

theorem Hook.callAll_singleton (token : Option Cancellation) (hook : Hook) (unit : SourceFile) :
    callAll token [hook] unit = ((hook.call token unit).1, [(hook.call token unit).2]) := by
  rw [callAll]
  rcases hook.call token unit with ⟨answer, left⟩
  cases answer <;> rfl

section

variable {hook : Hook} {token : Option Cancellation} {unit : SourceFile}

theorem Hook.call_of_stopped (guarded : hook.guarded = true) {code : Int}
    (stopped : (token.getD {}).code = some code) :
    hook.call token unit = (.error (.cancelled code), hook) := by
  simp only [call, guarded, ↓reduceIte, Cancellation.check, stopped]

theorem Hook.call_of_given (guarded : hook.guarded = true) (quiet : (token.getD {}).code = none)
    (old : unit.name ∈ hook.given.map (·.name)) :
    hook.call token unit = (.error (.repeated unit.name), hook) := by
  simp only [call, guarded, ↓reduceIte, Cancellation.check, quiet, if_pos old]

theorem Hook.call_of_new (guarded : hook.guarded = true) (quiet : (token.getD {}).code = none)
    (new : unit.name ∉ hook.given.map (·.name)) : hook.call token unit = hook.invoke unit := by
  simp only [call, guarded, ↓reduceIte, Cancellation.check, quiet, if_neg new]

end

theorem eq_or_exists_of_concat_eq {α : Type} {story before after : List α} {last step : α}
    (parts : story ++ [last] = before ++ step :: after) :
    story = before ∧ last = step ∨ ∃ rest, story = before ++ step :: rest := by
  rcases after.eq_nil_or_concat with rfl | ⟨rest, final, rfl⟩
  · obtain ⟨same, one⟩ := List.append_inj' parts rfl
    exact .inl ⟨same, List.head_eq_of_cons_eq one⟩
  · rw [List.concat_eq_append, ← List.cons_append, ← List.append_assoc] at parts
    exact .inr ⟨rest, (List.append_inj' parts rfl).1⟩

/-- After the story the hook has been given the firsts, the token has the first code, and every
answer was that of a guarded hook. -/
structure EmissionState.Watched (transformer : Transformer) (story : List EmissionStep)
    (state : EmissionState) : Prop where
  hooks : state.hooks =
    [{ transformer, guarded := true, given := EmissionStep.firsts [] story }]
  token : state.token = some ⟨EmissionStep.firstCode? story⟩
  answers : ∀ before unit answer after, story = before ++ .called unit answer :: after →
    EmissionStep.IsGuarded transformer before unit answer

namespace EmissionState.Watched

open EmissionStep (IsGuarded firsts firstCode? names)

variable {transformer : Transformer} {story : List EmissionStep} {state : EmissionState}

theorem write (watched : state.Watched transformer story) (files : List EmittedFile) :
    Watched transformer story { state with files } := ⟨watched.hooks, watched.token, watched.answers⟩

/-- A request to stop changes the token unless there was one before. -/
theorem exit (watched : state.Watched transformer story) (code : Int) :
    Watched transformer (story ++ [.stopped code])
      { state with token := state.token.map (·.cancel code) } := by
  refine ⟨?_, ?_, fun before unit answer after parts => ?_⟩
  · rw [EmissionStep.firsts_concat_stopped]
    exact watched.hooks
  · rw [watched.token, EmissionStep.firstCode?_append]
    cases firstCode? story <;> rfl
  · rcases eq_or_exists_of_concat_eq parts with ⟨_, impossible⟩ | ⟨rest, story_eq⟩
    · exact nomatch impossible
    · exact watched.answers before unit answer rest story_eq

/-- A guarded hook that has been given the firsts answers as it should, and is given the firsts of
the story that goes on. -/
theorem exists_call_eq (transformer : Transformer) (story : List EmissionStep) (unit : SourceFile) :
    ∃ answer, Hook.call (some ⟨firstCode? story⟩)
        { transformer, guarded := true, given := firsts [] story } unit =
          (answer, { transformer, guarded := true,
                     given := firsts [] (story ++ [.called unit answer]) }) ∧
      IsGuarded transformer story unit answer := by
  cases first : firstCode? story with
  | some code =>
      refine ⟨.error (.cancelled code), ?_, ?_, ?_, ?_⟩
      · rw [Hook.call_of_stopped rfl rfl, EmissionStep.firsts_append_of_stopped first]
      · intro own own_eq
        rw [Option.some.inj (first.symm.trans own_eq)]
      · exact fun quiet => nomatch first.symm.trans quiet
      · exact fun quiet => nomatch first.symm.trans quiet
  | none =>
      have known_iff := EmissionStep.mem_names_firsts_iff first [] unit.name
      have given_eq := EmissionStep.firsts_concat first [] unit
      simp only [List.not_mem_nil, or_false] at known_iff given_eq
      by_cases again : unit.name ∈ names story
      · refine ⟨.error (.repeated unit.name), ?_, ?_, fun _ _ => rfl, fun _ new => absurd again new⟩
        · rw [Hook.call_of_given rfl rfl (known_iff.mpr again), given_eq, if_pos again,
            List.append_nil]
        · exact fun code stopped => nomatch first.symm.trans stopped
      · refine ⟨transformer.apply (firsts [] story) unit, ?_, ?_, fun _ old => absurd old again,
          fun _ _ => rfl⟩
        · rw [Hook.call_of_new rfl rfl (mt known_iff.mp again), given_eq, if_neg again]
          rfl
        · exact fun code stopped => nomatch first.symm.trans stopped

theorem call (watched : state.Watched transformer story) (unit : SourceFile) :
    ∃ answer hooks, Hook.callAll state.token state.hooks unit = (answer, hooks) ∧
      Watched transformer (story ++ [.called unit answer]) { state with hooks } := by
  obtain ⟨answer, call_eq, isGuarded⟩ := exists_call_eq transformer story unit
  refine ⟨answer, _, ?_, rfl, ?_, fun before other answer' after parts => ?_⟩
  · rw [watched.hooks, watched.token, Hook.callAll_singleton, call_eq]
  · rw [EmissionStep.firstCode?_append]
    exact watched.token.trans (by cases firstCode? story <;> rfl)
  · rcases eq_or_exists_of_concat_eq parts with ⟨rfl, same⟩ | ⟨rest, story_eq⟩
    · obtain ⟨rfl, rfl⟩ := EmissionStep.called.inj same
      exact isGuarded
    · exact watched.answers before other answer' rest story_eq

end EmissionState.Watched

/-! ## All of an emission -/

theorem EmissionState.watched_start (transformer : Transformer) (token : Cancellation) :
    Watched transformer token.requests
      { hooks := [{ transformer, guarded := true }], token := some token } := by
  obtain ⟨code⟩ := token
  refine ⟨by cases code <;> rfl, by cases code <;> rfl, fun before unit answer after parts => ?_⟩
  have member : .called unit answer ∈ Cancellation.requests ⟨code⟩ := by
    rw [parts]
    exact List.mem_append_right before List.mem_cons_self
  obtain ⟨_, _, impossible⟩ := List.mem_map.mp member
  exact nomatch impossible

theorem Emission.watched_run {α : Type} (emission : Emission α) {transformer : Transformer}
    {story : List EmissionStep} {state : EmissionState} (watched : state.Watched transformer story) :
    (emission.run state).2.Watched transformer (story ++ emission.steps state) := by
  induction emission generalizing story state with
  | done value => simpa [steps, run] using watched
  | fail cause => simpa [steps, run] using watched
  | write file next induction => exact induction (watched.write _)
  | exit code next induction =>
      have rest := induction (watched.exit code)
      rw [List.append_assoc] at rest
      exact rest
  | look next induction => exact induction _ watched
  | transform unit next induction =>
      obtain ⟨answer, hooks, called, after⟩ := watched.call unit
      have rest := induction answer after
      rw [List.append_assoc] at rest
      simp only [steps, run, called]
      exact rest

/-- Whatever the program does and whoever requests a stop, the transformer is given units of
different names, none of them after the first request to stop, and each call of its hook is answered
as a guarded hook should. -/
theorem Program.hook_guards (program : Program) (entry : SourceFile)
    (transformer : Program → Transformer) (token : Cancellation) :
    ∃ hook, (program.emitWithTransform entry transformer (some token)).2.hooks = [hook] ∧
      hook.given = EmissionStep.firsts [] (program.story entry transformer token) ∧
      (hook.given.map (·.name)).Nodup ∧
      (∀ before after code, program.story entry transformer token = before ++ after →
        EmissionStep.firstCode? before = some code → hook.given = EmissionStep.firsts [] before) ∧
      ∀ before unit answer after,
        program.story entry transformer token = before ++ .called unit answer :: after →
        EmissionStep.IsGuarded (transformer program) before unit answer := by
  have watched := (program.emit (some entry)).watched_run
    (EmissionState.watched_start (transformer program) token)
  refine ⟨_, watched.hooks, rfl, (EmissionStep.nodup_names_firsts _ _).1, ?_, watched.answers⟩
  intro before after code parts first
  rw [← EmissionStep.firsts_append_of_stopped first [] after, ← parts]
  rfl

end Workbench
