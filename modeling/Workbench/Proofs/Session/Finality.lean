import Workbench.Proofs.Session.Interleaving

/-!
# When a recorded outcome is final

A call looks whether an outcome is recorded before it waits for a package, and not again when the
package has come. So two current calls that wait for the same package record two outcomes, of which
the later stays. Where no two current calls ever wait for the same package, outcomes are final.
-/

namespace Workbench
namespace SharedSession

/-- The call at the place is current and waits for the package. -/
def Awaits (shared : SharedSession) (index : Nat) (name : String) : Prop :=
  ∃ call url invocation, shared.calls[index]? = some call ∧
    call.progress = .waiting url invocation ∧ invocation.awaited? = some name ∧
    call.generation = shared.session.generation

/-- Two current calls wait for the package. -/
def Contended (shared : SharedSession) (name : String) : Prop :=
  ∃ first second, first ≠ second ∧ shared.Awaits first name ∧ shared.Awaits second name

/-! ## One turn -/

namespace Effect

variable {seen : Session → Prop} {shared after : SharedSession} {turn : Turn} {name : String}

theorem config (effect : Effect seen shared turn after) :
    after.session.config = shared.session.config := by
  cases effect with
  | begin advance => exact advance.stretch.config
  | resume _ advance => exact advance.stretch.config
  | idle => rfl

/-- A record changes only where there is none and no request is to be made, or by a current call
that waited for the package. -/
theorem record_cases (effect : Effect seen shared turn after) (name : String) :
    after.session.packages.get? name = shared.session.packages.get? name ∨
      (shared.session.packages.get? name = none ∧ ¬shared.session.IsRequestable name) ∨
      shared.Awaits (turn.actor shared) name := by
  cases effect with
  | begin advance =>
      rcases advance.stretch.records name nofun with kept | fresh
      · exact .inl kept
      · exact .inr (.inl fresh)
  | @resume index reply purpose packages number url invocation _ _ found advance =>
      by_cases awaited : invocation.awaited? = some name
      · by_cases current : shared.session.generation = number
        · exact .inr (.inr ⟨_, url, invocation, found, rfl, awaited, current.symm⟩)
        · have unchanged := advance.stretch.stale current
          dsimp only at unchanged
          exact .inl (by rw [unchanged])
      · rcases advance.stretch.records name awaited with kept | fresh
        · exact .inl kept
        · exact .inr (.inl fresh)
  | idle => exact .inl rfl

/-- A current call that waits for a package waited for it before the turn, or it found that nothing
is recorded. -/
theorem awaits_cases (effect : Effect seen shared turn after)
    (numbered : ∀ (index : Nat) (call : Call), shared.calls[index]? = some call →
      call.generation ≤ shared.session.generation)
    {index : Nat} (awaits : after.Awaits index name) :
    (shared.Awaits index name ∧ (turn.actor shared = index → after.session = shared.session)) ∨
      (after.session.packages.get? name = none ∧ after.session.IsRequestable name) := by
  obtain ⟨call, url, invocation, found, waiting, awaited, current⟩ := awaits
  have grows := effect.generation
  rcases effect.call_cases found with ⟨before, same⟩ | ⟨_, _, _, advance⟩ |
    ⟨reply, url', invocation', _, before, advance⟩
  · have bound := numbered index call before
    have current : call.generation = shared.session.generation := by omega
    exact .inl ⟨⟨call, url, invocation, before, waiting, awaited, current⟩,
      fun here => by rw [same here]⟩
  · rcases advance.awaiting url invocation name waiting awaited with ⟨impossible, _⟩ | fresh
    · exact nomatch impossible
    · exact .inr fresh
  · rcases advance.awaiting url invocation name waiting awaited with ⟨awaited', unchanged⟩ | fresh
    · dsimp only at unchanged
      have current : call.generation = shared.session.generation := by rw [current, unchanged]
      exact .inl ⟨⟨_, url', invocation', before, rfl, awaited', current⟩, fun _ => unchanged⟩
    · exact .inr fresh

end Effect

/-! ## Schedules without contention -/

variable {start : Session} {turns : Nat → Turn} {time : Nat} {name : String}

theorem generation_le_moment (index : Nat) (call : Call)
    (found : (moment start turns time).calls[index]? = some call) :
    call.generation ≤ (moment start turns time).session.generation := by
  obtain ⟨began, order, _, _, newest⟩ := exists_beginning found
  rw [newest]
  exact generation_moment_mono start turns order

theorem unrecorded_of_awaits
    (free : ∀ earlier ≤ time, ¬(moment start turns earlier).Contended name) {index : Nat}
    (awaits : (moment start turns time).Awaits index name) :
    (moment start turns time).session.packages.get? name = none ∧
      (moment start turns time).session.IsRequestable name := by
  induction time with
  | zero =>
      obtain ⟨call, _, _, found, _⟩ := awaits
      exact nomatch found
  | succ time induction =>
      have effect := effect_moment start turns time
      rcases effect.awaits_cases generation_le_moment awaits with ⟨before, alone⟩ | fresh
      · obtain ⟨unrecorded, requestable⟩ :=
          induction (fun earlier bound => free earlier (Nat.le_succ_of_le bound)) before
        have requestable' := (Session.isRequestable_congr effect.config name).mpr requestable
        rcases effect.record_cases name with kept | ⟨_, idle⟩ | acting
        · exact ⟨kept.trans unrecorded, requestable'⟩
        · exact absurd requestable idle
        · by_cases here : (turns time).actor (moment start turns time) = index
          · exact ⟨by rw [alone here, unrecorded], requestable'⟩
          · exact absurd ⟨_, _, here, acting, before⟩ (free time (Nat.le_succ time))
      · exact fresh

theorem record_kept (free : ∀ earlier ≤ time, ¬(moment start turns earlier).Contended name)
    {state : PackageState}
    (recorded : (moment start turns time).session.packages.get? name = some state) :
    (moment start turns (time + 1)).session.packages.get? name = some state := by
  rcases (effect_moment start turns time).record_cases name with kept | ⟨unrecorded, _⟩ | acting
  · exact kept.trans recorded
  · exact nomatch unrecorded.symm.trans recorded
  · exact nomatch (unrecorded_of_awaits free acting).1.symm.trans recorded

theorem record_kept_of_le {earlier later : Nat} (order : earlier ≤ later)
    (free : ∀ moment' < later, ¬(moment start turns moment').Contended name) {state : PackageState}
    (recorded : (moment start turns earlier).session.packages.get? name = some state) :
    (moment start turns later).session.packages.get? name = some state := by
  induction order with
  | refl => exact recorded
  | step _ induction =>
      refine record_kept (fun moment' bound => free moment' (Nat.lt_succ_of_le bound)) ?_
      exact induction fun moment' bound => free moment' (Nat.lt_succ_of_lt bound)

/-! ## What contention can do -/

theorem turn_resume {shared : SharedSession} {index : Nat} {purpose : Purpose}
    {packages : List String} {number : Nat} {url : Url} {invocation : Invocation} (reply : Reply)
    (found : shared.calls[index]? = some ⟨purpose, packages, number, .waiting url invocation⟩) :
    shared.turn (.resume index reply) =
      ⟨((invocation.resume reply).run shared.session).2,
        shared.calls.set index
          ⟨purpose, packages, number, ((invocation.resume reply).run shared.session).1⟩⟩ := by
  simp only [turn, found]
  rfl

theorem record_of_refused {seen : Session → Prop} {shared : SharedSession}
    (orderly : shared.Orderly seen) {index : Nat} (awaits : shared.Awaits index name)
    (cause : FetchError) :
    (shared.turn (.resume index (.error cause))).session.packages.get? name =
      some (.failed cause) := by
  obtain ⟨⟨purpose, packages, number, _⟩, url, invocation, found, rfl, awaited, current⟩ := awaits
  rw [turn_resume (.error cause) found]
  exact Invocation.record_of_refused (orderly index _ found) awaited current.symm cause

theorem awaits_turn_resume {seen : Session → Prop} {shared : SharedSession}
    (orderly : shared.Orderly seen) {index other : Nat} (distinct : index ≠ other)
    (awaits : shared.Awaits other name) (reply : Reply) :
    (shared.turn (.resume index reply)).Awaits other name := by
  obtain ⟨call, url, invocation, found, waiting, awaited, current⟩ := awaits
  have effect := effect_turn orderly (.resume index reply)
  refine ⟨call, url, invocation, ?_, waiting, awaited, ?_⟩
  · exact effect.calls_eq_of_ne distinct found
  · rw [effect.generation, current]
    rfl

theorem moment_congr {turns' : Nat → Turn}
    (same : ∀ earlier < time, turns' earlier = turns earlier) :
    moment start turns' time = moment start turns time := by
  induction time with
  | zero => rfl
  | succ time induction =>
      rw [moment, moment, induction fun earlier bound => same earlier (Nat.lt_succ_of_lt bound),
        same time (Nat.lt_succ_self time)]

/-- The schedule that goes on from the time with the refusal of two calls. -/
def refuseBoth (turns : Nat → Turn) (time first second : Nat) (cause cause' : FetchError)
    (now : Nat) : Turn :=
  if now < time then turns now
  else if now = time then .resume first (.error cause)
  else .resume second (.error cause')

/-- Of two current calls that wait for a package, the later one replaces what the other recorded. -/
theorem exists_replaced_of_contended
    (contended : (moment start turns time).Contended name) :
    ∃ turns', (∀ earlier < time, turns' earlier = turns earlier) ∧
      ∃ state state', state ≠ state' ∧
        (moment start turns' (time + 1)).session.packages.get? name = some state ∧
        (moment start turns' (time + 2)).session.packages.get? name = some state' := by
  obtain ⟨first, second, distinct, awaits, awaits'⟩ := contended
  have ⟨_, url, _⟩ := awaits
  let cause : FetchError := .transport url "refused"
  let cause' : FetchError := .transport url "timed out"
  have different : PackageState.failed cause ≠ .failed cause' := by simp [cause, cause']
  let turns' := refuseBoth turns time first second cause cause'
  have same : ∀ earlier < time, turns' earlier = turns earlier := fun earlier bound => if_pos bound
  have now : turns' time = .resume first (.error cause) := by simp [turns', refuseBoth]
  have next : turns' (time + 1) = .resume second (.error cause') := by simp [turns', refuseBoth]
  have orderly := orderly_moment start turns time
  have orderly' := orderly_moment start turns' (time + 1)
  refine ⟨turns', same, .failed cause, .failed cause', different, ?_, ?_⟩
  · rw [moment, moment_congr same, now]
    exact record_of_refused orderly awaits cause
  · rw [moment, next]
    refine record_of_refused orderly' ?_ cause'
    rw [moment, moment_congr same, now]
    exact awaits_turn_resume orderly distinct awaits' _

/-- Recorded outcomes are final exactly as long as no two current calls wait for one package. Until
that happens a package keeps its recorded outcome, and a preparation that succeeds leaves its
packages in place; once it happens, the schedule can go on so that an outcome is replaced. -/
theorem record_final_unless_contended (start : Session) (turns : Nat → Turn) (time : Nat) :
    (∀ name state, (∀ earlier ≤ time, ¬(moment start turns earlier).Contended name) →
      (moment start turns time).session.packages.get? name = some state →
      (moment start turns (time + 1)).session.packages.get? name = some state) ∧
    (∀ index call options number, Returns start turns time index call (.ok number) →
      call.purpose = .prepare options →
      (∀ name ∈ call.packages, ∀ earlier ≤ time, ¬(moment start turns earlier).Contended name) →
      ∀ name ∈ call.packages, (moment start turns (time + 1)).session.IsReady name) ∧
    ∀ name, (moment start turns time).Contended name →
      ∃ turns', (∀ earlier < time, turns' earlier = turns earlier) ∧
        ∃ state state', state ≠ state' ∧
          (moment start turns' (time + 1)).session.packages.get? name = some state ∧
          (moment start turns' (time + 2)).session.packages.get? name = some state' := by
  refine ⟨fun name state free => record_kept free, ?_, fun name => exists_replaced_of_contended⟩
  intro index call options number returns strict free name member
  have standing := orderly_moment start turns (time + 1) index call returns.found
  rw [returns.done] at standing
  obtain ⟨rfl, provided⟩ := standing
  obtain ⟨_, ⟨earlier, bound, rfl⟩, entry, version, recorded⟩ :=
    (provided options strict).2 name member
  have free' : ∀ moment' < time + 1, ¬(moment start turns moment').Contended name :=
    fun moment' before => free name member moment' (Nat.le_of_lt_succ before)
  exact ⟨entry, version, record_kept_of_le bound free' recorded⟩

/-! ## An outcome that does not last -/

/-- A session of an editor that gets its packages from a small registry. -/
def sampleSession : Session where
  config :=
    { userAgent := "editor"
      registry :=
        ⟨"https", some { host := .domain "registry.test" }, .segments [""], none, none⟩
      library := ⟨"https", some { host := .domain "libs.test" }, .segments [""], none, none⟩
      currentDirectory := .root
      libraryDirectory := "libs/"
      packageVersion := "0.0.0"
      resolution := .shallow }
  files := .bare .root

/-- The options of a preparation that needs no libraries. -/
def withoutLibraries : CompilerOptions := { noLib := true }

/-- While a preparation waits for its second package, a fetch ahead of time that began before the
first package came finds that the registry no longer has it. -/
def rivalry : Nat → Turn
  | 0 => .begin (.prepare withoutLibraries) ["p", "q"]
  | 1 => .begin .preload ["p"]
  | 4 => .resume 1 (.ok ⟨404, ""⟩)
  | 2 | 5 => .resume 0 (.ok ⟨200, "\x7b\"types\":\"index.d.ts\"\x7d"⟩)
  | _ => .resume 0 (.ok ⟨200, "export {}"⟩)

/-- A recorded package is lost again, and the preparation that asked for it succeeds. -/
theorem rivalry_replaces_record :
    (moment sampleSession rivalry 4).session.packages.get? "p" =
      some (.ready (((Path.root.step "node_modules").step "p").step "index.d.ts") none) ∧
    (∃ call, Returns sampleSession rivalry 6 0 call (.ok 1) ∧
      call.purpose = .prepare withoutLibraries ∧ "p" ∈ call.packages) ∧
    ¬(moment sampleSession rivalry 7).session.IsReady "p" := by
  have recorded : ((moment sampleSession rivalry 7).session.packages.get? "p").map
      (fun state => state.result.isOk) = some false := by decide +kernel
  have before : ((moment sampleSession rivalry 6).calls[0]?).map Call.outcome? = some none := by
    decide +kernel
  have after : ((moment sampleSession rivalry 7).calls[0]?).map
      (fun call => (call.purpose, call.packages, call.outcome?)) =
        some (.prepare withoutLibraries, ["p", "q"], some (.ok 1)) := by
    decide +kernel
  refine ⟨by decide +kernel, ?_, ?_⟩
  · obtain ⟨call, found, call_eq⟩ := Option.map_eq_some_iff.mp after
    obtain ⟨purpose_eq, packages_eq, outcome_eq⟩ :=
      (Prod.mk.injEq ..).mp call_eq |>.imp_right (Prod.mk.injEq ..).mp
    refine ⟨call, ⟨found, Call.outcome?_eq_some_iff.mp outcome_eq, ?_⟩, purpose_eq, ?_⟩
    · intro earlier value found' done
      rw [found', Option.map_some, Call.outcome?_eq_some_iff.mpr done] at before
      cases before
    · rw [packages_eq]
      exact List.mem_cons_self
  · rintro ⟨entry, version, ready⟩
    rw [ready] at recorded
    cases recorded

end SharedSession
end Workbench
