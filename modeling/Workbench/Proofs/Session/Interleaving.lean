import Mathlib.Order.Monotone.Basic
import Workbench.Proofs.Session.Advance

/-!
# Calls on one session take turns

Any number of calls share a session. In a turn a call begins, or one that waits is resumed with
whatever came of its request, and then runs to its next request or to its end. A schedule fixes the
turns, in any order.
-/

namespace Workbench

/-- An invocation that someone began on a session. -/
structure Call where
  /-- What it is for. -/
  purpose : Purpose
  /-- The packages it is to see to. -/
  packages : List String
  /-- Its number, from its beginning. -/
  generation : Nat
  /-- Where it stands. -/
  progress : Progress Invocation InvocationOutcome

/-- What the call came to, once it did. -/
def Call.outcome? (call : Call) : Option InvocationOutcome :=
  match call.progress with
  | .waiting _ _ => none
  | .done outcome => some outcome

theorem Call.outcome?_eq_some_iff {call : Call} {outcome : InvocationOutcome} :
    call.outcome? = some outcome ↔ call.progress = .done outcome := by
  rw [outcome?]
  cases call.progress with
  | waiting url invocation => exact ⟨nofun, nofun⟩
  | done value => exact ⟨fun same => congrArg _ (Option.some.inj same),
      fun same => congrArg _ (Progress.done.inj same)⟩

/-- What happens in one turn. -/
inductive Turn where
  /-- A call begins. -/
  | begin (purpose : Purpose) (packages : List String)
  /-- The call at the place is resumed with what came of its request. -/
  | resume (index : Nat) (reply : Reply)

/-- How many preparations begin in the turn. -/
def Turn.opened : Turn → Nat
  | begin (.prepare _) _ => 1
  | begin .preload _ => 0
  | resume _ _ => 0

/-- A session and the calls that began on it, in the order of their beginnings. -/
structure SharedSession where
  /-- The session. -/
  session : Session
  /-- The calls. -/
  calls : List Call

/-- What calls work on: the files, the recorded packages and the installed libraries. -/
def Session.contents (session : Session) :
    FileSystem × NameMap PackageState × List LibrarySelection :=
  (session.files, session.packages, session.installed)

/-- The place of the call whose turn it is. -/
def Turn.actor (shared : SharedSession) : Turn → Nat
  | begin _ _ => shared.calls.length
  | resume index _ => index

namespace SharedSession

/-- Takes a turn. A call that does not wait cannot be resumed. -/
def turn (shared : SharedSession) : Turn → SharedSession
  | .begin purpose packages =>
    let (progress, session) := (Invocation.start purpose packages).run shared.session
    let number := purpose.number shared.session
    ⟨session, shared.calls ++ [⟨purpose, packages, number, progress⟩]⟩
  | .resume index reply =>
    match shared.calls[index]? with
    | some ⟨purpose, packages, number, .waiting _ invocation⟩ =>
      let (progress, session) := (invocation.resume reply).run shared.session
      ⟨session, shared.calls.set index ⟨purpose, packages, number, progress⟩⟩
    | _ => shared

/-- The session and its calls after some turns of a schedule. -/
def moment (start : Session) (turns : Nat → Turn) : Nat → SharedSession
  | 0 => ⟨start, []⟩
  | time + 1 => (moment start turns time).turn (turns time)

/-! ## One turn -/

/-- What a turn does, if the sessions so far are those that were seen. -/
inductive Effect (seen : Session → Prop) (shared : SharedSession) :
    Turn → SharedSession → Prop
  | begin {purpose : Purpose} {packages : List String}
      {progress : Progress Invocation InvocationOutcome} {session : Session}
      (advance : Invocation.Advance seen (purpose.number shared.session) purpose packages none
        { shared.session with generation := purpose.number shared.session } (progress, session)) :
      Effect seen shared (.begin purpose packages)
        ⟨session, shared.calls ++
          [⟨purpose, packages, purpose.number shared.session, progress⟩]⟩
  | resume {index : Nat} {reply : Reply} {purpose : Purpose} {packages : List String}
      {number : Nat} {url : Url} {invocation : Invocation}
      {progress : Progress Invocation InvocationOutcome} {session : Session}
      (found : shared.calls[index]? = some ⟨purpose, packages, number, .waiting url invocation⟩)
      (advance : Invocation.Advance seen number purpose packages invocation.awaited?
        shared.session (progress, session)) :
      Effect seen shared (.resume index reply)
        ⟨session, shared.calls.set index ⟨purpose, packages, number, progress⟩⟩
  | idle {index : Nat} {reply : Reply} : Effect seen shared (.resume index reply) shared

/-- Every call stands where it should. -/
def Orderly (seen : Session → Prop) (shared : SharedSession) : Prop :=
  ∀ (index : Nat) (call : Call), shared.calls[index]? = some call →
    Invocation.Standing seen call.generation call.purpose call.packages call.progress

theorem effect_turn {seen : Session → Prop} {shared : SharedSession} (orderly : shared.Orderly seen)
    (turn : Turn) : Effect seen shared turn (shared.turn turn) := by
  cases turn with
  | begin purpose packages => exact .begin (Invocation.advance_start purpose packages _)
  | resume index reply =>
      rw [SharedSession.turn]
      split
      next purpose packages number url invocation found =>
        exact .resume found (Invocation.advance_resume reply (orderly index _ found))
      next => exact .idle

theorem getElem?_concat_eq_some {α : Type} {list : List α} {last value : α} {index : Nat}
    (found : (list ++ [last])[index]? = some value) :
    list[index]? = some value ∨ index = list.length ∧ last = value := by
  rcases Nat.lt_or_ge index list.length with inside | outside
  · rw [List.getElem?_append_left inside] at found
    exact .inl found
  · rw [List.getElem?_append_right outside, List.getElem?_singleton] at found
    split at found
    next first => exact .inr ⟨by omega, Option.some.inj found⟩
    next => exact nomatch found

namespace Effect

variable {seen : Session → Prop} {shared after : SharedSession} {turn : Turn}

theorem generation (effect : Effect seen shared turn after) :
    after.session.generation = shared.session.generation + turn.opened := by
  cases effect with
  | @begin purpose packages progress session advance =>
      rw [advance.stretch.generation]
      cases purpose <;> rfl
  | resume found advance => exact advance.stretch.generation
  | idle => rfl

/-- A call is as it was before the turn, or it began or was resumed in it. -/
theorem call_cases (effect : Effect seen shared turn after) {index : Nat} {call : Call}
    (found : after.calls[index]? = some call) :
    (shared.calls[index]? = some call ∧ (turn.actor shared = index → after = shared)) ∨
      (turn = .begin call.purpose call.packages ∧ index = shared.calls.length ∧
        call.generation = call.purpose.number shared.session ∧
        Invocation.Advance seen call.generation call.purpose call.packages none
          { shared.session with generation := call.generation } (call.progress, after.session)) ∨
      ∃ reply url invocation, turn = .resume index reply ∧
        shared.calls[index]? = some { call with progress := .waiting url invocation } ∧
        Invocation.Advance seen call.generation call.purpose call.packages invocation.awaited?
          shared.session (call.progress, after.session) := by
  cases effect with
  | begin advance =>
      rcases getElem?_concat_eq_some found with found | ⟨place, rfl⟩
      · obtain ⟨bound, _⟩ := List.getElem?_eq_some_iff.mp found
        exact .inl ⟨found, fun same => absurd same bound.ne'⟩
      · exact .inr (.inl ⟨rfl, place, rfl, advance⟩)
  | @resume place reply purpose packages number url invocation _ _ waiting advance =>
      by_cases same : place = index
      · subst same
        obtain ⟨bound, _⟩ := List.getElem?_eq_some_iff.mp waiting
        rw [List.getElem?_set_self bound] at found
        obtain rfl := Option.some.inj found
        exact .inr (.inr ⟨reply, url, invocation, rfl, waiting, advance⟩)
      · rw [List.getElem?_set_ne same] at found
        exact .inl ⟨found, fun here => absurd here same⟩
  | idle => exact .inl ⟨found, fun _ => rfl⟩

theorem calls_eq_of_ne (effect : Effect seen shared turn after) {index : Nat} {call : Call}
    (other : turn.actor shared ≠ index) (found : shared.calls[index]? = some call) :
    after.calls[index]? = some call := by
  cases effect with
  | begin advance =>
      obtain ⟨bound, _⟩ := List.getElem?_eq_some_iff.mp found
      rwa [List.getElem?_append_left bound]
  | @resume place =>
      have distinct : place ≠ index := other
      rwa [List.getElem?_set_ne distinct]
  | idle => exact found

theorem orderly (effect : Effect seen shared turn after) (orderly : shared.Orderly seen) :
    after.Orderly fun session => seen session ∨ session = after.session := by
  intro index call found
  rcases effect.call_cases found with ⟨before, _⟩ | ⟨_, _, _, advance⟩ | ⟨_, _, _, _, _, advance⟩
  · exact (orderly index call before).mono fun _ => .inl
  · exact advance.standing
  · exact advance.standing

/-- What calls work on changes only in turns of a call that is current. -/
theorem current_of_contents_ne (effect : Effect seen shared turn after)
    (changed : after.session.contents ≠ shared.session.contents) :
    ∃ call, after.calls[turn.actor shared]? = some call ∧
      call.generation = after.session.generation ∧
      (turn.opened = 0 → call.generation = shared.session.generation) := by
  cases effect with
  | @begin purpose packages progress session advance =>
      refine ⟨_, List.getElem?_concat_length, advance.stretch.generation.symm, fun unopened => ?_⟩
      cases purpose with
      | prepare options => exact nomatch unopened
      | preload => rfl
  | @resume place reply purpose packages number url invocation progress session waiting advance =>
      obtain ⟨bound, _⟩ := List.getElem?_eq_some_iff.mp waiting
      have current : shared.session.generation = number := by
        by_contra stale
        exact changed (congrArg Session.contents (advance.stretch.stale stale))
      exact ⟨_, List.getElem?_set_self bound, current.symm.trans advance.stretch.generation.symm,
        fun _ => current.symm⟩
  | idle => exact absurd rfl changed

theorem isEquipped (effect : Effect seen shared turn after) {options : CompilerOptions}
    (equipped : shared.session.IsEquipped options) : after.session.IsEquipped options := by
  cases effect with
  | begin advance => exact advance.stretch.isEquipped equipped
  | resume _ advance => exact advance.stretch.isEquipped equipped
  | idle => exact equipped

theorem current_of_prepared (effect : Effect seen shared turn after) {index : Nat} {call : Call}
    (found : after.calls[index]? = some call) {options : CompilerOptions} {number : Nat}
    (strict : call.purpose = .prepare options) (success : call.progress = .done (.ok number))
    (running : shared.calls[index]? ≠ some call) :
    after.session.generation = call.generation := by
  rcases effect.call_cases found with ⟨before, _⟩ | ⟨_, _, _, advance⟩ | ⟨_, _, _, _, _, advance⟩
  · exact absurd before running
  · exact advance.current options number strict success
  · exact advance.current options number strict success

end Effect

/-! ## All turns of a schedule -/

/-- The sessions after at most so many turns. -/
def SeenBy (start : Session) (turns : Nat → Turn) (time : Nat) (session : Session) : Prop :=
  ∃ earlier ≤ time, session = (moment start turns earlier).session

variable {start : Session} {turns : Nat → Turn} {time : Nat}

theorem orderly_moment (start : Session) (turns : Nat → Turn) (time : Nat) :
    (moment start turns time).Orderly (SeenBy start turns time) := by
  induction time with
  | zero => exact fun _ _ found => nomatch found
  | succ time induction =>
      intro index call found
      refine ((effect_turn induction (turns time)).orderly induction index call found).mono ?_
      rintro session (⟨earlier, bound, rfl⟩ | rfl)
      · exact ⟨earlier, Nat.le_succ_of_le bound, rfl⟩
      · exact ⟨time + 1, Nat.le_refl _, rfl⟩

theorem effect_moment (start : Session) (turns : Nat → Turn) (time : Nat) :
    Effect (SeenBy start turns time) (moment start turns time) (turns time)
      (moment start turns (time + 1)) :=
  effect_turn (orderly_moment start turns time) (turns time)

theorem generation_moment_mono (start : Session) (turns : Nat → Turn) :
    Monotone fun time => (moment start turns time).session.generation := by
  refine monotone_nat_of_le_succ fun time => ?_
  have effect := effect_moment start turns time
  rw [effect.generation]
  exact Nat.le_add_right _ _

theorem exists_beginning {index : Nat} {call : Call}
    (found : (moment start turns time).calls[index]? = some call) :
    ∃ began < time, turns began = .begin call.purpose call.packages ∧
      (moment start turns began).calls.length = index ∧
      call.generation = (moment start turns (began + 1)).session.generation := by
  induction time generalizing call with
  | zero => exact nomatch found
  | succ time induction =>
      have effect := effect_moment start turns time
      rcases effect.call_cases found with ⟨before, _⟩ | ⟨begins, rfl, _, advance⟩ |
        ⟨_, _, _, _, before, _⟩
      · obtain ⟨began, bound, beginning⟩ := induction before
        exact ⟨began, Nat.lt_succ_of_lt bound, beginning⟩
      · exact ⟨time, Nat.lt_succ_self time, begins, rfl, advance.stretch.generation.symm⟩
      · obtain ⟨began, bound, beginning⟩ := induction before
        exact ⟨began, Nat.lt_succ_of_lt bound, beginning⟩

theorem isEquipped_moment_of_le {options : CompilerOptions} {earlier later : Nat}
    (order : earlier ≤ later)
    (equipped : (moment start turns earlier).session.IsEquipped options) :
    (moment start turns later).session.IsEquipped options := by
  induction order with
  | refl => exact equipped
  | step _ induction => exact (effect_moment start turns _).isEquipped induction

/-- Between the beginning of a call that is still current and now no preparation began. -/
theorem opened_eq_zero_of_current {began later : Nat} {number : Nat}
    (newest : number = (moment start turns (began + 1)).session.generation)
    (current : (moment start turns (time + 1)).session.generation = number)
    (after : began < later) (before : later ≤ time) : (turns later).opened = 0 := by
  have effect := effect_moment start turns later
  have lower := generation_moment_mono start turns (show began + 1 ≤ later from after)
  have upper := generation_moment_mono start turns (Nat.add_le_add_right before 1)
  have opened := effect.generation
  dsimp only at lower upper
  omega

/-- In the turn the call at the place comes to the outcome. -/
structure Returns (start : Session) (turns : Nat → Turn) (time index : Nat) (call : Call)
    (outcome : InvocationOutcome) : Prop where
  /-- The call is there after the turn. -/
  found : (moment start turns (time + 1)).calls[index]? = some call
  /-- It has come to the outcome. -/
  done : call.progress = .done outcome
  /-- It had come to none before. -/
  running : ∀ earlier value, (moment start turns time).calls[index]? = some earlier →
    earlier.progress ≠ .done value

/-- Stale calls touch nothing. A call that waits keeps its number. What calls work on changes only
in the turn of a call that is current; and when a preparation succeeds, no other has begun since it
began, its ticket is current, its libraries are there, and each of its packages has been in place. -/
theorem only_current_calls_act (start : Session) (turns : Nat → Turn) (time : Nat) :
    (∀ (index : Nat) (call : Call) (url : Url) (invocation : Invocation),
      (moment start turns time).calls[index]? = some call →
      call.progress = .waiting url invocation → invocation.generation = call.generation) ∧
    ((moment start turns (time + 1)).session.contents ≠
        (moment start turns time).session.contents →
      ∃ call, (moment start turns (time + 1)).calls[(turns time).actor
          (moment start turns time)]? = some call ∧
        call.generation = (moment start turns (time + 1)).session.generation ∧
        ((turns time).opened = 0 →
          call.generation = (moment start turns time).session.generation)) ∧
    ∀ index call options number, Returns start turns time index call (.ok number) →
      call.purpose = .prepare options →
      (∃ began ≤ time, turns began = .begin call.purpose call.packages ∧
        (moment start turns began).calls.length = index ∧
        ∀ later, began < later → later ≤ time → (turns later).opened = 0) ∧
      (∃ ticket, InvocationOutcome.ticket (.ok number) options = .ok ticket ∧
        (moment start turns (time + 1)).session.isCurrent ticket.generation = true) ∧
      (moment start turns (time + 1)).session.IsEquipped options ∧
      ∀ name ∈ call.packages, ∃ earlier ≤ time + 1,
        (moment start turns earlier).session.IsReady name := by
  refine ⟨?_, (effect_moment start turns time).current_of_contents_ne, ?_⟩
  · intro index call url invocation found waiting
    have standing := orderly_moment start turns time index call found
    rw [waiting] at standing
    exact standing.generation_eq
  intro index call options number returns strict
  have running : (moment start turns time).calls[index]? ≠ some call :=
    fun found => returns.running call _ found returns.done
  have current := (effect_moment start turns time).current_of_prepared returns.found strict
    returns.done running
  have standing := orderly_moment start turns (time + 1) index call returns.found
  rw [returns.done] at standing
  obtain ⟨rfl, provided⟩ := standing
  obtain ⟨⟨equipped, ⟨seen, bound, rfl⟩, isEquipped⟩, ready⟩ := provided options strict
  obtain ⟨began, order, begins, place, newest⟩ := exists_beginning returns.found
  refine ⟨⟨began, Nat.le_of_lt_succ order, begins, place, ?_⟩, ?_, ?_, ?_⟩
  · exact fun later after before => opened_eq_zero_of_current newest current after before
  · exact ⟨⟨call.generation, options⟩, rfl, decide_eq_true current⟩
  · exact isEquipped_moment_of_le bound isEquipped
  · intro name member
    obtain ⟨_, ⟨earlier, bound, rfl⟩, isReady⟩ := ready name member
    exact ⟨earlier, bound, isReady⟩

end SharedSession
end Workbench
