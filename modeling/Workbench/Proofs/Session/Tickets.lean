import Workbench.Proofs.Session.Finality
import Workbench.Proofs.Session.LiveSession

/-!
# Tickets

A preparation that succeeds gives a ticket, and an order to compile shows one. All that is checked
is the number of the preparation. In the session that gave it a ticket passes until another
preparation begins. But other sessions count from one too: there it passes whenever as many
preparations have begun, whether or not anything was put in place.
-/

namespace Workbench

/-! ## The check -/

namespace CompileOrder

variable {order : CompileOrder} {session : Session}

/-- The order is not refused for its ticket. -/
def Passes (order : CompileOrder) (backend : Backend) (transformer : Program → Transformer)
    (session : Session) : Prop :=
  ∀ number, ((order.compile backend transformer).run session).1.outcome ≠
    .error (.superseded number)

theorem approve_of_stale (stale : session.generation ≠ order.ticket.generation) :
    order.approve session = .error (.superseded order.ticket.generation) := by
  rw [approve, Session.checkCurrent_of_ne stale]
  rfl

theorem approve_ne_superseded (current : session.generation = order.ticket.generation)
    (number : Nat) : order.approve session ≠ .error (.superseded number) := by
  intro superseded
  rw [approve, Session.checkCurrent_of_eq current] at superseded
  cases resolved : session.files.resolve order.root with
  | error cause =>
      rw [resolved] at superseded
      cases superseded
  | ok root =>
      simp only [resolved, Except.mapError, bind, Except.bind] at superseded
      split at superseded <;> cases superseded

theorem conclude_ne_superseded (root : Path) (program : Program)
    (transformer : Program → Transformer) (bridge : Bridge) (number : Nat) :
    conclude root program transformer bridge ≠ .error (.superseded number) := by
  intro superseded
  cases entry : program.unit? root.text with
  | none =>
      rw [conclude, entry] at superseded
      cases superseded
  | some unit =>
      rw [conclude_of_unit? entry] at superseded
      split at superseded
      next => cases superseded
      next =>
        dsimp only at superseded
        split at superseded <;> cases superseded

theorem passes_iff (order : CompileOrder) (backend : Backend) (transformer : Program → Transformer)
    (session : Session) :
    order.Passes backend transformer session ↔
      session.generation = order.ticket.generation := by
  constructor
  · intro passes
    by_contra stale
    refine passes order.ticket.generation ?_
    rw [run_compile_of_refused (approve_of_stale stale)]
  · intro current number
    cases approved : order.approve session with
    | error cause =>
        rw [run_compile_of_refused approved]
        intro superseded
        refine approve_ne_superseded current number ?_
        rw [approved, Except.error.inj superseded]
    | ok root =>
        rw [run_compile_of_approved approved]
        exact conclude_ne_superseded root _ transformer _ number

end CompileOrder

/-! ## Counting preparations -/

namespace SharedSession

variable {start : Session} {turns : Nat → Turn} {time index : Nat}

/-- How many preparations have begun in the turns so far. -/
def preparations (turns : Nat → Turn) : Nat → Nat
  | 0 => 0
  | time + 1 => preparations turns time + (turns time).opened

theorem generation_moment (start : Session) (turns : Nat → Turn) (time : Nat) :
    (moment start turns time).session.generation =
      start.generation + preparations turns time := by
  induction time with
  | zero => rfl
  | succ time induction =>
      rw [(effect_moment start turns time).generation, induction, preparations, Nat.add_assoc]

theorem preparations_mono (turns : Nat → Turn) : Monotone (preparations turns) :=
  monotone_nat_of_le_succ fun _ => Nat.le_add_right _ _

theorem preparations_eq_iff {earlier later : Nat} (order : earlier ≤ later) :
    preparations turns later = preparations turns earlier ↔
      ∀ time, earlier ≤ time → time < later → (turns time).opened = 0 := by
  induction order with
  | refl => exact ⟨fun _ time after before => absurd before after.not_gt, fun _ => rfl⟩
  | @step later order induction =>
      have grown : preparations turns earlier ≤ preparations turns later :=
        preparations_mono turns order
      have split_iff : (∀ time, earlier ≤ time → time < later + 1 → (turns time).opened = 0) ↔
          (∀ time, earlier ≤ time → time < later → (turns time).opened = 0) ∧
            (turns later).opened = 0 := by
        constructor
        · intro none
          exact ⟨fun time after before => none time after (Nat.lt_succ_of_lt before),
            none later order (Nat.lt_succ_self later)⟩
        · rintro ⟨none, last⟩ time after before
          rcases Nat.lt_succ_iff_lt_or_eq.mp before with before | rfl
          · exact none time after before
          · exact last
      rw [split_iff, ← induction, preparations]
      omega

/-- The call at the place has succeeded and given the ticket. -/
def Gives (shared : SharedSession) (index : Nat) (ticket : Ticket) : Prop :=
  ∃ call outcome, shared.calls[index]? = some call ∧ call.purpose = .prepare ticket.options ∧
    call.outcome? = some outcome ∧ outcome.ticket ticket.options = .ok ticket

/-- A ticket bears the number of preparations up to the one that gave it. -/
theorem exists_beginning_of_gives {ticket : Ticket}
    (gives : (moment start turns time).Gives index ticket) :
    ∃ began < time, (∃ packages, turns began = .begin (.prepare ticket.options) packages) ∧
      (moment start turns began).calls.length = index ∧
      ticket.generation = start.generation + preparations turns (began + 1) := by
  obtain ⟨call, outcome, found, strict, returned, issued⟩ := gives
  obtain ⟨began, before, begins, place, newest⟩ := exists_beginning found
  refine ⟨began, before, ⟨call.packages, strict ▸ begins⟩, place, ?_⟩
  have standing := orderly_moment start turns time index call found
  rw [Call.outcome?_eq_some_iff.mp returned] at standing
  cases outcome with
  | error cause => cases issued
  | ok number =>
      obtain ⟨number_eq, _⟩ := standing
      rw [← generation_moment, ← newest, ← number_eq, ← Except.ok.inj issued]

/-- In the session that gave it a ticket passes until another preparation begins, so it is always
that of the newest. In any session it passes exactly when as many preparations have begun as up to
the one that gave the ticket. -/
theorem ticket_passes_iff {config config' : Config} {issuer guest : Session}
    (created : Session.create config = .ok issuer) (created' : Session.create config' = .ok guest)
    {turns : Nat → Turn} {time index : Nat} {order : CompileOrder}
    (gives : (moment issuer turns time).Gives index order.ticket) (backend : Backend)
    (transformer : Program → Transformer) :
    ∃ began < time, (∃ packages, turns began = .begin (.prepare order.ticket.options) packages) ∧
      (moment issuer turns began).calls.length = index ∧
      (∀ now, began < now →
        (order.Passes backend transformer (moment issuer turns now).session ↔
          ∀ later, began < later → later < now → (turns later).opened = 0)) ∧
      ∀ turns' now, order.Passes backend transformer (moment guest turns' now).session ↔
        preparations turns' now = preparations turns (began + 1) := by
  obtain ⟨_, issuer_eq, _⟩ := Session.eq_of_create created
  obtain ⟨_, guest_eq, _⟩ := Session.eq_of_create created'
  obtain ⟨began, before, begins, place, number_eq⟩ := exists_beginning_of_gives gives
  have first : issuer.generation = 0 := by rw [issuer_eq]
  have first' : guest.generation = 0 := by rw [guest_eq]
  rw [first, Nat.zero_add] at number_eq
  refine ⟨began, before, begins, place, fun now after => ?_, fun turns' now => ?_⟩
  · rw [CompileOrder.passes_iff, generation_moment, first, Nat.zero_add, number_eq,
      preparations_eq_iff after]
    rfl
  · rw [CompileOrder.passes_iff, generation_moment, first', Nat.zero_add, number_eq]

/-! ## A ticket from elsewhere -/

/-- A session of another editor, which gets its libraries from another site. -/
def otherSession : Session :=
  { sampleSession with
    config.library := ⟨"https", some { host := .domain "mirror.test" }, .segments [""], none, none⟩ }

theorem create_sampleSession : Session.create sampleSession.config = .ok sampleSession := rfl

theorem create_otherSession : Session.create otherSession.config = .ok otherSession := rfl

/-- A preparation begins and gets its library. -/
def bootstrap : Nat → Turn
  | 0 => .begin (.prepare {}) []
  | _ => .resume 0 (.ok ⟨200, "interface Array<T> {}"⟩)

/-- The order to compile that shows the ticket of the first preparation. -/
def firstOrder : CompileOrder := { ticket := ⟨1, {}⟩ }

theorem gives_bootstrap : (moment sampleSession bootstrap 2).Gives 0 firstOrder.ticket := by
  have stands : ((moment sampleSession bootstrap 2).calls[0]?).map
      (fun call => (call.purpose, call.outcome?)) = some (.prepare {}, some (.ok 1)) := by
    decide +kernel
  obtain ⟨call, found, call_eq⟩ := Option.map_eq_some_iff.mp stands
  obtain ⟨strict, returned⟩ := Prod.mk.inj call_eq
  exact ⟨call, .ok 1, found, strict, returned, rfl⟩

/-- The ticket passes in its session when it has been given. -/
theorem ticket_passes_iff_bootstrap :
    Session.create sampleSession.config = .ok sampleSession ∧
      Session.create otherSession.config = .ok otherSession ∧
      (moment sampleSession bootstrap 2).Gives 0 firstOrder.ticket ∧
      ∀ backend transformer,
        firstOrder.Passes backend transformer (moment sampleSession bootstrap 2).session := by
  refine ⟨create_sampleSession, create_otherSession, gives_bootstrap, fun backend transformer => ?_⟩
  obtain ⟨began, before, _, _, own, _⟩ :=
    ticket_passes_iff create_sampleSession create_otherSession gives_bootstrap backend transformer
  refine (own 2 before).mpr fun later after _ => ?_
  have resumes : later ≠ 0 := Nat.ne_zero_of_lt after
  rw [bootstrap.eq_2 later resumes]
  rfl

/-- The ticket of one session passes in another one that has given no ticket at all, and whose only
preparation still waits for its libraries. -/
theorem foreign_ticket_passes :
    Session.create sampleSession.config = .ok sampleSession ∧
      Session.create otherSession.config = .ok otherSession ∧
      (moment sampleSession bootstrap 2).Gives 0 firstOrder.ticket ∧
      (∀ index ticket, ¬(moment otherSession bootstrap 1).Gives index ticket) ∧
      ¬(moment otherSession bootstrap 1).session.IsEquipped firstOrder.effectiveOptions ∧
      ∀ backend transformer,
        firstOrder.Passes backend transformer (moment otherSession bootstrap 1).session := by
  refine ⟨create_sampleSession, create_otherSession, gives_bootstrap, ?_, ?_, ?_⟩
  · rintro index ticket ⟨call, outcome, found, _, returned, _⟩
    have waits : (moment otherSession bootstrap 1).calls.all (·.outcome?.isNone) = true := by
      decide +kernel
    have none := List.all_eq_true.mp waits call (List.mem_of_getElem? found)
    rw [returned] at none
    cases none
  · rw [← Invocation.hasLibraries_iff]
    decide +kernel
  · intro backend transformer
    exact (firstOrder.passes_iff backend transformer _).mpr (by decide +kernel)

end SharedSession
end Workbench
