import Workbench.Remote.Progress

/-!
# Activities that come to an end

With answers that never change, an activity whose requests are answered right away comes to at most
one end. An activity that runs inside another makes its requests first.
-/

namespace Workbench

/-! ## Attempts -/

theorem exists_of_bind_eq_ok {ε α β : Type} {first : Except ε α} {next : α → Except ε β}
    {value : β} (success : (first >>= next) = .ok value) :
    ∃ middle, first = .ok middle ∧ next middle = .ok value := by
  cases first with
  | error cause => exact nomatch success
  | ok middle => exact ⟨middle, rfl, success⟩

theorem eq_ok_of_toOption_eq_some {ε α : Type} {outcome : Except ε α} {value : α}
    (same : outcome.toOption = some value) : outcome = .ok value := by
  cases outcome with
  | error cause => exact nomatch same
  | ok other => rw [Option.some.inj same]

/-! ## Activities -/

variable {σ τ α β ω : Type} {transport : Transport}

/-- The activity ends with the value and leaves the shared state after these requests. -/
inductive Settles (transport : Transport) (resume : σ → Reply → StateM ω (Progress σ α)) :
    Progress σ α → ω → α → ω → List Url → Prop
  /-- It has ended. -/
  | done (value : α) (world : ω) : Settles transport resume (.done value) world value world []
  /-- It goes on with the answer. -/
  | waiting {url : Url} {state : σ} {progress : Progress σ α} {world middle left : ω} {value : α}
      {requests : List Url} (run : (resume state (transport url)).run world = (progress, middle))
      (rest : Settles transport resume progress middle value left requests) :
      Settles transport resume (.waiting url state) world value left (url :: requests)

namespace Settles

variable {resume : σ → Reply → StateM ω (Progress σ α)} {progress : Progress σ α}
  {world left left' : ω} {value value' : α} {requests requests' : List Url}

theorem unique (first : Settles transport resume progress world value left requests)
    (second : Settles transport resume progress world value' left' requests') :
    value = value' ∧ left = left' ∧ requests = requests' := by
  induction first generalizing requests' with
  | done value world =>
      cases second
      exact ⟨rfl, rfl, rfl⟩
  | waiting run rest induction =>
      cases second with
      | waiting run' rest' =>
          obtain ⟨rfl, rfl⟩ := Prod.mk.inj (run.symm.trans run')
          obtain ⟨same_value, same_left, rfl⟩ := induction rest'
          exact ⟨same_value, same_left, rfl⟩

theorem iff_settle : Settles transport resume progress world value left requests ↔
    ∃ rounds, settle transport resume rounds progress world = ⟨.done value, left, requests⟩ := by
  constructor
  · intro settles
    induction settles with
    | done value world => exact ⟨0, rfl⟩
    | waiting run rest induction =>
        obtain ⟨rounds, settled⟩ := induction
        refine ⟨rounds + 1, ?_⟩
        rw [settle]
        simp only [run, settled]
  · rintro ⟨rounds, settled⟩
    induction rounds generalizing progress world requests with
    | zero =>
        cases progress with
        | waiting url state => simp [settle] at settled
        | done result =>
            obtain ⟨rfl, rfl, rfl⟩ := by simpa [settle] using settled
            exact .done _ _
    | succ rounds induction =>
        cases progress with
        | done result =>
            obtain ⟨rfl, rfl, rfl⟩ := by simpa [settle] using settled
            exact .done _ _
        | waiting url state =>
            rw [settle] at settled
            rcases run : (resume state (transport url)).run world with ⟨next, middle⟩
            simp only [run] at settled
            rcases inner : settle transport resume rounds next middle with ⟨progress, world, later⟩
            simp only [inner, Settled.mk.injEq] at settled
            obtain ⟨rfl, rfl, rfl⟩ := settled
            exact .waiting run (induction inner)

end Settles

/-- An activity inside another: while it waits the other waits, and its end hands on. -/
def Progress.lift (embed : σ → τ) (next : α → ω → Progress τ β × ω) :
    Progress σ α → ω → Progress τ β × ω
  | waiting url state, world => (waiting url (embed state), world)
  | done value, world => next value world

/-- An activity of its own, which shares no state. -/
abbrev SettlesAlone (transport : Transport) (advance : σ → Reply → Progress σ α)
    (progress : Progress σ α) (value : α) (requests : List Url) : Prop :=
  Settles transport (fun state reply => (pure (advance state reply) : StateM Unit (Progress σ α)))
    progress () value () requests

/-- The requests of an inner activity come before those of what follows it. -/
theorem Settles.lift {advance : σ → Reply → Progress σ α}
    {resume : τ → Reply → StateM ω (Progress τ β)} {embed : σ → τ}
    {next : α → ω → Progress τ β × ω}
    (steps : ∀ state reply world, (resume (embed state) reply).run world =
      (advance state reply).lift embed next world)
    {progress : Progress σ α} {value : α} {requests more : List Url} {world left : ω} {outcome : β}
    {alone alone' : Unit} (inner : Settles transport
      (fun state reply => (pure (advance state reply) : StateM Unit (Progress σ α)))
      progress alone value alone' requests)
    (rest : Settles transport resume (next value world).1 (next value world).2 outcome left more) :
    Settles transport resume (progress.lift embed next world).1
      (progress.lift embed next world).2 outcome left (requests ++ more) := by
  induction inner with
  | done value _ => exact rest
  | @waiting url state progress _ _ _ _ _ run _ induction =>
      obtain ⟨rfl, rfl⟩ := Prod.mk.inj run
      exact .waiting (steps state (transport url) world) (induction rest)

/-! ## Answers of any kind -/

namespace Progress

/-- What the activity came to, once it did. -/
def value? : Progress σ α → Option α
  | waiting _ _ => none
  | done value => some value

theorem value?_eq_some_iff {progress : Progress σ α} {value : α} :
    progress.value? = some value ↔ progress = .done value := by
  cases progress with
  | waiting url state => exact ⟨nofun, nofun⟩
  | done other =>
      exact ⟨fun same => congrArg done (Option.some.inj same), fun same => congrArg _ (done.inj same)⟩

/-- What the activity waits for, and what it will go on with. -/
def awaited? : Progress σ α → Option (Url × σ)
  | waiting url state => some (url, state)
  | done _ => none

theorem awaited?_eq_some_iff {progress : Progress σ α} {url : Url} {state : σ} :
    progress.awaited? = some (url, state) ↔ progress = .waiting url state := by
  cases progress with
  | done value => exact ⟨nofun, nofun⟩
  | waiting other own => simp [awaited?]

variable {advance : σ → Reply → Progress σ α}

/-- Where an activity of its own stands after the answers. -/
def follow (advance : σ → Reply → Progress σ α) : Progress σ α → List Reply → Progress σ α
  | waiting _ state, reply :: replies => (advance state reply).follow advance replies
  | progress, _ => progress

theorem holds_ofAttempt {ε : Type} {Holds : Progress σ (Except ε α) → Prop}
    (failed : ∀ cause, Holds (.done (.error cause)))
    {attempt : Except ε (Progress σ (Except ε α))}
    (got : ∀ progress, attempt = .ok progress → Holds progress) : Holds (.ofAttempt attempt) := by
  cases attempt with
  | error cause => exact failed cause
  | ok progress => exact got progress rfl

/-- What every answer preserves holds after all of them. -/
theorem follow_induction {Holds : Progress σ α → Prop}
    (step : ∀ url state reply, Holds (.waiting url state) → Holds (advance state reply))
    {progress : Progress σ α} (holds : Holds progress) (replies : List Reply) :
    Holds (progress.follow advance replies) := by
  induction replies generalizing progress with
  | nil => cases progress <;> exact holds
  | cons reply replies induction =>
      cases progress with
      | done value => exact holds
      | waiting url state => exact induction (step url state reply holds)

end Progress

end Workbench
