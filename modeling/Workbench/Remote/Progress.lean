import Workbench.NameTable
import Workbench.Remote.Response

/-!
# Activities that wait for documents

An activity over a shared state runs until it needs a document, and says for which URL it waits. It
is resumed with what came of the request. In between other activities may change the shared state,
so an activity keeps nothing of it. `settle` resumes an activity right away, again and again.
-/

namespace Workbench

/-- Where an activity stands. -/
inductive Progress (σ α : Type) where
  /-- It waits for the document at the URL, and `state` is what it will go on with. -/
  | waiting (url : Url) (state : σ)
  /-- It has come to its end. -/
  | done (value : α)

namespace Progress

variable {σ τ α β ε : Type}

/-- The same activity with another view of its state and of its value. -/
def map (onState : σ → τ) (onValue : α → β) : Progress σ α → Progress τ β
  | waiting url state => waiting url (onState state)
  | done value => done (onValue value)

/-- An activity that ended with an error before it could get under way. -/
def ofAttempt : Except ε (Progress σ (Except ε α)) → Progress σ (Except ε α)
  | .ok progress => progress
  | .error cause => done (.error cause)

end Progress

/-- What comes back for each URL. -/
abbrev Transport := Url → Reply

/-- Stored responses by the text of their URL. -/
abbrev CannedResponses := NameMap Response

/-- Answers from stored responses; nobody listens at any other URL. -/
def CannedResponses.transport (responses : CannedResponses) : Transport := fun url =>
  match responses.get? url.text with
  | some response => .ok response
  | none => .error (.transport url "connection refused")

/-- How far an activity got, with the shared state it left and the requests it made. -/
structure Settled (σ α ω : Type) where
  /-- Where the activity stands. -/
  progress : Progress σ α
  /-- The shared state. -/
  world : ω
  /-- The requested URLs in order. -/
  requests : List Url

/-- Answers the requests of an activity until it ends, at most `rounds` of them. -/
def settle {σ α ω : Type} (transport : Transport)
    (resume : σ → Reply → StateM ω (Progress σ α)) :
    Nat → Progress σ α → ω → Settled σ α ω
  | rounds + 1, .waiting url state, world =>
    let (progress, world) := (resume state (transport url)).run world
    let settled := settle transport resume rounds progress world
    { settled with requests := url :: settled.requests }
  | _, progress, world => ⟨progress, world, []⟩

end Workbench
