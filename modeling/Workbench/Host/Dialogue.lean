import Workbench.Host.Request

/-!
# Dialogues with the host

A computation that asks its host and goes on with the answers. Running it against a host gives its
value, the changed state behind the host, and the exchanges that took place.
-/

namespace Workbench

/-- A computation that may ask the host. -/
inductive Dialogue (α : Type) where
  /-- It has its value. -/
  | done (value : α)
  /-- It asks and goes on with the answer. -/
  | ask (request : HostRequest) (next : request.Answer → Dialogue α)

/-- A request and the answer that it got. -/
structure Exchange where
  /-- What was asked. -/
  request : HostRequest
  /-- What was answered. -/
  answer : request.Answer

/-- What a dialogue came to. -/
structure Consulted (α : Type) where
  /-- The value. -/
  value : α
  /-- The state behind the host. -/
  bridge : Bridge
  /-- What was asked and answered, in order. -/
  exchanges : List Exchange

namespace Dialogue

variable {α β : Type}

/-- Goes on with the value. -/
def bind : Dialogue α → (α → Dialogue β) → Dialogue β
  | done value, more => more value
  | ask request next, more => ask request fun answer => (next answer).bind more

instance : Monad Dialogue where
  pure := done
  bind := bind

/-- A single question. -/
def request (request : HostRequest) : Dialogue request.Answer := ask request done

/-- Runs the dialogue against a host. -/
def run (host : CompilerHost) : Dialogue α → Bridge → Consulted α
  | done value, bridge => ⟨value, bridge, []⟩
  | ask request next, bridge =>
    let (answer, bridge) := host.answer bridge request
    let consulted := (next answer).run host bridge
    { consulted with exchanges := ⟨request, answer⟩ :: consulted.exchanges }

end Dialogue
end Workbench
