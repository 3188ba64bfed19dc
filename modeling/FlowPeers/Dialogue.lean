import FlowPeers.Failure

/-!
# Dialogues

What an operation does is a dialogue: it is done with a result, or it sends a request and goes on
with the reply to it, a response or the failure to get one. A dialogue says nothing about who
replies and how long that takes, so every statement about one holds for all networks. An exchange is
a dialogue whose result is a failure or a value.
-/

namespace FlowPeers

/-- What comes back for a request. -/
abbrev Reply : Type := Except Failure Response

/-- Requests that are sent one after the other, each chosen after the reply to the one before. -/
inductive Dialogue (α : Type) where
  | done (result : α)
  | send (request : Request) (next : Reply → Dialogue α)

namespace Dialogue

variable {α β : Type}

/-- The dialogue that goes on with another one after the first. -/
def andThen : Dialogue α → (α → Dialogue β) → Dialogue β
  | .done result, next => next result
  | .send request more, next => .send request fun reply => (more reply).andThen next

/-- The dialogue with its result changed. -/
def map (f : α → β) (d : Dialogue α) : Dialogue β :=
  d.andThen fun result => .done (f result)

theorem andThen_assoc {γ : Type} (d : Dialogue α) (f : α → Dialogue β) (g : β → Dialogue γ) :
    (d.andThen f).andThen g = d.andThen fun result => (f result).andThen g := by
  induction d with
  | done result => rfl
  | send request next ih => simp [andThen, ih]

end Dialogue

/-- A dialogue that may fail. -/
abbrev Exchange (α : Type) : Type := Dialogue (Except Failure α)

namespace Exchange

variable {α β : Type}

/-- The exchange that fails at once. -/
def fail (failure : Failure) : Exchange α := .done (.error failure)

/-- The exchange that has a value at once. -/
def pure (value : α) : Exchange α := .done (.ok value)

/-- The exchange that goes on with another one after the first, unless that has failed. -/
def andThen (e : Exchange α) (next : α → Exchange β) : Exchange β :=
  Dialogue.andThen e fun
    | .error failure => fail failure
    | .ok value => next value

/-- Sends a request, if it could be made. -/
def send : Except RequestError Request → Exchange Response
  | .error cause => fail (.request cause)
  | .ok request => Dialogue.send request .done

/-- Fails unless a response from the given address says success. -/
def ensureSuccess (url : String) (response : Response) : Exchange Unit :=
  if response.status.isSuccess then pure () else fail (.status url response.status)

/-- The bytes of a body from the given address. -/
def readBody (url : String) (body : Body) : Except Failure (List UInt8) :=
  match body.read with
  | .error cause => .error (.transport url cause)
  | .ok bytes => .ok bytes

end Exchange

end FlowPeers
