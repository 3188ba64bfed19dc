import FlowPeers.Dialogue

/-!
# Networks

A network answers requests. It has a state, so that the same request may get another reply the next
time, and every reply takes its time. `perform` runs a dialogue on a network from one instant on,
nothing else happening meanwhile, and logs what is sent.
-/

namespace FlowPeers

/-- A reply and how many milliseconds it takes to arrive. -/
structure Delivery where
  /-- How long it takes. -/
  delay : Nat
  /-- The reply. -/
  reply : Reply

/-- How a network answers a request that is sent at an instant. -/
abbrev Responder (σ : Type) : Type := Nat → Request → σ → σ × Delivery

/-- A request and when it was sent. -/
structure Sent where
  /-- The instant. -/
  time : Nat
  /-- The request. -/
  request : Request
  deriving DecidableEq, Repr

/-- A network in use. -/
structure Traffic (σ : Type) where
  /-- The state of the network. -/
  network : σ
  /-- What was sent, in order. -/
  log : List Sent

namespace Sent

/-- Whether a request extends something, as all requests with that method do. -/
def isExtension (sent : Sent) : Bool :=
  sent.request.method == "PUT"

/-- The requests of a log that extend nothing, in order. -/
def others (log : List Sent) : List Sent :=
  log.filter (!·.isExtension)

/-- The requests of a log that extend something, by time and then by URL. -/
def extensions (log : List Sent) : List Sent :=
  sortBy (fun a b => a.time < b.time || a.time == b.time && a.request.url ≤ b.request.url)
    (log.filter isExtension)

end Sent

namespace Traffic

variable {σ : Type}

/-- Sends a request. -/
def send (net : Responder σ) (now : Nat) (request : Request) (traffic : Traffic σ) :
    Traffic σ × Delivery :=
  let (network, delivery) := net now request traffic.network
  (⟨network, traffic.log ++ [⟨now, request⟩]⟩, delivery)

end Traffic

/-- Runs a dialogue from an instant on: what becomes of the network, when it ends, and its
result. -/
def Dialogue.perform {σ α : Type} (net : Responder σ) (now : Nat) (traffic : Traffic σ) :
    Dialogue α → Traffic σ × Nat × α
  | .done result => (traffic, now, result)
  | .send request next =>
    let (traffic, delivery) := traffic.send net now request
    (next delivery.reply).perform net (now + delivery.delay) traffic

end FlowPeers
