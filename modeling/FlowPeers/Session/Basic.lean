import FlowPeers.KeepAlive
import FlowPeers.Network.Basic
import FlowPeers.Tracker

/-!
# Sessions

A session is a tracker in use: a network to talk to, a clock, a scheduler that keeps the opened
transactions alive, and the transactions themselves. Time passes only while something waits, and
while it passes the scheduler starts what is due. `converse` runs a dialogue of the tracker that
way, each reply arriving when its time has passed.
-/

namespace FlowPeers

/-- What the scheduler of a session does again and again. -/
inductive Chore where
  /-- Nothing, which shows whether the scheduler runs. -/
  | probe
  /-- Extending a transaction. -/
  | extend (tx : Transaction)
  deriving DecidableEq, Repr

/-- A tracker in use. -/
structure Session (σ : Type) where
  /-- The time since the beginning, in milliseconds. -/
  now : Nat
  /-- What the wall clock showed at the beginning, in milliseconds; negative before the epoch. -/
  epoch : Int
  /-- The network. -/
  traffic : Traffic σ
  /-- What was saved before there was a tracker. -/
  savedBefore : Option PeerStatus
  /-- The tracker, once it is connected. -/
  tracker : Option Tracker
  /-- Whether the tracker was given up. -/
  isReleased : Bool
  /-- The scheduler. -/
  keepAlive : KeepAlive Chore
  /-- The transactions in order of their opening, with their tickets until they are closed. -/
  transactions : List (Option (Transaction × Ticket))
  /-- The tickets of the probes. -/
  probes : List Ticket

namespace Session

variable {σ : Type}

/-- A session without a tracker, at the beginning of its time. -/
def start (epoch : Int) (network : σ) (saved : Option PeerStatus) : Session σ where
  now := 0
  epoch := epoch
  traffic := ⟨network, []⟩
  savedBefore := saved
  tracker := none
  isReleased := false
  keepAlive := {}
  transactions := []
  probes := []

/-- What the wall clock shows, in milliseconds; zero before the epoch. -/
def clock (s : Session σ) : UInt64 :=
  UInt64.ofNat (s.epoch + s.now).toNat

/-- The session with its wall clock set. -/
def setClock (s : Session σ) (ms : Int) : Session σ :=
  { s with epoch := ms - s.now }

/-- What is saved. -/
def saved (s : Session σ) : Option PeerStatus :=
  match s.tracker with
  | some t => t.saved
  | none => s.savedBefore

/-- The session with something else saved. -/
def save (s : Session σ) (status : PeerStatus) : Session σ :=
  { s with
    savedBefore := some status
    tracker := s.tracker.map fun t => { t with saved := some status } }

/-- The requests that were sent since the last report. -/
def report (s : Session σ) : Session σ × List Sent :=
  ({ s with traffic := { s.traffic with log := [] } }, s.traffic.log)

/-- The tracker, unless it was given up. -/
def tracker? (s : Session σ) : Option Tracker :=
  if s.isReleased then none else s.tracker

/-- Starts a chore on a network. Its result is of no consequence. -/
def launch (net : Responder σ) : Launch (Traffic σ) Chore := fun now chore traffic =>
  match chore with
  | .probe => (traffic, some 0)
  | .extend tx =>
    let (traffic, finish, _) := tx.extend.perform net now traffic
    (traffic, some (finish - now))

/-- The tickets that were not given back, with what they are for. -/
def handles (s : Session σ) : List (Ticket × Chore) :=
  s.transactions.filterMap (·.map fun (tx, ticket) => (ticket, .extend tx))
    ++ s.probes.map fun ticket => (ticket, .probe)

/-- Whether there is somebody left who could tell the scheduler anything: the tracker, or who has a
ticket of a job. -/
def isInUse (s : Session σ) : Bool :=
  !s.isReleased || s.handles.any (·.1.isActive)

/-- Lets the scheduler receive what it was told, no operation being under way. A tracker that was
given up is gone then, and the scheduler stops when nobody is left who could tell it more. -/
def settle (s : Session σ) : Session σ :=
  let keepAlive := s.keepAlive.settle s.now
  { s with
    savedBefore := s.saved
    tracker := s.tracker?
    keepAlive := if s.isInUse then keepAlive else keepAlive.stop }

/-- Waits until an instant. -/
def wait (net : Responder σ) (limit : Nat) (s : Session σ) : Session σ :=
  if limit ≤ s.now then s
  else
    let (keepAlive, traffic) := s.keepAlive.advance (launch net) limit s.now s.traffic
    { s with keepAlive := keepAlive, traffic := traffic, now := limit }

/-- Sends a request. -/
def send (net : Responder σ) (request : Request) (s : Session σ) : Session σ × Delivery :=
  let (traffic, delivery) := s.traffic.send net s.now request
  ({ s with traffic := traffic }, delivery)

/-- Runs a dialogue, waiting for every reply that takes time. -/
def converse {α : Type} (net : Responder σ) (s : Session σ) : Dialogue α → Session σ × α
  | .done result => (s, result)
  | .send request next =>
    let (s, delivery) := s.send net request
    converse net (s.wait net (s.now + delivery.delay)) (next delivery.reply)

end Session

end FlowPeers
