import FlowPeers.Session.Basic

/-!
# Operations of a session

The operations on a tracker hold its lock from their first request to their last: `operate` runs
one, the wall clock being read when the lock is held. Commands are everything that a user of a
session does; `execute` does one, and lets the scheduler receive what it was told.
-/

namespace FlowPeers

/-- An operation that holds the lock of a tracker. -/
inductive Operation where
  /-- Refreshing the list of peers. -/
  | refresh
  /-- Finding the identifier of a port. -/
  | resolvePort (name : String)
  /-- Opening a transaction for a port. -/
  | openTransaction (port : String)
  deriving DecidableEq, Repr

/-- What an operation gives if it succeeds. -/
inductive Answer where
  | done
  | identifier (id : String)
  | opened (tx : Transaction)
  deriving DecidableEq, Repr

/-- The dialogue of an operation. -/
def Tracker.operate (operation : Operation) (now : UInt64) (t : Tracker) :
    Dialogue (Tracker × Except Failure Answer) :=
  match operation with
  | .refresh => (t.refresh now).map fun (t, result) => (t, result.map fun _ => .done)
  | .resolvePort name =>
    (t.failover (resolvePort name) now).map fun (t, result) => (t, result.map .identifier)
  | .openTransaction port =>
    (t.failover (openTransaction port) now).map fun (t, result) => (t, result.map .opened)

/-- A command of the user of a session. -/
inductive Command where
  | operate (operation : Operation)
  /-- Shows an open transaction. -/
  | show (tx : Nat)
  /-- Extends an open transaction at once. -/
  | extend (tx : Nat)
  /-- Closes an open transaction. -/
  | close (tx : Nat)
  /-- Lets time pass. -/
  | sleep (ms : Nat)
  /-- Sets the wall clock. -/
  | setClock (ms : Int)
  /-- Shuts the scheduler down. -/
  | shutDown
  /-- Gives the scheduler something to do that does nothing. -/
  | probe
  /-- Takes all probes back. -/
  | dropProbes
  /-- Gives the tracker up. -/
  | dropTracker
  deriving DecidableEq, Repr

/-- What a command gives. -/
inductive Outcome where
  | answer (answer : Answer)
  | failed (failure : Failure)
  | ticket (ticket : Ticket)
  | noTracker
  | noTransaction
  deriving DecidableEq, Repr

namespace Outcome

/-- The outcome of a command that has nothing to tell. -/
def done : Outcome := .answer .done

/-- The outcome of what succeeds or fails. -/
def ofResult : Except Failure Answer → Outcome
  | .ok value => .answer value
  | .error failure => .failed failure

end Outcome

/-- How connecting a tracker ends, with the scheduler that was started for it. -/
inductive Connection where
  /-- A seed has no address, and nothing was started. -/
  | refused (failure : Failure)
  /-- No seed has served a list. -/
  | failed (failure : Failure) (keepAlive : KeepAlive Chore)
  | connected (t : Tracker) (keepAlive : KeepAlive Chore)
  deriving Repr

namespace Session

variable {σ : Type}

/-- How often a probe is done, in milliseconds. -/
def probeInterval : Nat := 3600000

/-- Keeps a transaction that was opened. -/
def keep (s : Session σ) (tx : Transaction) : Session σ :=
  let (keepAlive, ticket) :=
    s.keepAlive.schedule (Transaction.extensionInterval tx.ttl) (.extend tx)
  { s with
    keepAlive := keepAlive
    transactions := s.transactions ++ [some (tx, ticket)] }

/-- Puts the results of an operation into a session. -/
def conclude (s : Session σ) (t : Tracker) (result : Except Failure Answer) :
    Session σ × Outcome :=
  let s := { s with tracker := some t }
  match result with
  | .ok (.opened tx) => (s.keep tx, .ofResult result)
  | _ => (s, .ofResult result)

/-- Does an operation on a tracker. -/
def operate (net : Responder σ) (s : Session σ) (t : Tracker) (operation : Operation) :
    Session σ × Outcome :=
  let (s, t, result) := s.converse net (t.operate operation s.clock)
  s.conclude t result

/-- Connects a tracker. Its scheduler is started when the seeds are known and is given nothing to do
before there is a tracker; if none comes about, it is told to shut down. -/
def connecting (net : Responder σ) (s : Session σ) (raw : List String) (interval : Duration)
    (logins : Logins) : Session σ × Connection :=
  match Tracker.readSeeds [] raw with
  | .error failure => (s, .refused failure)
  | .ok seeds =>
    let keepAlive : KeepAlive Chore := {}
    let (s', result) := s.converse net
      (Tracker.connectTo seeds interval logins s.saved s.clock)
    match result with
    | .error failure => (s', .failed failure keepAlive.shutDown)
    | .ok t => (s', .connected t keepAlive)

/-- Connects the session's tracker. -/
def connect (net : Responder σ) (s : Session σ) (raw : List String) (interval : Duration)
    (logins : Logins) : Session σ × Except Failure Unit :=
  let (s', connection) := s.connecting net raw interval logins
  match connection with
  | .refused failure => (s', .error failure)
  | .failed failure _ => (s', .error failure)
  | .connected t keepAlive =>
    ({ s' with tracker := some t, isReleased := false, keepAlive := keepAlive }, .ok ())

/-- Connecting is a conversation. -/
theorem connect_eq (net : Responder σ) (s : Session σ) (raw : List String) (interval : Duration)
    (logins : Logins) : s.connect net raw interval logins =
      match s.converse net (Tracker.connect raw interval logins s.saved s.clock) with
      | (s', .error failure) => (s', .error failure)
      | (s', .ok t) =>
        ({ s' with tracker := some t, isReleased := false, keepAlive := {} }, .ok ()) := by
  rw [connect, connecting, Tracker.connect]
  cases Tracker.readSeeds [] raw with
  | error failure => rfl
  | ok seeds =>
    simp only
    rcases s.converse net (Tracker.connectTo seeds interval logins s.saved s.clock) with
      ⟨s', failure | t⟩
    · rfl
    · rfl

/-- An open transaction and its ticket. -/
def transaction? (s : Session σ) (n : Nat) : Option (Transaction × Ticket) :=
  s.transactions[n]?.join

/-- Does a command at once: those that neither need the lock nor wait. -/
def executeNow (s : Session σ) : Command → Session σ × Outcome
  | .show n =>
    match s.transaction? n with
    | none => (s, .noTransaction)
    | some (tx, _) => (s, .answer (.opened tx))
  | .close n =>
    match s.transaction? n with
    | none => (s, .noTransaction)
    | some (_, ticket) =>
      ({ s with
          keepAlive := s.keepAlive.cancel ticket
          transactions := s.transactions.set n none }, .done)
  | .setClock ms => (s.setClock ms, .done)
  | .shutDown =>
    match s.tracker? with
    | none => (s, .noTracker)
    | some _ => ({ s with keepAlive := s.keepAlive.shutDown }, .done)
  | .probe =>
    match s.tracker? with
    | none => (s, .noTracker)
    | some _ =>
      let (keepAlive, ticket) := s.keepAlive.schedule probeInterval .probe
      ({ s with keepAlive := keepAlive, probes := s.probes ++ [ticket] }, .ticket ticket)
  | .dropProbes =>
    ({ s with keepAlive := s.probes.foldl KeepAlive.cancel s.keepAlive, probes := [] }, .done)
  | .dropTracker =>
    match s.tracker? with
    | none => (s, .noTracker)
    | some _ => ({ s with isReleased := true }, .done)
  | .operate _ | .extend _ | .sleep _ => (s, .done)

/-- Does a command, waiting where it has to. -/
def run (net : Responder σ) (s : Session σ) : Command → Session σ × Outcome
  | .operate operation =>
    match s.tracker? with
    | none => (s, .noTracker)
    | some t => s.operate net t operation
  | .extend n =>
    match s.transaction? n with
    | none => (s, .noTransaction)
    | some (tx, _) =>
      let (s, result) := s.converse net tx.extend
      (s, .ofResult (result.map fun _ => .done))
  | .sleep ms => (s.wait net (s.now + ms), .done)
  | command => s.executeNow command

/-- Does a command and lets the scheduler receive what it was told. -/
def execute (net : Responder σ) (s : Session σ) (command : Command) : Session σ × Outcome :=
  let (s, outcome) := s.run net command
  (s.settle, outcome)

end Session

end FlowPeers
