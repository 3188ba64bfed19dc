import FlowPeers.KeepAlive
import FlowPeers.Sorting

/-!
# Trials of a scheduler

In a trial a scheduler is given jobs whose runs take a known time, and what it starts is written
down. A scheduler may have several users, all of whom use it alike; a user who has left can no
longer do so. Whether a run succeeds or fails is of no consequence.
-/

namespace FlowPeers

/-- A run of known length. -/
structure Exercise where
  /-- The number of the job. -/
  number : Nat
  /-- How long a run takes, in milliseconds. -/
  length : Nat
  /-- Whether it fails in the end. -/
  fails : Bool
  deriving DecidableEq, Repr

/-- The beginning or the end of a run. -/
structure RunEvent where
  /-- When it was. -/
  time : Nat
  /-- The number of the job. -/
  number : Nat
  /-- Whether the run ended. -/
  isStop : Bool
  deriving DecidableEq, Repr

/-- Whether an event is listed before another: by time, by job, and the beginning first. -/
def RunEvent.before (a b : RunEvent) : Bool :=
  a.time < b.time
    || a.time == b.time && (a.number < b.number || a.number == b.number && (!a.isStop || b.isStop))

/-- A scheduler on trial. -/
structure Trial where
  /-- The time since the beginning, in milliseconds. -/
  now : Nat := 0
  /-- The scheduler. -/
  keepAlive : KeepAlive Exercise := {}
  /-- Whether each user is still there. -/
  users : List Bool := [true]
  /-- The tickets of the jobs, unless they were given back. -/
  tickets : List (Option Ticket) := []
  /-- What was written down and not told yet, ends of runs in flight included. -/
  events : List RunEvent := []

/-- What can be done in a trial. -/
inductive TrialStep where
  | schedule (user interval length : Nat) (fails : Bool)
  | cancel (job : Nat)
  | sleep (ms : Nat)
  | shutDown (user : Nat)
  | isShutDown (user : Nat)
  | join (user : Nat)
  | leave (user : Nat)
  deriving DecidableEq, Repr

/-- What a step gives. -/
inductive TrialResult where
  | done
  | ticket (ticket : Ticket)
  | flag (b : Bool)
  | user (n : Nat)
  | noUser
  | noTicket
  deriving DecidableEq, Repr

namespace Trial

/-- Writes down a run that starts at an instant. -/
def launch : Launch (List RunEvent) Exercise := fun now exercise events =>
  (events ++ [⟨now, exercise.number, false⟩, ⟨now + exercise.length, exercise.number, true⟩],
    some exercise.length)

/-- Whether a user is there. -/
def hasUser (t : Trial) (n : Nat) : Bool :=
  t.users[n]?.getD false

/-- Takes a step. -/
def run (t : Trial) : TrialStep → Trial × TrialResult
  | .schedule user interval length fails =>
    if t.hasUser user then
      let (keepAlive, ticket) :=
        t.keepAlive.schedule interval ⟨t.tickets.length, length, fails⟩
      ({ t with keepAlive := keepAlive, tickets := t.tickets ++ [some ticket] }, .ticket ticket)
    else (t, .noUser)
  | .cancel job =>
    match t.tickets[job]?.join with
    | none => (t, .noTicket)
    | some ticket =>
      ({ t with
          keepAlive := t.keepAlive.cancel ticket
          tickets := t.tickets.set job none }, .done)
  | .sleep ms =>
    let (keepAlive, events) := t.keepAlive.advance launch (t.now + ms) t.now t.events
    ({ t with keepAlive := keepAlive, events := events, now := t.now + ms }, .done)
  | .shutDown user =>
    if t.hasUser user then ({ t with keepAlive := t.keepAlive.shutDown }, .flag true)
    else (t, .noUser)
  | .isShutDown user =>
    if t.hasUser user then (t, .flag t.keepAlive.isShutDown) else (t, .noUser)
  | .join user =>
    if t.hasUser user then ({ t with users := t.users ++ [true] }, .user t.users.length)
    else (t, .noUser)
  | .leave user =>
    if t.hasUser user then ({ t with users := t.users.set user false }, .done) else (t, .noUser)

/-- Whether there is somebody left who could tell the scheduler anything: a user, or who has a
ticket of a job. -/
def isInUse (t : Trial) : Bool :=
  t.users.contains true || t.tickets.any (·.any (·.isActive))

/-- Lets the scheduler receive what it was told. It stops when nobody is left who could tell it
more. -/
def settle (t : Trial) : Trial :=
  let keepAlive := t.keepAlive.settle t.now
  { t with keepAlive := if t.isInUse then keepAlive else keepAlive.stop }

/-- Tells what has happened since it was told last. -/
def report (t : Trial) : Trial × List RunEvent :=
  ({ t with events := t.events.filter (t.now < ·.time) },
    sortBy RunEvent.before (t.events.filter (·.time ≤ t.now)))

end Trial

end FlowPeers
