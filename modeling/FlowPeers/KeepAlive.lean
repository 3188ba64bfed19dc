/-!
# Keeping things alive

Work that has to be done again and again, such as extending a transaction, is given to a scheduler
with an interval. A job ticks first one interval after the scheduler has received it and then every
interval; at each tick a run of it starts, unless the run before is still in flight. What the
scheduler is told waits in an inbox until it is received, which is before any time passes.

* `schedule`, `cancel` and `shutDown` put notices into the inbox, `settle` receives them.
* `fire` starts what is due at an instant, `advance` goes from one such instant to the next.

A scheduler that is to reckon with an instant beyond the end of its clock stops: when it receives a
job whose first tick the clock cannot tell, and when a job is due whose next tick it cannot tell.

Instants, intervals and the lengths of runs are whole milliseconds, since a timer tells no finer
ones; transactions, the work that is done here, have intervals of half or whole seconds. What
starting a task does is not said here: `Launch` stands for it, and for how long the run takes.
-/

namespace FlowPeers

/-- A task that is done again and again. -/
structure Job (τ : Type) where
  /-- The number of the job. -/
  id : Nat
  /-- The time between two ticks. -/
  interval : Nat
  /-- The next tick. -/
  next : Nat
  /-- What is done. -/
  task : τ
  /-- When the last run ends, if it ever does. -/
  busyUntil : Option Nat
  deriving Repr

/-- What a scheduler is told. -/
inductive Notice (τ : Type) where
  | schedule (id interval : Nat) (task : τ)
  | cancel (id : Nat)
  | shutDown
  deriving Repr

/-- A scheduler. -/
structure KeepAlive (τ : Type) where
  /-- The number of the next job. -/
  nextId : Nat := 0
  /-- Whether it was told to shut down. -/
  isShutDown : Bool := false
  /-- Whether it has stopped. -/
  isStopped : Bool := false
  /-- What it has not received yet. -/
  inbox : List (Notice τ) := []
  /-- Its jobs. -/
  jobs : List (Job τ) := []
  deriving Repr

/-- What remains of a job with the one who scheduled it: its number, and whether it was accepted. -/
structure Ticket where
  /-- The number of the job. -/
  id : Nat
  /-- Whether a scheduler that runs has accepted it. -/
  isActive : Bool
  deriving DecidableEq, Repr

/-- Starts a task at an instant: what becomes of the surroundings, and how long the run takes if it
ever ends. -/
abbrev Launch (σ τ : Type) : Type := Nat → τ → σ → σ × Option Nat

/-- The last instant that a tick can have. A clock counts the seconds since the machine was started
in signed numbers of sixty-four bits, and instants are counted from a start of their own, at which
the clock is taken to have run for an hour. Another time would only move the end of the clock by the
difference: no proof depends on it, and intervals shorter than some 292 billion years never reach
that end. -/
def KeepAlive.lastInstant : Nat := (0x8000000000000000 - 3600) * 1000 - 1

namespace Job

variable {σ τ : Type}

/-- Whether the last run is in flight at an instant. -/
def isBusy (job : Job τ) (now : Nat) : Bool :=
  match job.busyUntil with
  | none => true
  | some t => now < t

/-- Starts the job at an instant if it is due: the next tick is one interval away, and a run begins
unless the last one is in flight. -/
def fire (launch : Launch σ τ) (now : Nat) (job : Job τ) (s : σ) : Job τ × σ :=
  if job.next ≤ now then
    if job.isBusy now then ({ job with next := now + job.interval }, s)
    else
      let (s, length) := launch now job.task s
      ({ job with next := now + job.interval, busyUntil := length.map (now + ·) }, s)
  else (job, s)

/-- Starts all jobs that are due at an instant. -/
def fireAll (launch : Launch σ τ) (now : Nat) : List (Job τ) → σ → List (Job τ) × σ
  | [], s => ([], s)
  | job :: rest, s =>
    let (job, s) := job.fire launch now s
    let (rest, s) := fireAll launch now rest s
    (job :: rest, s)

/-- The first tick of some jobs. -/
def earliest? : List (Job τ) → Option Nat
  | [] => none
  | job :: rest =>
    match earliest? rest with
    | none => some job.next
    | some t => some (min job.next t)

/-- Whether the job is due at an instant from which the clock cannot tell its next tick. -/
def isStuck (now : Nat) (job : Job τ) : Bool :=
  job.next ≤ now && KeepAlive.lastInstant < now + job.interval

/-- Goes from tick to tick up to `limit`, at most `ticks` of them, and starts what is due at
each; no jobs are left if one of them is stuck. -/
def advanceBy (launch : Launch σ τ) (limit : Nat) :
    Nat → List (Job τ) → σ → Option (List (Job τ)) × σ
  | 0, jobs, s => (some jobs, s)
  | ticks + 1, jobs, s =>
    match earliest? jobs with
    | none => (some jobs, s)
    | some t =>
      if t ≤ limit then
        if jobs.any (isStuck t) then (none, s)
        else
          let (jobs, s) := fireAll launch t jobs s
          advanceBy launch limit ticks jobs s
      else (some jobs, s)

/-- Lets the time after `now` pass up to `limit`. There are no more instants in between than
milliseconds. -/
def advance (launch : Launch σ τ) (limit now : Nat) (jobs : List (Job τ)) (s : σ) :
    Option (List (Job τ)) × σ :=
  advanceBy launch limit (limit - now) jobs s

end Job

namespace KeepAlive

variable {σ τ : Type}

/-- The shortest interval. -/
def shortestInterval : Nat := 1

/-- Gives a task to the scheduler. Jobs are numbered whether they are accepted or not. -/
def schedule (k : KeepAlive τ) (interval : Nat) (task : τ) : KeepAlive τ × Ticket :=
  if k.isShutDown || k.isStopped then ({ k with nextId := k.nextId + 1 }, ⟨k.nextId, false⟩)
  else
    ({ k with
        nextId := k.nextId + 1
        inbox := k.inbox ++ [.schedule k.nextId (max interval shortestInterval) task] },
      ⟨k.nextId, true⟩)

/-- Takes a job back. -/
def cancel (k : KeepAlive τ) (ticket : Ticket) : KeepAlive τ :=
  if ticket.isActive then { k with inbox := k.inbox ++ [.cancel ticket.id] } else k

/-- Tells the scheduler to stop. -/
def shutDown (k : KeepAlive τ) : KeepAlive τ :=
  if k.isShutDown then k
  else { k with isShutDown := true, inbox := k.inbox ++ [.shutDown] }

/-- The scheduler without its jobs, which it will never run again. -/
def stop (k : KeepAlive τ) : KeepAlive τ :=
  { k with isStopped := true, jobs := [] }

/-- Receives a notice at an instant. A job whose first tick the clock cannot tell stops it. -/
def receive (now : Nat) (k : KeepAlive τ) : Notice τ → KeepAlive τ
  | .schedule id interval task =>
    if now + interval ≤ lastInstant then
      { k with jobs := k.jobs ++ [⟨id, interval, now + interval, task, some 0⟩] }
    else k.stop
  | .cancel id => { k with jobs := k.jobs.filter (·.id != id) }
  | .shutDown => k.stop

/-- Receives some notices in order, unless it has stopped. -/
def receiveAll (now : Nat) (k : KeepAlive τ) : List (Notice τ) → KeepAlive τ
  | [] => k
  | notice :: rest => if k.isStopped then k else receiveAll now (k.receive now notice) rest

/-- Receives everything that it was told. -/
def settle (now : Nat) (k : KeepAlive τ) : KeepAlive τ :=
  receiveAll now { k with inbox := [] } k.inbox

/-- Receives everything that it was told, and lets time pass up to `limit`. A job that gets stuck
stops it. -/
def advance (launch : Launch σ τ) (limit now : Nat) (k : KeepAlive τ) (s : σ) :
    KeepAlive τ × σ :=
  let k := k.settle now
  match Job.advance launch limit now k.jobs s with
  | (some jobs, s) => ({ k with jobs := jobs }, s)
  | (none, s) => (k.stop, s)

end KeepAlive

end FlowPeers
