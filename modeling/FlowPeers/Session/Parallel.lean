import FlowPeers.Session.Operation

/-!
# Commands at the same time

Some commands are begun at one instant, in order. Those that do not need the lock are done or
under way at once. Of the operations the first takes the lock and goes on until it has to wait for a
reply; the others queue behind it. `begin` says how far each command comes at that instant, and
`finishAll` lets the operations take their turns. All is over when the last command is.
-/

namespace FlowPeers

/-- How far a command has come. -/
inductive Stage where
  /-- It is done, or what it will give is known. -/
  | known (outcome : Outcome)
  /-- It holds the lock and waits until an instant for what comes next. -/
  | waiting (arrival : Nat) (rest : Dialogue (Tracker × Except Failure Answer))
  /-- It waits for the lock. -/
  | queued (operation : Operation)

/-- Whether a command in the stage keeps the lock from others. -/
def Stage.isLocking : Stage → Bool
  | .known _ => false
  | .waiting _ _ | .queued _ => true

namespace Session

variable {σ : Type}

/-- Runs a dialogue until it is done or has to wait; then, with when the reply arrives. -/
def converseNow {α : Type} (net : Responder σ) (s : Session σ) :
    Dialogue α → Session σ × (α ⊕ (Nat × Dialogue α))
  | .done result => (s, .inl result)
  | .send request next =>
    let (s, delivery) := s.send net request
    if delivery.delay = 0 then converseNow net s (next delivery.reply)
    else (s, .inr (s.now + delivery.delay, next delivery.reply))

/-- Begins an operation, the lock being held by another one or free. -/
def beginOperation (net : Responder σ) (s : Session σ) (isLocked : Bool) (operation : Operation) :
    Session σ × Stage :=
  match s.tracker? with
  | none => (s, .known .noTracker)
  | some t =>
    if isLocked then (s, .queued operation)
    else match s.converseNow net (t.operate operation s.clock) with
      | (s, .inl (t, result)) =>
        let (s, outcome) := s.conclude t result
        (s, .known outcome)
      | (s, .inr (arrival, rest)) => (s, .waiting arrival rest)

/-- Begins a command; also says when it ends if it does not need the lock. -/
def beginCommand (net : Responder σ) (s : Session σ) (isLocked : Bool) :
    Command → Session σ × Stage × Nat
  | .operate operation =>
    let (s, stage) := s.beginOperation net isLocked operation
    (s, stage, s.now)
  | .extend n =>
    match s.transaction? n with
    | none => (s, .known .noTransaction, s.now)
    | some (tx, _) =>
      let (traffic, finish, result) := tx.extend.perform net s.now s.traffic
      ({ s with traffic := traffic }, .known (.ofResult (result.map fun _ => .done)), finish)
  | .sleep ms => (s, .known .done, s.now + ms)
  | command =>
    let (s, outcome) := s.executeNow command
    (s, .known outcome, s.now)

/-- Begins some commands in order; also says when the last of those that do not need the lock
ends. -/
def beginAll (net : Responder σ) (s : Session σ) (isLocked : Bool) :
    List Command → Session σ × List Stage × Nat
  | [] => (s, [], s.now)
  | command :: rest =>
    let (s, stage, finish) := s.beginCommand net isLocked command
    let (s, stages, last) := s.beginAll net (isLocked || stage.isLocking) rest
    (s, stage :: stages, max finish last)

/-- Lets the operations take their turns. -/
def finishAll (net : Responder σ) (s : Session σ) : List Stage → Session σ × List Outcome
  | [] => (s, [])
  | .known outcome :: rest =>
    let (s, outcomes) := s.finishAll net rest
    (s, outcome :: outcomes)
  | .waiting arrival dialogue :: rest =>
    let (s, t, result) := (s.wait net arrival).converse net dialogue
    let (s, outcome) := s.conclude t result
    let (s, outcomes) := s.finishAll net rest
    (s, outcome :: outcomes)
  | .queued operation :: rest =>
    let (s, outcome) := match s.tracker with
      | some t => s.operate net t operation
      | none => (s, .noTracker)
    let (s, outcomes) := s.finishAll net rest
    (s, outcome :: outcomes)

/-- Does some commands at the same time. -/
def executeAll (net : Responder σ) (s : Session σ) (commands : List Command) :
    Session σ × List Outcome :=
  let (s, stages, last) := s.beginAll net false commands
  let (s, outcomes) := s.finishAll net stages
  ((s.wait net last).settle, outcomes)

end Session

end FlowPeers
