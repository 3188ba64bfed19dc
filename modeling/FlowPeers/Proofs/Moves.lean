import FlowPeers.Session.Parallel
import Mathlib.Logic.Relation

/-!
# Runs of a session and their moves

The user of a session takes steps: each is a command, or several commands at the same time
(`Session.follow`). Everything that is executed consists of small moves (`Session.Move`): an operation
takes the lock, requests are sent, times pass, operations come to their ends. Between two moves a
session stands together with the operation that holds the lock of its tracker, as far as it has come
(`Scene`).

`Session.leads_follow` leads from each settled session of a run to the next by such moves, so that
what every move keeps holds of all runs. The outcomes that occur may be restricted, as the moves at
which they are reached are then.
-/

namespace FlowPeers

variable {σ : Type}

namespace Session

/-- A step of the user of a session. -/
inductive Step where
  | one (command : Command)
  /-- Several commands at the same time. -/
  | several (commands : List Command)
  deriving Repr

/-- A session after a step, and what the step has given. -/
def take (net : Responder σ) (s : Session σ) : Step → Session σ × List Outcome
  | .one command =>
    let (s, outcome) := s.execute net command
    (s, [outcome])
  | .several commands => s.executeAll net commands

/-- A session after some steps, and what they have given. -/
def follow (net : Responder σ) (s : Session σ) : List Step → Session σ × List Outcome
  | [] => (s, [])
  | step :: rest =>
    let (s, outcomes) := s.take net step
    let (s, outcomes') := s.follow net rest
    (s, outcomes ++ outcomes')

end Session

/-- A session, and the operation that holds the lock of its tracker as far as it has come. -/
structure Scene (σ : Type) where
  session : Session σ
  held : Option (Dialogue (Tracker × Except Failure Answer))

namespace Session

/-- The small moves of which everything that is executed consists; of the outcomes only some are
allowed. -/
inductive Move (net : Responder σ) (allowed : Outcome → Prop) : Scene σ → Scene σ → Prop
  | begin {s : Session σ} {t : Tracker} (h : s.tracker = some t) (operation : Operation) :
      Move net allowed ⟨s, none⟩ ⟨s, some (t.operate operation s.clock)⟩
  | send (s : Session σ) (request : Request)
      (next : Reply → Dialogue (Tracker × Except Failure Answer)) :
      Move net allowed ⟨s, some (.send request next)⟩
        ⟨(s.send net request).1, some (next (s.send net request).2.reply)⟩
  | conclude {s : Session σ} {t : Tracker} {result : Except Failure Answer}
      (h : allowed (s.conclude t result).2) :
      Move net allowed ⟨s, some (.done (t, result))⟩ ⟨(s.conclude t result).1, none⟩
  | extend {s : Session σ} {tx : Transaction} {ticket : Ticket}
      (hopen : some (tx, ticket) ∈ s.transactions) {request : Request}
      {next : Reply → Exchange Unit} (h : tx.extend = Dialogue.send request next)
      (held : Option (Dialogue (Tracker × Except Failure Answer))) :
      Move net allowed ⟨s, held⟩ ⟨(s.send net request).1, held⟩
  | wait (s : Session σ) (limit : Nat)
      (held : Option (Dialogue (Tracker × Except Failure Answer))) :
      Move net allowed ⟨s, held⟩ ⟨s.wait net limit, held⟩
  | executeNow {s : Session σ} {command : Command} (h : allowed (s.executeNow command).2)
      (held : Option (Dialogue (Tracker × Except Failure Answer))) :
      Move net allowed ⟨s, held⟩ ⟨(s.executeNow command).1, held⟩
  | settle (s : Session σ) : Move net allowed ⟨s, none⟩ ⟨s.settle, none⟩

/-- Whether moves lead from a scene to another. -/
def Leads (net : Responder σ) (allowed : Outcome → Prop) : Scene σ → Scene σ → Prop :=
  Relation.ReflTransGen (Move net allowed)

variable {net : Responder σ} {allowed : Outcome → Prop} {s : Session σ}

/-- What every move keeps is kept by all that consists of moves. -/
theorem Leads.keeps {P : Scene σ → Prop} (hP : ∀ a b, Move net allowed a b → P a → P b)
    {a b : Scene σ} (h : Leads net allowed a b) (ha : P a) : P b := by
  induction h with
  | refl => exact ha
  | tail _ hmove ih => exact hP _ _ hmove ih

/-- A move is also one where more outcomes are allowed. -/
theorem Move.mono {allowed' : Outcome → Prop} (hallowed : ∀ outcome, allowed outcome →
    allowed' outcome) {a b : Scene σ} (h : Move net allowed a b) : Move net allowed' a b := by
  cases h with
  | begin h operation => exact .begin h operation
  | send s request next => exact .send s request next
  | conclude h => exact .conclude (hallowed _ h)
  | extend hopen h held => exact .extend hopen h held
  | wait s limit held => exact .wait s limit held
  | executeNow h held => exact .executeNow (hallowed _ h) held
  | settle s => exact .settle s

/-! ## Commands that are done at once -/

/-- What a command that is done at once makes of a session, and what it gives. -/
inductive AtOnce (s : Session σ) : Session σ × Outcome → Prop
  /-- Nothing happens, or the wall clock is set. -/
  | pass (epoch : Int) (outcome : Outcome) : AtOnce s ({ s with epoch := epoch }, outcome)
  | close {n : Nat} {tx : Transaction} {ticket : Ticket}
      (h : s.transaction? n = some (tx, ticket)) :
      AtOnce s
        ({ s with
            keepAlive := s.keepAlive.cancel ticket
            transactions := s.transactions.set n none }, .done)
  | shutDown : AtOnce s ({ s with keepAlive := s.keepAlive.shutDown }, .done)
  | probe {t : Tracker} (h : s.tracker? = some t) :
      AtOnce s
        ({ s with
            keepAlive := (s.keepAlive.schedule probeInterval .probe).1
            probes := s.probes ++ [(s.keepAlive.schedule probeInterval .probe).2] },
          .ticket (s.keepAlive.schedule probeInterval .probe).2)
  | dropProbes :
      AtOnce s
        ({ s with keepAlive := s.probes.foldl KeepAlive.cancel s.keepAlive, probes := [] }, .done)
  | release : AtOnce s ({ s with isReleased := true }, .done)

theorem atOnce_executeNow (s : Session σ) (command : Command) :
    AtOnce s (s.executeNow command) := by
  cases command with
  | «show» n =>
    rw [executeNow]
    split
    · exact .pass s.epoch .noTransaction
    · exact .pass s.epoch _
  | close n =>
    rw [executeNow]
    split
    · exact .pass s.epoch .noTransaction
    · next htx => exact .close htx
  | shutDown =>
    rw [executeNow]
    split
    · exact .pass s.epoch .noTracker
    · exact .shutDown
  | probe =>
    rw [executeNow]
    split
    · exact .pass s.epoch .noTracker
    · next ht => exact .probe ht
  | dropProbes => exact .dropProbes
  | dropTracker =>
    rw [executeNow]
    split
    · exact .pass s.epoch .noTracker
    · exact .release
  | setClock ms => exact .pass _ .done
  | operate _ | extend _ | sleep _ => exact .pass s.epoch .done

theorem AtOnce.tracker_eq {after : Session σ × Outcome} (h : AtOnce s after) :
    after.1.tracker = s.tracker := by
  cases h <;> rfl

theorem AtOnce.saved_eq {after : Session σ × Outcome} (h : AtOnce s after) :
    after.1.saved = s.saved := by
  cases h <;> rfl

/-! ## Commands one after the other -/

/-- An operation that holds the lock comes to its end. -/
theorem leads_converse (s : Session σ) (d : Dialogue (Tracker × Except Failure Answer)) :
    Leads net allowed ⟨s, some d⟩ ⟨(s.converse net d).1, some (.done (s.converse net d).2)⟩ := by
  induction d generalizing s with
  | done result => exact .refl
  | send request next ih =>
    exact .head (.send s request next) (.head (.wait _ _ _) (ih _ _))

theorem leads_operate {t : Tracker} (ht : s.tracker = some t) (operation : Operation)
    (h : allowed (s.operate net t operation).2) :
    Leads net allowed ⟨s, none⟩ ⟨(s.operate net t operation).1, none⟩ :=
  .head (.begin ht operation) (.tail (leads_converse s _) (.conclude h))

/-- An extension is one request, if it can be made. -/
theorem extend_eq_send {tx : Transaction} {request : Request}
    (h : Request.toUrl "PUT" tx.url (Transaction.headers tx.authorization) .empty = .ok request) :
    ∃ next, tx.extend = Dialogue.send request next ∧
      ∀ reply, ∃ result, next reply = Dialogue.done result := by
  rw [Transaction.extend, h]
  refine ⟨_, rfl, fun reply => ?_⟩
  cases reply with
  | error failure => exact ⟨_, rfl⟩
  | ok response =>
    simp only [Dialogue.andThen, Exchange.ensureSuccess]
    split
    · exact ⟨_, rfl⟩
    · exact ⟨_, rfl⟩

theorem extend_eq_done_or_send (tx : Transaction) :
    (∃ result, tx.extend = Dialogue.done result) ∨
      ∃ request next, tx.extend = Dialogue.send request next ∧
        ∀ reply, ∃ result, next reply = Dialogue.done result := by
  cases h : Request.toUrl "PUT" tx.url (Transaction.headers tx.authorization) .empty with
  | error cause =>
    rw [Transaction.extend, h]
    exact .inl ⟨_, rfl⟩
  | ok request => exact .inr ⟨request, extend_eq_send h⟩

theorem tracker_of_tracker? {t : Tracker} (h : s.tracker? = some t) : s.tracker = some t := by
  rw [tracker?] at h
  split at h
  · contradiction
  · exact h

theorem wait_tracker (net : Responder σ) (time : Nat) (s : Session σ) :
    (s.wait net time).tracker = s.tracker := by
  rw [wait]
  split <;> rfl

theorem saved_wait (net : Responder σ) (time : Nat) (s : Session σ) :
    (s.wait net time).saved = s.saved := by
  rw [wait]
  split <;> rfl

/-- What a tracker that was given up has saved stays saved. -/
theorem saved_settle (s : Session σ) : s.settle.saved = s.saved := by
  rw [settle, saved, tracker?]
  cases s.isReleased with
  | true => rfl
  | false =>
    rw [if_neg Bool.false_ne_true]
    cases htracker : s.tracker with
    | none => rfl
    | some t => rw [saved, htracker]

theorem conclude_tracker (s : Session σ) (t : Tracker) (result : Except Failure Answer) :
    (s.conclude t result).1.tracker = some t := by
  rcases result with failure | answer
  · rfl
  · cases answer <;> rfl

theorem conclude_traffic (s : Session σ) (t : Tracker) (result : Except Failure Answer) :
    (s.conclude t result).1.traffic = s.traffic := by
  rcases result with failure | answer
  · rfl
  · cases answer <;> rfl

theorem conclude_isReleased (s : Session σ) (t : Tracker) (result : Except Failure Answer) :
    (s.conclude t result).1.isReleased = s.isReleased := by
  rcases result with failure | answer
  · rfl
  · cases answer <;> rfl

theorem conclude_outcome (s : Session σ) (t : Tracker) (result : Except Failure Answer) :
    (s.conclude t result).2 = .ofResult result := by
  rcases result with failure | answer
  · rfl
  · cases answer <;> rfl

theorem mem_transactions_of_transaction? {n : Nat} {tx : Transaction} {ticket : Ticket}
    (h : s.transaction? n = some (tx, ticket)) : some (tx, ticket) ∈ s.transactions :=
  List.mem_of_getElem? (Option.join_eq_some_iff.1 h)

/-- An extension that is waited for is a request, after which time passes. -/
theorem leads_extend {tx : Transaction} {ticket : Ticket}
    (hopen : some (tx, ticket) ∈ s.transactions) :
    Leads net allowed ⟨s, none⟩ ⟨(s.converse net tx.extend).1, none⟩ := by
  rcases extend_eq_done_or_send tx with ⟨result, h⟩ | ⟨request, next, h, hnext⟩
  · rw [h]
    exact .refl
  · obtain ⟨result, hresult⟩ := hnext (s.send net request).2.reply
    rw [h, converse]
    simp only [hresult, converse]
    exact .head (.extend hopen h none) (.single (.wait _ _ none))

theorem leads_run (command : Command) (h : allowed (s.run net command).2) :
    Leads net allowed ⟨s, none⟩ ⟨(s.run net command).1, none⟩ := by
  cases command with
  | operate operation =>
    rw [run] at h ⊢
    cases htracker : s.tracker? with
    | none => exact .refl
    | some t =>
      rw [htracker] at h
      exact leads_operate (tracker_of_tracker? htracker) operation h
  | extend n =>
    rw [run]
    cases htx : s.transaction? n with
    | none => exact .refl
    | some pair => exact leads_extend (mem_transactions_of_transaction? htx)
  | sleep ms => exact .single (.wait _ _ none)
  | _ => exact .single (.executeNow h none)

theorem leads_execute (command : Command) (h : allowed (s.execute net command).2) :
    Leads net allowed ⟨s, none⟩ ⟨(s.execute net command).1, none⟩ :=
  .tail (leads_run command h) (.settle _)

/-! ## Commands at the same time -/

/-- The operation that holds the lock when some commands were begun. -/
def heldBy : List Stage → Option (Dialogue (Tracker × Except Failure Answer))
  | [] => none
  | .waiting _ dialogue :: _ => some dialogue
  | .known _ :: rest | .queued _ :: rest => heldBy rest

/-- Whether at most one operation holds the lock, and no other one comes before it. -/
def IsInTurn : List Stage → Prop
  | [] => True
  | .known _ :: rest => IsInTurn rest
  | .waiting _ _ :: rest | .queued _ :: rest => heldBy rest = none ∧ IsInTurn rest

/-- An operation that takes the lock is done or goes on until it has to wait. -/
theorem leads_converseNow (s : Session σ) (d : Dialogue (Tracker × Except Failure Answer)) :
    Leads net allowed ⟨s, some d⟩ ⟨(s.converseNow net d).1,
      some (match (s.converseNow net d).2 with
        | .inl result => .done result
        | .inr (_, rest) => rest)⟩ := by
  induction d generalizing s with
  | done result => exact .refl
  | send request next ih =>
    rw [converseNow]
    simp only
    split
    · exact .head (.send s request next) (ih _ _)
    · exact .single (.send s request next)

/-- Whether commands that were begun in a scene have come to some stages, in a session. -/
structure Begins (net : Responder σ) (allowed : Outcome → Prop) (a : Scene σ) (s : Session σ)
    (stages : List Stage) : Prop where
  leads : Leads net allowed a ⟨s, a.held.or (heldBy stages)⟩
  inTurn : IsInTurn stages
  /-- The lock is not taken from the one who holds it. -/
  heldBy_eq_none : a.held.isSome → heldBy stages = none
  /-- Who keeps the lock from others holds it, or waits for one who does. -/
  isSome_of_isLocking : stages.any Stage.isLocking → (a.held.or (heldBy stages)).isSome

theorem heldBy_cons (stage : Stage) (rest : List Stage) :
    heldBy (stage :: rest) = (heldBy [stage]).or (heldBy rest) := by
  cases stage <;> rfl

theorem isInTurn_cons {stage : Stage} {rest : List Stage} (hrest : IsInTurn rest)
    (h : stage.isLocking → heldBy rest = none) : IsInTurn (stage :: rest) := by
  cases stage with
  | known outcome => exact hrest
  | waiting arrival dialogue => exact ⟨h rfl, hrest⟩
  | queued operation => exact ⟨h rfl, hrest⟩

theorem Begins.cons {a : Scene σ} {s s' : Session σ} {stage : Stage} {rest : List Stage}
    (h : Begins net allowed a s [stage])
    (hrest : Begins net allowed ⟨s, a.held.or (heldBy [stage])⟩ s' rest) :
    Begins net allowed a s' (stage :: rest) where
  leads := by
    rw [heldBy_cons, ← Option.or_assoc]
    exact h.leads.trans hrest.leads
  inTurn := isInTurn_cons hrest.inTurn fun hlocking =>
    hrest.heldBy_eq_none (h.isSome_of_isLocking (by simpa using hlocking))
  heldBy_eq_none := by
    intro hheld
    rw [heldBy_cons, h.heldBy_eq_none hheld, Option.none_or]
    exact hrest.heldBy_eq_none (by simp [hheld])
  isSome_of_isLocking := by
    intro hlocking
    rw [heldBy_cons, ← Option.or_assoc]
    rw [List.any_cons, Bool.or_eq_true] at hlocking
    rcases hlocking with hlocking | hlocking
    · have hsome := h.isSome_of_isLocking (by simpa using hlocking)
      simp [hsome]
    · exact hrest.isSome_of_isLocking hlocking

/-- The lock is held after a command was begun if it was held before or the command keeps it from
others. -/
theorem Begins.isSome_eq {a : Scene σ} {s : Session σ} {stage : Stage}
    (h : Begins net allowed a s [stage]) :
    (a.held.isSome || stage.isLocking) = (a.held.or (heldBy [stage])).isSome := by
  have hlocking := h.isSome_of_isLocking
  cases stage with
  | known outcome => simp [heldBy, Stage.isLocking]
  | waiting arrival dialogue => simp [heldBy, Stage.isLocking]
  | queued operation =>
    rw [hlocking (by rfl)]
    exact Bool.or_true _

/-- A command that ends at once, or of which it is known how it ends. -/
theorem Begins.of_known {a : Scene σ} {s : Session σ} {outcome : Outcome}
    (h : Leads net allowed a ⟨s, a.held⟩) : Begins net allowed a s [.known outcome] where
  leads := by
    rw [show heldBy [.known outcome] = none from rfl, Option.or_none]
    exact h
  inTurn := trivial
  heldBy_eq_none := fun _ => rfl
  isSome_of_isLocking := fun h => nomatch h

theorem begins_operation (operation : Operation)
    (held : Option (Dialogue (Tracker × Except Failure Answer)))
    (h : ∀ outcome, (s.beginOperation net held.isSome operation).2 = .known outcome →
      allowed outcome) :
    Begins net allowed ⟨s, held⟩ (s.beginOperation net held.isSome operation).1
      [(s.beginOperation net held.isSome operation).2] := by
  rw [beginOperation] at h ⊢
  cases htracker : s.tracker? with
  | none => exact .of_known .refl
  | some t =>
    rw [htracker] at h
    simp only at h ⊢
    cases held with
    | some dialogue =>
      exact
        { leads := .refl
          inTurn := ⟨rfl, trivial⟩
          heldBy_eq_none := fun _ => rfl
          isSome_of_isLocking := fun _ => rfl }
    | none =>
      have hnow : Leads net allowed _ _ := leads_converseNow s (t.operate operation s.clock)
      rw [Option.isSome_none, if_neg Bool.false_ne_true] at h ⊢
      rcases hbegun : s.converseNow net (t.operate operation s.clock) with
        ⟨s₁, ⟨t₁, result⟩ | ⟨arrival, rest⟩⟩
      · rw [hbegun] at h hnow
        exact .of_known (.head (.begin (tracker_of_tracker? htracker) operation)
          (.tail hnow (.conclude (h _ rfl))))
      · rw [hbegun] at hnow
        exact
          { leads := .head (.begin (tracker_of_tracker? htracker) operation) hnow
            inTurn := ⟨rfl, trivial⟩
            heldBy_eq_none := fun h => nomatch h
            isSome_of_isLocking := fun _ => rfl }

/-- An extension that is not waited for sends its request. -/
theorem perform_extend {tx : Transaction} {request : Request} {next : Reply → Exchange Unit}
    (h : tx.extend = Dialogue.send request next) (net : Responder σ) (s : Session σ) :
    (tx.extend.perform net s.now s.traffic).1 = (s.send net request).1.traffic := by
  rcases extend_eq_done_or_send tx with ⟨result, hdone⟩ | ⟨request', next', hsend, hnext⟩
  · rw [hdone] at h
    contradiction
  · obtain ⟨rfl, rfl⟩ := Dialogue.send.inj (hsend.symm.trans h)
    obtain ⟨result, hresult⟩ := hnext (s.send net request').2.reply
    have hreply : next' (s.traffic.send net s.now request').2.reply = .done result := hresult
    simp only [h, Dialogue.perform, hreply]
    rfl

theorem leads_perform_extend {tx : Transaction} {ticket : Ticket}
    (hopen : some (tx, ticket) ∈ s.transactions)
    (held : Option (Dialogue (Tracker × Except Failure Answer))) :
    Leads net allowed ⟨s, held⟩
      ⟨{ s with traffic := (tx.extend.perform net s.now s.traffic).1 }, held⟩ := by
  rcases extend_eq_done_or_send tx with ⟨result, h⟩ | ⟨request, next, h, -⟩
  · rw [h]
    exact .refl
  · rw [perform_extend h]
    exact .single (.extend hopen h held)

theorem begins_command (command : Command)
    (held : Option (Dialogue (Tracker × Except Failure Answer)))
    (h : ∀ outcome, (s.beginCommand net held.isSome command).2.1 = .known outcome →
      allowed outcome) :
    Begins net allowed ⟨s, held⟩ (s.beginCommand net held.isSome command).1
      [(s.beginCommand net held.isSome command).2.1] := by
  have hnow : allowed (s.executeNow command).2 →
      Leads net allowed ⟨s, held⟩ ⟨(s.executeNow command).1, held⟩ :=
    fun hallowed => .single (.executeNow hallowed held)
  cases command with
  | operate operation => exact begins_operation operation held h
  | extend n =>
    rw [beginCommand]
    cases htx : s.transaction? n with
    | none => exact .of_known .refl
    | some pair =>
      exact .of_known (leads_perform_extend (mem_transactions_of_transaction? htx) held)
  | sleep ms => exact .of_known .refl
  | _ => exact .of_known (hnow (h _ rfl))

theorem begins_all (commands : List Command)
    (held : Option (Dialogue (Tracker × Except Failure Answer)))
    (h : ∀ outcome, .known outcome ∈ (s.beginAll net held.isSome commands).2.1 →
      allowed outcome) :
    Begins net allowed ⟨s, held⟩ (s.beginAll net held.isSome commands).1
      (s.beginAll net held.isSome commands).2.1 := by
  induction commands generalizing s held with
  | nil =>
    exact
      { leads := by simpa [beginAll, heldBy] using .refl
        inTurn := trivial
        heldBy_eq_none := fun _ => rfl
        isSome_of_isLocking := fun h => nomatch h }
  | cons command rest ih =>
    rw [beginAll] at h ⊢
    simp only at h ⊢
    have hfirst := begins_command command held fun outcome heq =>
      h outcome (by rw [heq]; exact List.mem_cons_self ..)
    have hlocked : (held.isSome || _) = (held.or _).isSome := hfirst.isSome_eq
    rw [hlocked] at h ⊢
    exact hfirst.cons (ih _ fun outcome hmem => h outcome (List.mem_cons_of_mem _ hmem))

/-- What is known to come of a command when it was begun does come of it. -/
theorem mem_finishAll {stages : List Stage} {outcome : Outcome} (h : .known outcome ∈ stages)
    (s : Session σ) : outcome ∈ (s.finishAll net stages).2 := by
  induction stages generalizing s with
  | nil => contradiction
  | cons stage rest ih =>
    rcases List.mem_cons.1 h with rfl | hmem
    · exact List.mem_cons_self ..
    · cases stage with
      | known outcome => exact List.mem_cons_of_mem _ (ih hmem _)
      | waiting arrival dialogue => exact List.mem_cons_of_mem _ (ih hmem _)
      | queued operation => exact List.mem_cons_of_mem _ (ih hmem _)

theorem leads_finishAll {stages : List Stage} (hturn : IsInTurn stages)
    (h : ∀ outcome ∈ (s.finishAll net stages).2, allowed outcome) :
    Leads net allowed ⟨s, heldBy stages⟩ ⟨(s.finishAll net stages).1, none⟩ := by
  induction stages generalizing s with
  | nil => exact .refl
  | cons stage rest ih =>
    cases stage with
    | known outcome =>
      rw [finishAll] at h ⊢
      exact ih hturn fun outcome hmem => h outcome (List.mem_cons_of_mem _ hmem)
    | waiting arrival dialogue =>
      obtain ⟨hnone, hrest⟩ := hturn
      rw [finishAll] at h ⊢
      obtain ⟨hfirst, hlater⟩ := List.forall_mem_cons.1 h
      have hconverse : Leads net allowed _ _ := leads_converse (s.wait net arrival) dialogue
      have hfinish := ih hrest hlater
      rw [hnone] at hfinish
      exact .head (.wait s arrival _) (hconverse.trans (.head (.conclude hfirst) hfinish))
    | queued operation =>
      obtain ⟨hnone, hrest⟩ := hturn
      rw [finishAll] at h ⊢
      rw [heldBy, hnone]
      cases htracker : s.tracker with
      | none =>
        rw [htracker] at h
        have hfinish := ih hrest (List.forall_mem_cons.1 h).2
        rw [hnone] at hfinish
        exact hfinish
      | some t =>
        rw [htracker] at h
        obtain ⟨hfirst, hlater⟩ := List.forall_mem_cons.1 h
        have hfinish := ih hrest hlater
        rw [hnone] at hfinish
        exact (leads_operate htracker operation hfirst).trans hfinish

theorem leads_executeAll (commands : List Command)
    (h : ∀ outcome ∈ (s.executeAll net commands).2, allowed outcome) :
    Leads net allowed ⟨s, none⟩ ⟨(s.executeAll net commands).1, none⟩ := by
  rw [executeAll] at h ⊢
  have hbegins := begins_all commands none fun outcome hmem => h outcome (mem_finishAll hmem _)
  have hfinish := leads_finishAll hbegins.inTurn h
  exact (hbegins.leads.trans hfinish).tail (.wait _ _ none) |>.tail (.settle _)

/-! ## Runs -/

theorem follow_append (net : Responder σ) (s : Session σ) (steps steps' : List Step) :
    s.follow net (steps ++ steps') =
      (((s.follow net steps).1.follow net steps').1,
        (s.follow net steps).2 ++ ((s.follow net steps).1.follow net steps').2) := by
  induction steps generalizing s with
  | nil => rfl
  | cons step rest ih =>
    simp only [List.cons_append, follow, ih, List.append_assoc]

theorem leads_take (step : Step) (h : ∀ outcome ∈ (s.take net step).2, allowed outcome) :
    Leads net allowed ⟨s, none⟩ ⟨(s.take net step).1, none⟩ := by
  cases step with
  | one command => exact leads_execute command (h _ (List.mem_singleton_self _))
  | several commands => exact leads_executeAll commands h

/-- Whatever the user of a session does consists of moves. -/
theorem leads_follow {steps : List Step} (h : ∀ outcome ∈ (s.follow net steps).2, allowed outcome) :
    Leads net allowed ⟨s, none⟩ ⟨(s.follow net steps).1, none⟩ := by
  induction steps generalizing s with
  | nil => exact .refl
  | cons step rest ih =>
    rw [follow] at h ⊢
    obtain ⟨hstep, hrest⟩ := List.forall_mem_append.1 h
    exact (leads_take step hstep).trans (ih hrest)

end Session

end FlowPeers
