import FlowPeers.Proofs.Agreement
import FlowPeers.Proofs.Opening
import FlowPeers.Proofs.Tenures

/-!
# Callers and the lock

Several callers each want an operation done on one tracker. They ask for the lock in some order and
get it in this order; whoever holds it sends requests and waits for the replies, and meanwhile others
may ask, and the scheduler extends what is open. A `Crowd` is a session with all of its callers, and
`Crowd.Move` is what any of them can do next, in whatever order the moves may come.

However they come, no request of one operation lies between two requests of another
(`Crowd.IsInOrder`), and what is still to come is what would come if everybody who is left went one
after the other (`Crowd.finish`, `Crowd.Move.agrees_finish`). The end can be reached from everywhere
(`Crowd.exists_isOver`), and there the callers have what they get one after the other.
-/

namespace FlowPeers

open Session

variable {σ : Type}

/-- A session with the callers of operations on its tracker. -/
structure Crowd (σ : Type) where
  session : Session σ
  /-- The operations whose callers have not asked for the lock yet, in the order in which they
  will. -/
  coming : List Operation
  /-- The operations that wait for the lock, in the order in which it was asked for. -/
  queue : List Operation
  /-- What is left of the operation that holds the lock, and when the reply arrives that it waits
  for. -/
  held : Option (Nat × Dialogue (Tracker × Except Failure Answer))
  /-- What the operations have given that are done. -/
  outcomes : List Outcome
  /-- What was sent, with the number of the operation that has sent it, or by the scheduler. -/
  sent : List (Option Nat × Sent)

namespace Crowd

variable {net : Responder σ} {c c' : Crowd σ} {s : Session σ}

/-- A session with callers of whom none has asked for the lock. -/
def start (s : Session σ) (operations : List Operation) : Crowd σ :=
  ⟨s, operations, [], none, [], []⟩

/-- What was sent while time passed. -/
def background (net : Responder σ) (limit : Nat) (s : Session σ) : List (Option Nat × Sent) :=
  ((s.wait net limit).traffic.log.drop s.traffic.log.length).map fun sent => (none, sent)

/-- What can happen next. -/
inductive Move (net : Responder σ) : Crowd σ → Crowd σ → Prop
  /-- A caller asks for the lock. -/
  | ask (s : Session σ) (operation : Operation) (coming queue : List Operation)
      (held : Option (Nat × Dialogue (Tracker × Except Failure Answer))) (outcomes : List Outcome)
      (sent : List (Option Nat × Sent)) :
      Move net ⟨s, operation :: coming, queue, held, outcomes, sent⟩
        ⟨s, coming, queue ++ [operation], held, outcomes, sent⟩
  /-- The lock is free, and whoever has asked first gets it. -/
  | take {s : Session σ} {t : Tracker} (ht : s.tracker? = some t) (operation : Operation)
      (coming queue : List Operation) (outcomes : List Outcome) (sent : List (Option Nat × Sent)) :
      Move net ⟨s, coming, operation :: queue, none, outcomes, sent⟩
        ⟨s, coming, queue, some (s.now, t.operate operation s.clock), outcomes, sent⟩
  /-- The operation that holds the lock, whose number is that of the operations before it, sends a
  request. -/
  | send {s : Session σ} {arrival : Nat} (harrived : arrival ≤ s.now) (request : Request)
      (next : Reply → Dialogue (Tracker × Except Failure Answer))
      (coming queue : List Operation) (outcomes : List Outcome) (sent : List (Option Nat × Sent)) :
      Move net ⟨s, coming, queue, some (arrival, .send request next), outcomes, sent⟩
        ⟨(s.send net request).1, coming, queue,
          some (s.now + (s.send net request).2.delay, next (s.send net request).2.reply), outcomes,
          sent ++ [(some outcomes.length, ⟨s.now, request⟩)]⟩
  /-- Time passes until the reply arrives, and what is due is extended. -/
  | wait (s : Session σ) (arrival : Nat) (d : Dialogue (Tracker × Except Failure Answer))
      (coming queue : List Operation) (outcomes : List Outcome) (sent : List (Option Nat × Sent)) :
      Move net ⟨s, coming, queue, some (arrival, d), outcomes, sent⟩
        ⟨s.wait net arrival, coming, queue, some (arrival, d), outcomes,
          sent ++ background net arrival s⟩
  /-- The operation that holds the lock is done. -/
  | conclude {s : Session σ} {arrival : Nat} (harrived : arrival ≤ s.now) (t : Tracker)
      (result : Except Failure Answer) (coming queue : List Operation) (outcomes : List Outcome)
      (sent : List (Option Nat × Sent)) :
      Move net ⟨s, coming, queue, some (arrival, .done (t, result)), outcomes, sent⟩
        ⟨(s.conclude t result).1, coming, queue, none, outcomes ++ [(s.conclude t result).2], sent⟩
  /-- The scheduler receives what it was told. -/
  | receive (s : Session σ) (coming queue : List Operation)
      (held : Option (Nat × Dialogue (Tracker × Except Failure Answer))) (outcomes : List Outcome)
      (sent : List (Option Nat × Sent)) :
      Move net ⟨s, coming, queue, held, outcomes, sent⟩
        ⟨{ s with keepAlive := s.keepAlive.settle s.now }, coming, queue, held, outcomes, sent⟩

/-- Whether moves lead from a crowd to another. -/
def Leads (net : Responder σ) : Crowd σ → Crowd σ → Prop :=
  Relation.ReflTransGen (Move net)

/-- Whether everything is done. -/
structure IsOver (c : Crowd σ) : Prop where
  coming : c.coming = []
  queue : c.queue = []
  held : c.held = none

/-! ## What is sent -/

theorem numbers_background (net : Responder σ) (limit : Nat) (s : Session σ) :
    (background net limit s).filterMap (·.1) = [] := by
  rw [background, List.filterMap_map, List.filterMap_eq_nil_iff]
  exact fun _ _ => rfl

theorem log_background (net : Responder σ) (limit : Nat) (s : Session σ) :
    s.traffic.log ++ (background net limit s).map (·.2) = (s.wait net limit).traffic.log := by
  have hsame : (background net limit s).map (·.2) =
      (s.wait net limit).traffic.log.drop s.traffic.log.length := by
    rw [background, List.map_map]
    exact List.map_id _
  rw [hsame]
  exact List.prefix_iff_eq_append.1 (log_wait net limit s)

/-- Whether everything in a crowd goes in the order of the operations that began in a session. -/
structure IsInOrder (s : Session σ) (operations : List Operation) (c : Crowd σ) : Prop where
  /-- The operations that are left are those after the ones that are done and the one that holds the
  lock. -/
  left : c.queue ++ c.coming = operations.drop (c.outcomes.length + c.held.toList.length)
  /-- All that was sent is told, with the numbers of the operations. -/
  log : c.session.traffic.log = s.traffic.log ++ c.sent.map (·.2)
  /-- The numbers never fall: no request of one operation lies between two requests of another. -/
  ordered : (c.sent.filterMap (·.1)).Pairwise (· ≤ ·)
  /-- No operation sends anything before it holds the lock. -/
  begun : ∀ n ∈ c.sent.filterMap (·.1), n < c.outcomes.length + c.held.toList.length

theorem isInOrder_start (s : Session σ) (operations : List Operation) :
    IsInOrder s operations (start s operations) where
  left := rfl
  log := (List.append_nil _).symm
  ordered := .nil
  begun := by simp [start]

/-- Every move keeps the order. -/
theorem Move.isInOrder {operations : List Operation} (h : Move net c c')
    (hc : IsInOrder s operations c) : IsInOrder s operations c' := by
  obtain ⟨hleft, hlog, hordered, hbegun⟩ := hc
  cases h with
  | ask x operation coming queue held outcomes sent =>
    exact ⟨(List.append_assoc ..).trans hleft, hlog, hordered, hbegun⟩
  | take ht operation coming queue outcomes sent =>
    refine ⟨?_, hlog, hordered, fun n hn => Nat.lt_succ_of_lt (hbegun n hn)⟩
    exact (congrArg List.tail hleft).trans List.tail_drop
  | send harrived request next coming queue outcomes sent =>
    refine ⟨hleft, ?_, ?_, ?_⟩
    · simp only [List.map_append, List.map_singleton, ← List.append_assoc]
      exact congrArg (· ++ [_]) hlog
    · rw [List.filterMap_append, List.pairwise_append]
      refine ⟨hordered, List.pairwise_singleton _ _, fun n hn last hlast => ?_⟩
      rw [List.mem_singleton.1 hlast]
      exact Nat.le_of_lt_succ (hbegun n hn)
    · rw [List.filterMap_append, List.forall_mem_append]
      exact ⟨hbegun, by simp⟩
  | wait x arrival d coming queue outcomes sent =>
    have hnumbers : (sent ++ background net arrival x).filterMap (·.1) = sent.filterMap (·.1) := by
      rw [List.filterMap_append, numbers_background, List.append_nil]
    refine ⟨hleft, ?_, hnumbers ▸ hordered, hnumbers ▸ hbegun⟩
    rw [List.map_append, ← List.append_assoc]
    exact (log_background net arrival x).symm.trans (congrArg (· ++ _) hlog)
  | @conclude x arrival harrived t result coming queue outcomes sent =>
    -- the operation that held the lock is one of those that are done now
    refine ⟨?_, ?_, hordered, ?_⟩
    · rw [List.length_append]
      exact hleft
    · rw [conclude_traffic]
      exact hlog
    · rw [List.length_append]
      exact hbegun
  | receive => exact ⟨hleft, hlog, hordered, hbegun⟩

/-! ## What is still to come -/

/-- The session and what all operations have given, if those that are left are done one after the
other. -/
def finish (net : Responder σ) (c : Crowd σ) : Session σ × List Outcome :=
  match c.held with
  | none =>
    let (s, outcomes) := c.session.follow net (oneByOne (c.queue ++ c.coming))
    (s, c.outcomes ++ outcomes)
  | some (arrival, d) =>
    let (s, t, result) := (c.session.wait net arrival).converse net d
    let (s, outcome) := s.conclude t result
    let (s, outcomes) := s.follow net (oneByOne (c.queue ++ c.coming))
    (s, c.outcomes ++ outcome :: outcomes)

/-- What is still to come is the same in sessions that agree. -/
theorem agrees_finish_of_agrees {s s' : Session σ} (h : Agrees s s') {t : Tracker}
    (ht : s.tracker? = some t) (coming queue : List Operation)
    (held : Option (Nat × Dialogue (Tracker × Except Failure Answer))) (outcomes : List Outcome)
    (sent sent' : List (Option Nat × Sent)) :
    (finish net ⟨s', coming, queue, held, outcomes, sent'⟩).2 =
        (finish net ⟨s, coming, queue, held, outcomes, sent⟩).2 ∧
      Agrees (finish net ⟨s, coming, queue, held, outcomes, sent⟩).1
        (finish net ⟨s', coming, queue, held, outcomes, sent'⟩).1 := by
  cases held with
  | none =>
    obtain ⟨houtcomes, hfollow⟩ := h.follow ht net (queue ++ coming)
    exact ⟨congrArg (outcomes ++ ·) houtcomes, hfollow⟩
  | some waiting =>
    obtain ⟨arrival, d⟩ := waiting
    obtain ⟨hresult, hconverse⟩ := (h.wait net arrival).converse net d
    have hreleased : ((s.wait net arrival).converse net d).1.isReleased = false := by
      rw [(leaves_converse net _ _).isReleased, (leaves_wait net _ _).isReleased]
      exact (tracker?_eq_some_iff.1 ht).1
    simp only [finish]
    rcases hended : (s.wait net arrival).converse net d with ⟨x, t', result⟩
    rcases hended' : (s'.wait net arrival).converse net d with ⟨x', outcome'⟩
    rw [hended, hended'] at hresult hconverse
    rw [hended] at hreleased
    simp only at hresult hconverse hreleased ⊢
    subst hresult
    obtain ⟨houtcome, hconclude⟩ := hconverse.conclude t' result
    obtain ⟨houtcomes, hfollow⟩ :=
      hconclude.follow (tracker?_conclude hreleased t' result) net (queue ++ coming)
    simp only [houtcome, houtcomes]
    exact ⟨trivial, hfollow⟩

/-- Every move leaves what is still to come as it was. -/
theorem Move.agrees_finish (h : Move net c c') {t : Tracker} (ht : c.session.tracker? = some t) :
    (c'.finish net).2 = (c.finish net).2 ∧ Agrees (c.finish net).1 (c'.finish net).1 := by
  cases h with
  | ask s operation coming queue held outcomes sent =>
    have hsame : finish net ⟨s, coming, queue ++ [operation], held, outcomes, sent⟩ =
        finish net ⟨s, operation :: coming, queue, held, outcomes, sent⟩ := by
      simp [finish]
    rw [hsame]
    exact ⟨rfl, .refl _⟩
  | @take s t' ht' operation coming queue outcomes sent =>
    obtain ⟨houtcomes, hfollow⟩ := agrees_follow_cons ht' net operation (queue ++ coming)
    simp only [finish, wait_of_le (Nat.le_refl _), List.cons_append, houtcomes]
    exact ⟨rfl, hfollow.symm⟩
  | @send s arrival harrived request next coming queue outcomes sent =>
    simp only [finish, wait_of_le harrived, converse]
    exact ⟨rfl, .refl _⟩
  | wait s arrival d coming queue outcomes sent =>
    simp only [finish, wait_of_le (le_now_wait net arrival s)]
    exact ⟨trivial, .refl _⟩
  | @conclude s arrival harrived t' result coming queue outcomes sent =>
    simp only [finish, wait_of_le harrived, converse, List.append_assoc, List.singleton_append]
    exact ⟨trivial, .refl _⟩
  | receive s coming queue held outcomes sent =>
    exact agrees_finish_of_agrees (agrees_receive s) ht coming queue held outcomes sent sent

theorem Move.exists_tracker? (h : Move net c c') (hc : ∃ t, c.session.tracker? = some t) :
    ∃ t, c'.session.tracker? = some t := by
  obtain ⟨t, ht⟩ := hc
  cases h with
  | ask => exact ⟨t, ht⟩
  | take => exact ⟨t, ht⟩
  | send => exact ⟨t, ht⟩
  | wait s arrival d coming queue outcomes sent => exact ⟨t, (wait_tracker? net arrival s).trans ht⟩
  | conclude harrived t' result coming queue outcomes sent =>
    exact ⟨t', tracker?_conclude (tracker?_eq_some_iff.1 ht).1 t' result⟩
  | receive => exact ⟨t, ht⟩

/-- What is still to come after some moves is what was still to come before them. -/
theorem Leads.agrees_finish (h : Leads net c c') {t : Tracker} (ht : c.session.tracker? = some t) :
    (∃ t', c'.session.tracker? = some t') ∧ (c'.finish net).2 = (c.finish net).2 ∧
      Agrees (c.finish net).1 (c'.finish net).1 := by
  induction h with
  | refl => exact ⟨⟨t, ht⟩, rfl, .refl _⟩
  | tail _ hmove ih =>
    obtain ⟨⟨t', ht'⟩, houtcomes, hagrees⟩ := ih
    obtain ⟨houtcomes', hagrees'⟩ := hmove.agrees_finish ht'
    exact ⟨hmove.exists_tracker? ⟨t', ht'⟩, houtcomes'.trans houtcomes, hagrees.trans hagrees'⟩

theorem Leads.isInOrder {operations : List Operation} (h : Leads net c c')
    (hc : IsInOrder s operations c) : IsInOrder s operations c' := by
  induction h with
  | refl => exact hc
  | tail _ hmove ih => exact hmove.isInOrder ih

/-! ## Nobody waits for ever -/

/-- Everybody can ask for the lock. -/
theorem leads_ask (s : Session σ) (coming queue : List Operation)
    (held : Option (Nat × Dialogue (Tracker × Except Failure Answer))) (outcomes : List Outcome)
    (sent : List (Option Nat × Sent)) :
    Leads net ⟨s, coming, queue, held, outcomes, sent⟩
      ⟨s, [], queue ++ coming, held, outcomes, sent⟩ := by
  induction coming generalizing queue with
  | nil =>
    rw [List.append_nil]
    exact .refl
  | cons operation rest ih =>
    refine .head (.ask s operation rest queue held outcomes sent) ?_
    have hrest := ih (queue ++ [operation])
    rwa [List.append_assoc, List.singleton_append] at hrest

/-- The operation that holds the lock can come to its end. -/
theorem exists_leads_conclude (d : Dialogue (Tracker × Except Failure Answer)) (s : Session σ)
    (arrival : Nat) (coming queue : List Operation) (outcomes : List Outcome)
    (sent : List (Option Nat × Sent)) :
    ∃ s' outcomes' sent', Leads net ⟨s, coming, queue, some (arrival, d), outcomes, sent⟩
      ⟨s', coming, queue, none, outcomes', sent'⟩ := by
  induction d generalizing s arrival sent with
  | done ended =>
    exact ⟨_, _, _, .head (.wait s arrival _ coming queue outcomes sent)
      (.single (.conclude (le_now_wait net arrival s) ended.1 ended.2 coming queue outcomes _))⟩
  | send request next ih =>
    obtain ⟨s', outcomes', sent', hrest⟩ := ih _ _ _ _
    exact ⟨s', outcomes', sent', .head (.wait s arrival _ coming queue outcomes sent)
      (.head (.send (le_now_wait net arrival s) request next coming queue outcomes _) hrest)⟩

/-- With the lock free all who wait for it can get it and come to their ends. -/
theorem exists_leads_of_queue {s : Session σ} {t : Tracker} (ht : s.tracker? = some t)
    (queue : List Operation) (outcomes : List Outcome) (sent : List (Option Nat × Sent)) :
    ∃ c', Leads net ⟨s, [], queue, none, outcomes, sent⟩ c' ∧ c'.IsOver := by
  induction queue generalizing s t outcomes sent with
  | nil => exact ⟨_, .refl, rfl, rfl, rfl⟩
  | cons operation rest ih =>
    have htake : Leads net _ _ := .single (.take ht operation [] rest outcomes sent)
    obtain ⟨s', outcomes', sent', hconclude⟩ :=
      exists_leads_conclude (t.operate operation s.clock) s s.now [] rest outcomes sent
    have hleads : Leads net _ _ := htake.trans hconclude
    obtain ⟨⟨t', ht'⟩, -⟩ := hleads.agrees_finish ht
    obtain ⟨c', hrest, hover⟩ := ih ht' outcomes' sent'
    exact ⟨c', hleads.trans hrest, hover⟩

/-- Everything can come to its end. -/
theorem exists_isOver {t : Tracker} (ht : c.session.tracker? = some t) :
    ∃ c', Leads net c c' ∧ c'.IsOver := by
  obtain ⟨s, coming, queue, held, outcomes, sent⟩ := c
  have hask : Leads net _ _ := leads_ask s coming queue held outcomes sent
  cases held with
  | none =>
    obtain ⟨c', hqueue, hover⟩ := exists_leads_of_queue ht (queue ++ coming) outcomes sent
    exact ⟨c', hask.trans hqueue, hover⟩
  | some waiting =>
    obtain ⟨arrival, d⟩ := waiting
    obtain ⟨s', outcomes', sent', hconclude⟩ :=
      exists_leads_conclude d s arrival [] (queue ++ coming) outcomes sent
    have hleads : Leads net _ _ := hask.trans hconclude
    obtain ⟨⟨t', ht'⟩, -⟩ := hleads.agrees_finish ht
    obtain ⟨c', hqueue, hover⟩ := exists_leads_of_queue ht' (queue ++ coming) outcomes' sent'
    exact ⟨c', hleads.trans hqueue, hover⟩

theorem finish_of_isOver (h : c.IsOver) : c.finish net = (c.session, c.outcomes) := by
  obtain ⟨s, coming, queue, held, outcomes, sent⟩ := c
  obtain ⟨rfl, rfl, rfl⟩ := h
  exact Prod.ext rfl (List.append_nil outcomes)

end Crowd

/-- **The lock serialises operations.** Operations that are done at the same time on one tracker give
what they give one after the other, in the order in which they were begun, and the sessions agree
after them: the same was sent at the same times, and the status, what is saved and the tokens are the
same. The same holds however the callers ask for the lock and wait for it while others hold it: the
operations get the lock in their order, no request of one lies between two requests of another, the
end can be reached from everywhere, and at the end everybody has what the operations give one after
the other, in a session that agrees. -/
theorem Session.lock_serialises_operations {s : Session σ} {t : Tracker}
    (ht : s.tracker? = some t) (net : Responder σ) (operations : List Operation) :
    (s.executeAll net (operations.map .operate)).2 = (s.follow net (oneByOne operations)).2 ∧
    Agrees (s.follow net (oneByOne operations)).1
      (s.executeAll net (operations.map .operate)).1 ∧
    ∀ c, Crowd.Leads net (.start s operations) c →
      c.IsInOrder s operations ∧ (∃ c', Crowd.Leads net c c' ∧ c'.IsOver) ∧
      (c.IsOver → c.outcomes = (s.follow net (oneByOne operations)).2 ∧
        Agrees (s.follow net (oneByOne operations)).1 c.session) := by
  obtain ⟨houtcomes, hagrees⟩ := executeAll_operate ht net operations
  refine ⟨houtcomes, hagrees.symm, fun c hleads => ?_⟩
  obtain ⟨⟨t', ht'⟩, hgiven, hfinish⟩ := hleads.agrees_finish ht
  refine ⟨hleads.isInOrder (Crowd.isInOrder_start s operations), Crowd.exists_isOver ht', ?_⟩
  intro hover
  rw [Crowd.finish_of_isOver hover] at hgiven hfinish
  exact ⟨hgiven, hfinish⟩

/-- Two operations at the same time on a session whose peer takes a tenth of a second for each
reply. -/
theorem Session.refresh_and_lookup_at_the_same_time : ∃ (net : Responder Script)
    (s : Session Script) (t : Tracker), s.tracker? = some t ∧
      let operations := [.refresh, .resolvePort "in"]
      (s.executeAll net (operations.map .operate)).1.traffic.log.map (·.time) = [0, 100] ∧
      (s.executeAll net (operations.map .operate)).2 = (s.follow net (oneByOne operations)).2 ∧
      (s.executeAll net (operations.map .operate)).1.tracker =
        (s.follow net (oneByOne operations)).1.tracker := by
  let list : Response := ⟨.ok, [], .ofText (PeerList.print [("::1", 80, 0)])⟩
  let script : Script := [{ replies := [(100, .response list)] }]
  have hsome : (connected script).tracker?.isSome := by decide +kernel
  obtain ⟨t, ht⟩ := Option.isSome_iff_exists.1 hsome
  have htimes : ((connected script).executeAll Script.responder
      ([.refresh, .resolvePort "in"].map Command.operate)).1.traffic.log.map (·.time) =
      [0, 100] := by
    decide +kernel
  obtain ⟨houtcomes, hagrees, -⟩ :=
    lock_serialises_operations ht Script.responder [.refresh, .resolvePort "in"]
  exact ⟨Script.responder, connected script, t, ht, htimes, houtcomes, hagrees.tracker⟩

end FlowPeers
