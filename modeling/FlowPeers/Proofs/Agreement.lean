import FlowPeers.Proofs.Scheduler
import FlowPeers.Proofs.Upkeep

/-!
# Operations at the same time

Operations that are begun at the same time do what they do one after the other
(`Session.executeAll_operate`). The two ways are not quite equal: a session in which the scheduler
has received what it was told is another one than a session in which it is still to do so. But it
receives before any time passes, so that nothing the operations do and give can depend on it. Two
sessions agree (`Session.Agrees`) if that is all in which they differ, and what is done with sessions
that agree gives the same and leaves sessions that agree (`Session.Agrees.converse`,
`Session.Agrees.conclude`, `Session.Agrees.follow`).
-/

namespace FlowPeers

variable {σ τ : Type}

namespace KeepAlive

theorem settle_number (now n : Nat) (k : KeepAlive τ) :
    settle now { k with nextId := n } = { k.settle now with nextId := n } := by
  refine (settle_renumber now n k.isShutDown k).trans ?_
  rw [← settle_isShutDown now k]

/-- What a scheduler makes of a task that it is given depends only on what it has received by
then. -/
theorem settle_schedule_eq (now : Nat) (k : KeepAlive τ) (interval : Nat) (task : τ) :
    (k.schedule interval task).1.settle now =
      { (if (k.settle now).isShutDown || (k.settle now).isStopped then k.settle now
          else (k.settle now).receive now
            (.schedule (k.settle now).nextId (max interval shortestInterval) task)) with
        nextId := (k.settle now).nextId + 1 } := by
  rw [settle_nextId, settle_isShutDown, schedule]
  by_cases hclosed : (k.isShutDown || k.isStopped) = true
  · have hsettled : (k.isShutDown || (k.settle now).isStopped) = true := by
      rcases Bool.or_eq_true_iff.1 hclosed with hshut | hstopped
      · rw [hshut, Bool.true_or]
      · rw [settle_of_isStopped hstopped, hstopped, Bool.or_true]
    rw [if_pos hclosed, if_pos hsettled]
    exact settle_number now (k.nextId + 1) k
  · have hopen : (k.isShutDown || (k.settle now).isStopped) = (k.settle now).isStopped := by
      rw [Bool.or_eq_true, not_or, Bool.not_eq_true] at hclosed
      rw [hclosed.1, Bool.false_or]
    rw [if_neg hclosed, hopen, ← settle_tell]
    exact settle_number now (k.nextId + 1)
      { k with inbox := k.inbox ++ [.schedule k.nextId (max interval shortestInterval) task] }

theorem settle_settle (now : Nat) (k : KeepAlive τ) : (k.settle now).settle now = k.settle now :=
  settle_of_inbox_eq_nil (settle_inbox now k)

/-- Time passes in the same way for schedulers that have received the same by then. -/
theorem advance_congr {k k' : KeepAlive τ} {now : Nat} (h : k'.settle now = k.settle now)
    (launch : Launch σ τ) (limit : Nat) (s : σ) :
    k'.advance launch limit now s = k.advance launch limit now s := by
  rw [advance, advance, h]

end KeepAlive

namespace Session

variable {net : Responder σ} {s s' : Session σ}

/-! ## Sessions that agree -/

/-- Two sessions agree if they are the same but for what the scheduler was told: one of them may
have received some of it already. Of the tickets of transactions only the numbers are
compared, as a scheduler that stops when it receives something may still have accepted a job. -/
structure Agrees (s s' : Session σ) : Prop where
  now : s'.now = s.now
  epoch : s'.epoch = s.epoch
  /-- The requests that were sent, and when, are the same. -/
  traffic : s'.traffic = s.traffic
  /-- The status, what is saved and the tokens are the same. -/
  tracker : s'.tracker = s.tracker
  isReleased : s'.isReleased = s.isReleased
  /-- The schedulers are the same when they have received everything. -/
  keepAlive : s'.keepAlive.settle s'.now = s.keepAlive.settle s.now
  transactions : s'.transactions.map (·.map fun (tx, ticket) => (tx, ticket.id)) =
    s.transactions.map (·.map fun (tx, ticket) => (tx, ticket.id))
  probes : s'.probes = s.probes

namespace Agrees

theorem refl (s : Session σ) : Agrees s s :=
  ⟨rfl, rfl, rfl, rfl, rfl, rfl, rfl, rfl⟩

theorem symm (h : Agrees s s') : Agrees s' s :=
  ⟨h.now.symm, h.epoch.symm, h.traffic.symm, h.tracker.symm, h.isReleased.symm, h.keepAlive.symm,
    h.transactions.symm, h.probes.symm⟩

theorem trans {s'' : Session σ} (h : Agrees s s') (h' : Agrees s' s'') : Agrees s s'' :=
  ⟨h'.now.trans h.now, h'.epoch.trans h.epoch, h'.traffic.trans h.traffic,
    h'.tracker.trans h.tracker, h'.isReleased.trans h.isReleased, h'.keepAlive.trans h.keepAlive,
    h'.transactions.trans h.transactions, h'.probes.trans h.probes⟩

theorem clock (h : Agrees s s') : s'.clock = s.clock := by
  rw [Session.clock, Session.clock, h.now, h.epoch]

theorem tracker? (h : Agrees s s') : s'.tracker? = s.tracker? := by
  rw [Session.tracker?, Session.tracker?, h.isReleased, h.tracker]

theorem settle_eq (h : Agrees s s') : s'.keepAlive.settle s.now = s.keepAlive.settle s.now :=
  h.now ▸ h.keepAlive

theorem send (h : Agrees s s') (net : Responder σ) (request : Request) :
    (s'.send net request).2 = (s.send net request).2 ∧
      Agrees (s.send net request).1 (s'.send net request).1 := by
  rw [Session.send, Session.send, h.now, h.traffic]
  exact ⟨rfl, rfl, h.epoch, rfl, h.tracker, h.isReleased, h.settle_eq, h.transactions, h.probes⟩

theorem wait (h : Agrees s s') (net : Responder σ) (limit : Nat) :
    Agrees (s.wait net limit) (s'.wait net limit) := by
  rw [Session.wait, Session.wait, h.now]
  split
  · exact h
  · have hadvance := KeepAlive.advance_congr h.settle_eq (launch net) limit s.traffic
    rw [h.traffic]
    simp only [hadvance]
    exact ⟨rfl, h.epoch, rfl, h.tracker, h.isReleased, rfl, h.transactions, h.probes⟩

theorem keep (h : Agrees s s') (tx : Transaction) : Agrees (s.keep tx) (s'.keep tx) where
  now := h.now
  epoch := h.epoch
  traffic := h.traffic
  tracker := h.tracker
  isReleased := h.isReleased
  keepAlive := by
    simp only [Session.keep, h.now]
    rw [KeepAlive.settle_schedule_eq, KeepAlive.settle_schedule_eq, h.settle_eq]
  transactions := by
    have hnextId := congrArg KeepAlive.nextId h.keepAlive
    rw [KeepAlive.settle_nextId, KeepAlive.settle_nextId] at hnextId
    simp [Session.keep, h.transactions, hnextId]
  probes := h.probes

theorem conclude (h : Agrees s s') (t : Tracker) (result : Except Failure Answer) :
    (s'.conclude t result).2 = (s.conclude t result).2 ∧
      Agrees (s.conclude t result).1 (s'.conclude t result).1 := by
  have hother : Agrees { s with tracker := some t } { s' with tracker := some t } :=
    ⟨h.now, h.epoch, h.traffic, rfl, h.isReleased, h.keepAlive, h.transactions, h.probes⟩
  rcases result with failure | answer
  · exact ⟨rfl, hother⟩
  · cases answer with
    | done => exact ⟨rfl, hother⟩
    | identifier id => exact ⟨rfl, hother⟩
    | opened tx => exact ⟨rfl, hother.keep tx⟩

/-- A dialogue gives the same in sessions that agree, and they agree after it. -/
theorem converse {α : Type} (h : Agrees s s') (net : Responder σ) (d : Dialogue α) :
    (s'.converse net d).2 = (s.converse net d).2 ∧
      Agrees (s.converse net d).1 (s'.converse net d).1 := by
  induction d generalizing s s' with
  | done result => exact ⟨rfl, h⟩
  | send request next ih =>
    obtain ⟨hdelivery, hsent⟩ := h.send net request
    simp only [Session.converse, hdelivery, hsent.now]
    exact ih _ (hsent.wait net _)

theorem operate (h : Agrees s s') (net : Responder σ) (t : Tracker) (operation : Operation) :
    (s'.operate net t operation).2 = (s.operate net t operation).2 ∧
      Agrees (s.operate net t operation).1 (s'.operate net t operation).1 := by
  obtain ⟨hresult, hafter⟩ := h.converse net (t.operate operation s.clock)
  simp only [Session.operate, h.clock, hresult]
  exact hafter.conclude _ _

end Agrees

/-- That the scheduler receives what it was told makes no difference. -/
theorem agrees_receive (s : Session σ) :
    Agrees s { s with keepAlive := s.keepAlive.settle s.now } :=
  ⟨rfl, rfl, rfl, rfl, rfl, KeepAlive.settle_settle _ _, rfl, rfl⟩

/-- Nor does it that nothing else is under way then, while the tracker is there. -/
theorem agrees_settle (hs : s.isReleased = false) : Agrees s s.settle := by
  have hused : s.isInUse = true := by rw [isInUse, hs, Bool.not_false, Bool.true_or]
  have htracker : s.tracker? = s.tracker := by rw [Session.tracker?, hs, if_neg Bool.false_ne_true]
  rw [settle, hused, htracker]
  exact ⟨rfl, rfl, rfl, rfl, rfl, KeepAlive.settle_settle _ _, rfl, rfl⟩

/-! ## Operations one after the other -/

/-- The steps in which some operations are done, each after the one before. -/
def oneByOne (operations : List Operation) : List Step :=
  operations.map fun operation => .one (.operate operation)

theorem tracker?_eq_some_iff {t : Tracker} :
    s.tracker? = some t ↔ s.isReleased = false ∧ s.tracker = some t := by
  rw [tracker?]
  cases s.isReleased <;> simp

theorem wait_tracker? (net : Responder σ) (limit : Nat) (s : Session σ) :
    (s.wait net limit).tracker? = s.tracker? := by
  rw [tracker?, tracker?, (leaves_wait net limit s).isReleased, wait_tracker]

theorem tracker?_conclude (hs : s.isReleased = false) (t : Tracker)
    (result : Except Failure Answer) : (s.conclude t result).1.tracker? = some t :=
  tracker?_eq_some_iff.2 ⟨(conclude_isReleased s t result).trans hs, conclude_tracker s t result⟩

/-- After an operation the tracker is there still, with what has become of it. -/
theorem exists_tracker?_operate (hs : s.isReleased = false) (net : Responder σ) (t : Tracker)
    (operation : Operation) : ∃ t', (s.operate net t operation).1.tracker? = some t' :=
  ⟨_, tracker?_conclude ((leaves_converse net s _).isReleased.trans hs) _ _⟩

/-- Of some operations one after the other the first one is done, the scheduler receives what it was
told, and the others are done. -/
theorem follow_oneByOne_cons {t : Tracker} (ht : s.tracker? = some t) (net : Responder σ)
    (operation : Operation) (rest : List Operation) :
    s.follow net (oneByOne (operation :: rest)) =
      (((s.operate net t operation).1.settle.follow net (oneByOne rest)).1,
        (s.operate net t operation).2 ::
          ((s.operate net t operation).1.settle.follow net (oneByOne rest)).2) := by
  simp only [oneByOne, List.map_cons, follow, take, execute, run, ht, List.singleton_append]

/-- After some operations the tracker is there still. -/
theorem exists_tracker?_follow {t : Tracker} (ht : s.tracker? = some t) (net : Responder σ)
    (operations : List Operation) :
    ∃ t', (s.follow net (oneByOne operations)).1.tracker? = some t' := by
  induction operations generalizing s t with
  | nil => exact ⟨t, ht⟩
  | cons operation rest ih =>
    obtain ⟨t₁, ht₁⟩ := exists_tracker?_operate (tracker?_eq_some_iff.1 ht).1 net t operation
    rw [follow_oneByOne_cons ht]
    exact ih ((agrees_settle (tracker?_eq_some_iff.1 ht₁).1).tracker?.trans ht₁)

/-- Operations one after the other give the same in sessions that agree, and they agree after
them. -/
theorem Agrees.follow (h : Agrees s s') {t : Tracker} (ht : s.tracker? = some t)
    (net : Responder σ) (operations : List Operation) :
    (s'.follow net (oneByOne operations)).2 = (s.follow net (oneByOne operations)).2 ∧
      Agrees (s.follow net (oneByOne operations)).1 (s'.follow net (oneByOne operations)).1 := by
  induction operations generalizing s s' t with
  | nil => exact ⟨rfl, h⟩
  | cons operation rest ih =>
    have ht' : s'.tracker? = some t := h.tracker?.trans ht
    obtain ⟨houtcome, hafter⟩ := h.operate net t operation
    obtain ⟨t₁, ht₁⟩ := exists_tracker?_operate (tracker?_eq_some_iff.1 ht).1 net t operation
    have hsettle := agrees_settle (tracker?_eq_some_iff.1 ht₁).1
    have hsettle' := agrees_settle (tracker?_eq_some_iff.1 (hafter.tracker?.trans ht₁)).1
    have hsettled : Agrees (s.operate net t operation).1.settle
        (s'.operate net t operation).1.settle :=
      hsettle.symm.trans (hafter.trans hsettle')
    obtain ⟨houtcomes, hfollow⟩ := ih hsettled (hsettle.tracker?.trans ht₁)
    rw [follow_oneByOne_cons ht, follow_oneByOne_cons ht', houtcome, houtcomes]
    exact ⟨rfl, hfollow⟩

/-- That the scheduler receives what it was told after each operation makes no difference. -/
theorem agrees_follow_cons {t : Tracker} (ht : s.tracker? = some t) (net : Responder σ)
    (operation : Operation) (rest : List Operation) :
    (s.follow net (oneByOne (operation :: rest))).2 = (s.operate net t operation).2 ::
        ((s.operate net t operation).1.follow net (oneByOne rest)).2 ∧
      Agrees ((s.operate net t operation).1.follow net (oneByOne rest)).1
        (s.follow net (oneByOne (operation :: rest))).1 := by
  obtain ⟨t₁, ht₁⟩ := exists_tracker?_operate (tracker?_eq_some_iff.1 ht).1 net t operation
  obtain ⟨houtcomes, hfollow⟩ :=
    (agrees_settle (tracker?_eq_some_iff.1 ht₁).1).follow ht₁ net rest
  rw [follow_oneByOne_cons ht, houtcomes]
  exact ⟨rfl, hfollow⟩

/-! ## Operations that are begun at the same time -/

theorem wait_of_le {limit : Nat} (h : limit ≤ s.now) : s.wait net limit = s := by
  rw [wait, if_pos h]

theorem le_now_wait (net : Responder σ) (limit : Nat) (s : Session σ) :
    limit ≤ (s.wait net limit).now := by
  rw [wait]
  split
  · assumption
  · exact Nat.le_refl _

/-- An operation goes on to its end after it has come as far as it can without waiting. -/
theorem converse_eq_of_converseNow {α : Type} (net : Responder σ) (s : Session σ)
    (d : Dialogue α) : s.converse net d =
      match s.converseNow net d with
      | (s', .inl result) => (s', result)
      | (s', .inr (arrival, rest)) => (s'.wait net arrival).converse net rest := by
  induction d generalizing s with
  | done result => rfl
  | send request next ih =>
    rw [converse, converseNow]
    simp only
    by_cases hzero : (s.send net request).2.delay = 0
    · rw [if_pos hzero, hzero, Nat.add_zero, wait_of_le (Nat.le_refl _)]
      exact ih _ _
    · rw [if_neg hzero]

theorem converseNow_keeps {α : Type} (net : Responder σ) (s : Session σ) (d : Dialogue α) :
    (s.converseNow net d).1.now = s.now ∧ (s.converseNow net d).1.tracker? = s.tracker? := by
  induction d generalizing s with
  | done result => exact ⟨rfl, rfl⟩
  | send request next ih =>
    rw [converseNow]
    simp only
    split
    · exact ih _ _
    · exact ⟨rfl, rfl⟩

/-- An operation that takes the lock is done at once, or it has come to where it waits for a reply and
is done when it goes on from there. -/
theorem beginOperation_cases {t : Tracker} (ht : s.tracker? = some t) (net : Responder σ)
    (operation : Operation) :
    (∃ s₁ outcome, s.beginOperation net false operation = (s₁, .known outcome) ∧
        s₁.now = s.now ∧ s.operate net t operation = (s₁, outcome)) ∨
      ∃ s₁ arrival d, s.beginOperation net false operation = (s₁, .waiting arrival d) ∧
        s₁.now = s.now ∧ s₁.tracker? = some t ∧
        ∀ s₂ t' result, (s₁.wait net arrival).converse net d = (s₂, t', result) →
          s.operate net t operation = s₂.conclude t' result := by
  obtain ⟨hnow, htracker⟩ := converseNow_keeps net s (t.operate operation s.clock)
  rw [beginOperation, ht, operate, converse_eq_of_converseNow]
  simp only [if_neg Bool.false_ne_true]
  rcases hbegun : s.converseNow net (t.operate operation s.clock) with
    ⟨s₁, ⟨t₁, result⟩ | ⟨arrival, d⟩⟩
  · rw [hbegun] at hnow
    exact .inl ⟨_, _, rfl, (conclude_now ..).trans hnow, rfl⟩
  · rw [hbegun] at hnow htracker
    refine .inr ⟨s₁, arrival, d, rfl, hnow, htracker.trans ht, fun s₂ t' result hconverse => ?_⟩
    simp only [hconverse]

/-- While the lock is held all operations that are begun queue. -/
theorem beginAll_of_isLocked {t : Tracker} (ht : s.tracker? = some t) (net : Responder σ)
    (operations : List Operation) :
    s.beginAll net true (operations.map .operate) = (s, operations.map .queued, s.now) := by
  induction operations with
  | nil => rfl
  | cons operation rest ih =>
    simp only [List.map_cons, beginAll, beginCommand, beginOperation, ht, if_true, Bool.true_or, ih,
      Nat.max_self]

/-- Operations that queue are done one after the other. -/
theorem agrees_finishAll {t : Tracker} (h : Agrees s s') (ht : s.tracker? = some t)
    (net : Responder σ) (operations : List Operation) :
    (s.finishAll net (operations.map .queued)).2 = (s'.follow net (oneByOne operations)).2 ∧
      Agrees (s.finishAll net (operations.map .queued)).1
        (s'.follow net (oneByOne operations)).1 := by
  induction operations generalizing s s' t with
  | nil => exact ⟨rfl, h⟩
  | cons operation rest ih =>
    obtain ⟨houtcome, hafter⟩ := h.operate net t operation
    obtain ⟨t₁, ht₁⟩ := exists_tracker?_operate (tracker?_eq_some_iff.1 ht).1 net t operation
    obtain ⟨houtcomes, hfinish⟩ := ih hafter ht₁
    obtain ⟨hfollow, hagrees⟩ := agrees_follow_cons (h.tracker?.trans ht) net operation rest
    simp only [List.map_cons, finishAll, (tracker?_eq_some_iff.1 ht).2]
    rw [hfollow, houtcome, houtcomes]
    exact ⟨rfl, hfinish.trans hagrees⟩

/-- Operations that are begun at one instant are done one after the other. -/
theorem agrees_finishAll_beginAll {t : Tracker} (h : Agrees s s') (ht : s.tracker? = some t)
    (net : Responder σ) (operations : List Operation) :
    let begun := s.beginAll net false (operations.map .operate)
    begun.2.2 = s.now ∧
      (begun.1.finishAll net begun.2.1).2 = (s'.follow net (oneByOne operations)).2 ∧
      Agrees (begun.1.finishAll net begun.2.1).1 (s'.follow net (oneByOne operations)).1 := by
  induction operations generalizing s s' t with
  | nil => exact ⟨rfl, rfl, h⟩
  | cons operation rest ih =>
    obtain ⟨houtcome, hafter⟩ := h.operate net t operation
    obtain ⟨t', ht'⟩ := exists_tracker?_operate (tracker?_eq_some_iff.1 ht).1 net t operation
    obtain ⟨hfollow, hagrees⟩ := agrees_follow_cons (h.tracker?.trans ht) net operation rest
    rw [hfollow, houtcome]
    simp only [List.map_cons, beginAll, beginCommand]
    rcases beginOperation_cases ht net operation with
      ⟨s₁, outcome, hbegun, hnow, hoperate⟩ | ⟨s₁, arrival, d, hbegun, hnow, ht₁, hoperate⟩
    · rw [hoperate] at hafter ht' ⊢
      obtain ⟨hlast, houtcomes, hfinish⟩ := ih hafter ht'
      simp only [hbegun, Stage.isLocking, Bool.or_false, finishAll, hlast, houtcomes, Nat.max_self]
      exact ⟨hnow, trivial, hfinish.trans hagrees⟩
    · rcases hconverse : (s₁.wait net arrival).converse net d with ⟨s₂, t₂, result⟩
      rw [hoperate _ _ _ hconverse] at hafter ht' ⊢
      obtain ⟨houtcomes, hfinish⟩ := agrees_finishAll hafter ht' net rest
      simp only [hbegun, Stage.isLocking, Bool.or_true, beginAll_of_isLocked ht₁, finishAll,
        hconverse, houtcomes, Nat.max_self]
      exact ⟨hnow, trivial, hfinish.trans hagrees⟩

/-- Operations that are done at the same time give what they give one after the other, and the
sessions agree after them. -/
theorem executeAll_operate {t : Tracker} (ht : s.tracker? = some t) (net : Responder σ)
    (operations : List Operation) :
    (s.executeAll net (operations.map .operate)).2 = (s.follow net (oneByOne operations)).2 ∧
      Agrees (s.executeAll net (operations.map .operate)).1
        (s.follow net (oneByOne operations)).1 := by
  obtain ⟨hlast, houtcomes, hagrees⟩ := agrees_finishAll_beginAll (.refl s) ht net operations
  obtain ⟨t', ht'⟩ := exists_tracker?_follow ht net operations
  have hleads : Leads net (fun _ => True) ⟨s, none⟩ ⟨(s.follow net (oneByOne operations)).1, none⟩ :=
    leads_follow fun _ _ => trivial
  have hnow : s.now ≤ ((s.beginAll net false (operations.map .operate)).1.finishAll net
      (s.beginAll net false (operations.map .operate)).2.1).1.now := by
    rw [← hagrees.now]
    exact hleads.now_le
  have hreleased := (tracker?_eq_some_iff.1 (hagrees.tracker?.symm.trans ht')).1
  simp only [executeAll, hlast, wait_of_le hnow]
  exact ⟨houtcomes, (agrees_settle hreleased).symm.trans hagrees⟩

end Session

end FlowPeers
