import FlowPeers.Proofs.Handles
import FlowPeers.Proofs.Moves
import Mathlib.Data.List.Perm.Subperm

/-!
# The scheduler of a session serves its handles

The handles of a session are the tickets of its open transactions and of its probes. No move of a
session (`Session.Move`) takes its scheduler away from them (`Leads.isServed`), provided the clock can
tell, at every instant of the run, when what was scheduled is done next (`Outcome.Fits`). What that
means between two commands, when the scheduler has received all that it was told, is said by
`IsOrderly`: one job for each handle that was accepted, none besides, and a scheduler that stops only
when it is shut down or nobody is left to use it. Two things need no clock: no number of a
handle is used again (`Leads.handles`), and a scheduler that was shut down stays so
(`Move.isShutDown`).
-/

namespace FlowPeers

variable {σ : Type}

/-- Whether the clock can tell, at any instant up to `limit`, when what was scheduled with this
outcome is done next. -/
def Outcome.Fits (limit : Nat) : Outcome → Prop
  | .answer (.opened tx) => limit + Transaction.extensionInterval tx.ttl ≤ KeepAlive.lastInstant
  | .ticket _ => limit + Session.probeInterval ≤ KeepAlive.lastInstant
  | _ => True

instance (limit : Nat) : DecidablePred (Outcome.Fits limit)
  | .answer (.opened _) | .ticket _ => inferInstanceAs (Decidable (_ ≤ _))
  | .answer .done | .answer (.identifier _) | .failed _ | .noTracker | .noTransaction =>
    .isTrue trivial

/-- The transaction that an outcome says was opened. -/
def Outcome.opened : Outcome → List Transaction
  | .answer (.opened tx) => [tx]
  | _ => []

namespace Session

/-- Whether the scheduler of a session serves the handles that are held, up to an instant. -/
structure IsServed (limit : Nat) (s : Session σ) : Prop where
  serves : s.keepAlive.Serves s.now limit s.handles
  /-- It has not stopped unless it was shut down or the tracker was given up. -/
  released : s.keepAlive.isStopped → s.keepAlive.isShutDown ∨ s.isReleased

variable {net : Responder σ} {limit : Nat} {s : Session σ}

/-! ## The handles that are held -/

theorem handles_keep_perm (s : Session σ) (tx : Transaction) :
    (s.keep tx).handles.Perm (s.handles ++
      [((s.keepAlive.schedule (Transaction.extensionInterval tx.ttl) (.extend tx)).2,
        .extend tx)]) := by
  simp only [keep, handles, List.filterMap_append, List.append_assoc]
  exact List.perm_append_comm.append_left _

theorem filterMap_perm_of_set_none {α β : Type} (f : α → β) {items : List (Option α)} {n : Nat}
    {item : α} (h : items[n]? = some (some item)) :
    (items.filterMap (·.map f)).Perm (f item :: (items.set n none).filterMap (·.map f)) := by
  induction items generalizing n with
  | nil => simp at h
  | cons first rest ih =>
    cases n with
    | zero =>
      simp only [List.getElem?_cons_zero, Option.some.injEq] at h
      simp [h]
    | succ n =>
      have hrest := ih (by simpa using h)
      cases first with
      | none => simpa using hrest
      | some other =>
        simpa using (hrest.cons (f other)).trans (.swap ..)

theorem handles_close_perm {n : Nat} {tx : Transaction} {ticket : Ticket}
    (h : s.transaction? n = some (tx, ticket)) :
    s.handles.Perm ((ticket, .extend tx) ::
      { s with transactions := s.transactions.set n none }.handles) := by
  have hget : s.transactions[n]? = some (some (tx, ticket)) := Option.join_eq_some_iff.1 h
  have hperm := filterMap_perm_of_set_none
    (fun pair : Transaction × Ticket => (pair.2, Chore.extend pair.1)) hget
  exact hperm.append_right _

theorem handles_perm_probes (s : Session σ) : s.handles.Perm
    (s.probes.map (·, .probe) ++ { s with probes := [] }.handles) := by
  simp only [handles, List.map_nil, List.append_nil]
  exact List.perm_append_comm

theorem max_extensionInterval (ttl : UInt64) :
    max (Transaction.extensionInterval ttl) KeepAlive.shortestInterval =
      Transaction.extensionInterval ttl := by
  rw [Transaction.extensionInterval, Transaction.shortestInterval, KeepAlive.shortestInterval]
  omega

/-! ## One move -/

theorem isServed_keep (h : s.IsServed limit) (hnow : s.now ≤ limit) {tx : Transaction}
    (hfits : limit + Transaction.extensionInterval tx.ttl ≤ KeepAlive.lastInstant) :
    (s.keep tx).IsServed limit where
  serves := by
    rw [← max_extensionInterval] at hfits
    exact (KeepAlive.serves_schedule h.serves hnow hfits _).of_perm (handles_keep_perm s tx).symm
  released := by simpa [keep] using h.released

theorem isServed_conclude (h : s.IsServed limit) (hnow : s.now ≤ limit) {t : Tracker}
    {result : Except Failure Answer} (hfits : (s.conclude t result).2.Fits limit) :
    (s.conclude t result).1.IsServed limit := by
  have hother : { s with tracker := some t }.IsServed limit := ⟨h.serves, h.released⟩
  rcases result with failure | answer
  · exact hother
  · cases answer with
    | done => exact hother
    | identifier id => exact hother
    | opened tx => exact isServed_keep hother hnow hfits

/-- While time passes in which the clock can tell what is scheduled, nothing stops the scheduler
but to be shut down. -/
theorem stopped_of_stopped_wait (h : s.IsServed limit) {time : Nat}
    (htime : (s.wait net time).now ≤ limit) (hstopped : (s.wait net time).keepAlive.isStopped) :
    s.keepAlive.isShutDown ∨ s.keepAlive.isStopped := by
  rw [wait] at htime hstopped
  split at htime
  · next hpast =>
    rw [if_pos hpast] at hstopped
    exact .inr hstopped
  · next hlater =>
    rw [if_neg hlater] at hstopped
    have hnow : s.now ≤ time := by omega
    obtain ⟨jobs, traffic, hadvance, -⟩ :=
      KeepAlive.exists_advance_eq h.serves hnow htime (launch net) s.traffic
    rw [hadvance] at hstopped
    exact h.serves.shut_of_stopped hstopped

theorem isServed_wait (h : s.IsServed limit) {time : Nat} (htime : (s.wait net time).now ≤ limit) :
    (s.wait net time).IsServed limit := by
  have hreleased : (s.wait net time).keepAlive.isStopped →
      s.keepAlive.isShutDown ∨ s.isReleased :=
    fun hstopped => (stopped_of_stopped_wait h htime hstopped).elim .inl h.released
  rw [wait] at htime hreleased ⊢
  split at htime
  · next hpast => rwa [if_pos hpast]
  · next hlater =>
    rw [if_neg hlater] at hreleased ⊢
    have hnow : s.now ≤ time := by omega
    exact ⟨KeepAlive.serves_advance h.serves hnow htime (launch net) s.traffic, by simpa using hreleased⟩

theorem isServed_settle (h : s.IsServed limit) : s.settle.IsServed limit := by
  have hserves := KeepAlive.serves_settle h.serves
  have hreleased : (s.keepAlive.settle s.now).isStopped →
      (s.keepAlive.settle s.now).isShutDown ∨ s.isReleased := by
    rw [KeepAlive.settle_isShutDown]
    exact fun hstopped => (h.serves.shut_of_stopped hstopped).elim .inl h.released
  rw [settle]
  cases hused : s.isInUse with
  | true => exact ⟨hserves, hreleased⟩
  | false =>
    rw [isInUse, Bool.or_eq_false_iff, Bool.not_eq_false', List.any_eq_false] at hused
    obtain ⟨hreleased, hinert⟩ := hused
    have hnone : jobsOf s.handles = [] := jobsOf_eq_nil_iff.2 (by simpa using hinert)
    exact ⟨KeepAlive.serves_stop hserves (KeepAlive.settle_inbox _ _) hnone,
      fun _ => .inr hreleased⟩

theorem AtOnce.isServed {after : Session σ × Outcome} (h : AtOnce s after) (hs : s.IsServed limit)
    (hnow : s.now ≤ limit) (hfits : after.2.Fits limit) : after.1.IsServed limit := by
  obtain ⟨hserves, hreleased⟩ := hs
  cases h with
  | pass epoch outcome => exact ⟨hserves, hreleased⟩
  | close htx =>
    have hrest := KeepAlive.serves_cancel (hserves.of_perm (handles_close_perm htx))
    exact ⟨hrest, by simpa using hreleased⟩
  | shutDown =>
    exact ⟨KeepAlive.serves_shutDown hserves, fun _ => .inl (KeepAlive.shutDown_isShutDown _)⟩
  | probe ht =>
    have hprobe : limit + max probeInterval KeepAlive.shortestInterval ≤ KeepAlive.lastInstant :=
      hfits
    have hhandles : ∀ ticket, s.handles ++ [(ticket, .probe)] =
        { s with probes := s.probes ++ [ticket] }.handles := by
      intro ticket
      simp [handles]
    refine ⟨?_, by simpa using hreleased⟩
    exact hhandles _ ▸ KeepAlive.serves_schedule hserves hnow hprobe .probe
  | dropProbes =>
    have hrest := KeepAlive.serves_foldl_cancel (hserves.of_perm (handles_perm_probes s))
    exact ⟨hrest, by simpa using hreleased⟩
  | release => exact ⟨hserves, fun _ => .inr rfl⟩

theorem conclude_now (s : Session σ) (t : Tracker) (result : Except Failure Answer) :
    (s.conclude t result).1.now = s.now := by
  rcases result with failure | answer
  · rfl
  · cases answer <;> rfl

theorem AtOnce.now_eq {after : Session σ × Outcome} (h : AtOnce s after) : after.1.now = s.now := by
  cases h <;> rfl

theorem le_wait_now (net : Responder σ) (time : Nat) (s : Session σ) :
    s.now ≤ (s.wait net time).now := by
  rw [wait]
  split
  · exact Nat.le_refl _
  · next hlater => exact Nat.le_of_lt (Nat.not_le.1 hlater)

/-- The clock never goes back. -/
theorem Move.now_le {allowed : Outcome → Prop} {a b : Scene σ} (h : Move net allowed a b) :
    a.session.now ≤ b.session.now := by
  cases h with
  | begin h operation => exact Nat.le_refl _
  | send s request next => exact Nat.le_refl _
  | conclude h => exact Nat.le_of_eq (conclude_now ..).symm
  | extend hopen h held => exact Nat.le_refl _
  | wait s time held => exact le_wait_now net time s
  | executeNow h held => exact Nat.le_of_eq (atOnce_executeNow ..).now_eq.symm
  | settle s => exact Nat.le_refl _

theorem Leads.now_le {allowed : Outcome → Prop} {a b : Scene σ} (h : Leads net allowed a b) :
    a.session.now ≤ b.session.now :=
  h.keeps (P := fun c => a.session.now ≤ c.session.now)
    (fun _ _ hmove hle => Nat.le_trans hle hmove.now_le) (Nat.le_refl _)

/-- A move that ends in time keeps the scheduler serving the handles that are held. -/
theorem Move.isServed {a b : Scene σ} (h : Move net (Outcome.Fits limit) a b)
    (hlimit : b.session.now ≤ limit) (ha : a.session.IsServed limit) : b.session.IsServed limit := by
  have hnow := Nat.le_trans h.now_le hlimit
  cases h with
  | begin h operation => exact ha
  | send s request next => exact ⟨ha.serves, ha.released⟩
  | conclude h => exact isServed_conclude ha hnow h
  | extend hopen h held => exact ⟨ha.serves, ha.released⟩
  | wait s time held => exact isServed_wait ha hlimit
  | executeNow h held => exact (atOnce_executeNow ..).isServed ha hnow h
  | settle s => exact isServed_settle ha

theorem Leads.isServed {a b : Scene σ} (h : Leads net (Outcome.Fits limit) a b)
    (ha : a.session.IsServed limit) (hlimit : b.session.now ≤ limit) :
    b.session.IsServed limit := by
  refine h.keeps (P := fun a => a.session.now ≤ limit → a.session.IsServed limit) ?_
    (fun _ => ha) hlimit
  intro a b hmove ih hb
  exact hmove.isServed hb (ih (Nat.le_trans hmove.now_le hb))

/-! ## What leaves the handles alone -/

/-- Whether nothing was done with the handles from one session to another. -/
structure Leaves (s s' : Session σ) : Prop where
  transactions : s'.transactions = s.transactions
  probes : s'.probes = s.probes
  isReleased : s'.isReleased = s.isReleased
  nextId : s'.keepAlive.nextId = s.keepAlive.nextId
  isShutDown : s'.keepAlive.isShutDown = s.keepAlive.isShutDown

theorem Leaves.refl (s : Session σ) : Leaves s s :=
  ⟨rfl, rfl, rfl, rfl, rfl⟩

theorem Leaves.trans {s s' s'' : Session σ} (h : Leaves s s') (h' : Leaves s' s'') :
    Leaves s s'' where
  transactions := h'.transactions.trans h.transactions
  probes := h'.probes.trans h.probes
  isReleased := h'.isReleased.trans h.isReleased
  nextId := h'.nextId.trans h.nextId
  isShutDown := h'.isShutDown.trans h.isShutDown

theorem Leaves.handles {s s' : Session σ} (h : Leaves s s') : s'.handles = s.handles := by
  rw [Session.handles, Session.handles, h.transactions, h.probes]

theorem leaves_wait (net : Responder σ) (time : Nat) (s : Session σ) :
    Leaves s (s.wait net time) := by
  rw [wait]
  split
  · exact .refl s
  · exact ⟨rfl, rfl, rfl, by simp, by simp⟩

theorem leaves_send (net : Responder σ) (request : Request) (s : Session σ) :
    Leaves s (s.send net request).1 :=
  ⟨rfl, rfl, rfl, rfl, rfl⟩

theorem leaves_settle (s : Session σ) : Leaves s s.settle := by
  rw [settle]
  cases s.isInUse with
  | true => exact ⟨rfl, rfl, rfl, by simp, by simp⟩
  | false => exact ⟨rfl, rfl, rfl, by simp [KeepAlive.stop], by simp [KeepAlive.stop]⟩

theorem leaves_converse {α : Type} (net : Responder σ) (s : Session σ) (d : Dialogue α) :
    Leaves s (s.converse net d).1 := by
  induction d generalizing s with
  | done result => exact .refl s
  | send request next ih =>
    exact ((leaves_send net request s).trans (leaves_wait net _ _)).trans (ih _ _)

theorem leaves_converseNow {α : Type} (net : Responder σ) (s : Session σ) (d : Dialogue α) :
    Leaves s (s.converseNow net d).1 := by
  induction d generalizing s with
  | done result => exact .refl s
  | send request next ih =>
    rw [converseNow]
    simp only
    split
    · exact (leaves_send net request s).trans (ih _ _)
    · exact leaves_send net request s

theorem leaves_tracker (s : Session σ) (t : Tracker) : Leaves s { s with tracker := some t } :=
  ⟨rfl, rfl, rfl, rfl, rfl⟩

/-- An operation that concludes leaves a tracker, and keeps the transaction if it has opened one. -/
theorem conclude_cases (s : Session σ) (t : Tracker) (result : Except Failure Answer) :
    (∃ tx, s.conclude t result = ({ s with tracker := some t }.keep tx, .answer (.opened tx))) ∨
      ((s.conclude t result).2.opened = [] ∧
        (s.conclude t result).1 = { s with tracker := some t }) := by
  rcases result with failure | answer
  · exact .inr ⟨rfl, rfl⟩
  · cases answer with
    | done => exact .inr ⟨rfl, rfl⟩
    | identifier id => exact .inr ⟨rfl, rfl⟩
    | opened tx => exact .inl ⟨tx, rfl⟩

/-- A tracker that was just connected has a new scheduler, and nothing was given to it. -/
theorem connect_fresh {epoch : Int} {network : σ} {saved : Option PeerStatus}
    {seeds : List String} {interval : Duration} {logins : Logins}
    (h : (start epoch network saved).connect net seeds interval logins = (s, .ok ())) :
    s.handles = [] ∧ s.keepAlive = {} ∧ s.isReleased = false := by
  rw [connect_eq] at h
  have hleaves := leaves_converse net (start epoch network saved) (Tracker.connect seeds interval
    logins (start epoch network saved).saved (start epoch network saved).clock)
  rcases hconverse : (start epoch network saved).converse net (Tracker.connect seeds interval
    logins (start epoch network saved).saved (start epoch network saved).clock) with ⟨s₁, result⟩
  rw [hconverse] at h hleaves
  cases result with
  | error failure => cases h
  | ok t =>
    cases h
    exact ⟨hleaves.handles, rfl, rfl⟩

/-- An operation that is executed leaves the handles alone, or it has opened a transaction, which it
kept in a session that was served until then. -/
theorem execute_operate_cases (net : Responder σ) (s : Session σ) (operation : Operation) :
    ((s.execute net (.operate operation)).2.opened = [] ∧
        Leaves s (s.execute net (.operate operation)).1) ∨
      ∃ tx s₁, s.execute net (.operate operation) = ((s₁.keep tx).settle, .answer (.opened tx)) ∧
        s.isReleased = false ∧ Leaves s s₁ ∧
        ∀ limit, s.IsServed limit → s₁.now ≤ limit → s₁.IsServed limit := by
  rw [execute, run]
  cases htracker : s.tracker? with
  | none => exact .inl ⟨rfl, leaves_settle s⟩
  | some t =>
    have hreleased : s.isReleased = false := by
      rw [Bool.eq_false_iff]
      intro hreleased
      rw [tracker?, if_pos hreleased] at htracker
      contradiction
    have hleaves := leaves_converse net s (t.operate operation s.clock)
    have hleads : ∀ limit, Leads net (Outcome.Fits limit) ⟨s, none⟩ _ := fun limit =>
      .head (.begin (tracker_of_tracker? htracker) operation) (leads_converse s _)
    rcases hconverse : s.converse net (t.operate operation s.clock) with ⟨s₁, t₁, result⟩
    rw [hconverse] at hleaves hleads
    simp only [operate, hconverse]
    rcases conclude_cases s₁ t₁ result with ⟨tx, hconclude⟩ | ⟨hnone, hconclude⟩
    · refine .inr ⟨tx, { s₁ with tracker := some t₁ }, by rw [hconclude], hreleased,
        hleaves.trans (leaves_tracker ..), ?_⟩
      intro limit hserved hnow
      have hserved := (hleads limit).isServed hserved hnow
      exact ⟨hserved.serves, hserved.released⟩
    · rw [hconclude]
      exact .inl ⟨hnone, (hleaves.trans (leaves_tracker ..)).trans (leaves_settle _)⟩

/-! ## Numbers are not used again -/

theorem AtOnce.handles_cases {after : Session σ × Outcome} (h : AtOnce s after) :
    (after.1.handles.Subperm s.handles ∧ after.1.keepAlive.nextId = s.keepAlive.nextId) ∨
      ∃ handle, handle.1.id = s.keepAlive.nextId ∧ after.1.handles.Subperm (handle :: s.handles) ∧
        after.1.keepAlive.nextId = s.keepAlive.nextId + 1 := by
  cases h with
  | pass epoch outcome => exact .inl ⟨List.Subperm.refl _, rfl⟩
  | close htx =>
    refine .inl ⟨?_, KeepAlive.cancel_nextId ..⟩
    exact (List.sublist_cons_self ..).subperm.trans (handles_close_perm htx).symm.subperm
  | shutDown => exact .inl ⟨List.Subperm.refl _, KeepAlive.shutDown_nextId _⟩
  | probe ht =>
    refine .inr ⟨((s.keepAlive.schedule probeInterval .probe).2, .probe),
      KeepAlive.schedule_ticket_id .., ?_, KeepAlive.schedule_nextId ..⟩
    simp only [handles, List.map_append, ← List.append_assoc]
    exact List.perm_append_comm.subperm
  | dropProbes =>
    refine .inl ⟨?_, KeepAlive.foldl_cancel_nextId ..⟩
    exact (List.sublist_append_right ..).subperm.trans (handles_perm_probes s).symm.subperm
  | release => exact .inl ⟨List.Subperm.refl _, rfl⟩

/-- A move gives out the next number with a new handle, or it gives out none. -/
theorem Move.handles_cases {allowed : Outcome → Prop} {a b : Scene σ}
    (h : Move net allowed a b) :
    (b.session.handles.Subperm a.session.handles ∧
        b.session.keepAlive.nextId = a.session.keepAlive.nextId) ∨
      ∃ handle, handle.1.id = a.session.keepAlive.nextId ∧
        b.session.handles.Subperm (handle :: a.session.handles) ∧
        b.session.keepAlive.nextId = a.session.keepAlive.nextId + 1 := by
  have hleaves : ∀ {s s' : Session σ}, Leaves s s' → s'.handles.Subperm s.handles ∧
      s'.keepAlive.nextId = s.keepAlive.nextId := fun h => ⟨h.handles ▸ List.Subperm.refl _, h.nextId⟩
  cases h with
  | begin h operation => exact .inl ⟨List.Subperm.refl _, rfl⟩
  | send s request next => exact .inl (hleaves (leaves_send net request s))
  | @conclude s t result h =>
    rcases conclude_cases s t result with ⟨tx, hconclude⟩ | ⟨-, hconclude⟩
    · refine .inr ⟨((s.keepAlive.schedule (Transaction.extensionInterval tx.ttl) (.extend tx)).2,
        .extend tx), KeepAlive.schedule_ticket_id .., ?_, ?_⟩
      · rw [hconclude]
        exact ((handles_keep_perm _ tx).trans List.perm_append_comm).subperm
      · rw [hconclude]
        exact KeepAlive.schedule_nextId ..
    · rw [hconclude]
      exact .inl (hleaves (leaves_tracker ..))
  | extend hopen h held => exact .inl (hleaves (leaves_send net _ _))
  | wait s time held => exact .inl (hleaves (leaves_wait net time s))
  | executeNow h held => exact (atOnce_executeNow ..).handles_cases
  | settle s => exact .inl (hleaves (leaves_settle s))

/-- A handle with a number that was given out before is one of those that were held then. -/
theorem Leads.handles {allowed : Outcome → Prop} {a b : Scene σ} (h : Leads net allowed a b) :
    a.session.keepAlive.nextId ≤ b.session.keepAlive.nextId ∧
      ∀ handle ∈ b.session.handles, handle.1.id < a.session.keepAlive.nextId →
        handle ∈ a.session.handles := by
  induction h with
  | refl => exact ⟨Nat.le_refl _, fun _ hmem _ => hmem⟩
  | tail _ hmove ih =>
    obtain ⟨hle, hold⟩ := ih
    rcases hmove.handles_cases with ⟨hsub, hnext⟩ | ⟨new, hid, hsub, hnext⟩
    · exact ⟨hnext ▸ hle, fun handle hmem => hold handle (hsub.subset hmem)⟩
    · refine ⟨by omega, fun handle hmem hlt => ?_⟩
      rcases List.mem_cons.1 (hsub.subset hmem) with rfl | hmem
      · omega
      · exact hold handle hmem hlt

/-! ## Shutting down -/

theorem AtOnce.isShutDown {after : Session σ × Outcome} (h : AtOnce s after)
    (hs : s.keepAlive.isShutDown) : after.1.keepAlive.isShutDown := by
  cases h with
  | pass epoch outcome => exact hs
  | close htx => exact (KeepAlive.cancel_isShutDown ..).trans hs
  | shutDown => exact KeepAlive.shutDown_isShutDown _
  | probe ht => exact (KeepAlive.schedule_isShutDown ..).trans hs
  | dropProbes => exact (KeepAlive.foldl_cancel_isShutDown ..).trans hs
  | release => exact hs

/-- A scheduler that was shut down stays so. -/
theorem Move.isShutDown {allowed : Outcome → Prop} {a b : Scene σ} (h : Move net allowed a b)
    (ha : a.session.keepAlive.isShutDown) : b.session.keepAlive.isShutDown := by
  cases h with
  | begin h operation => exact ha
  | send s request next => exact ha
  | @conclude s t result h =>
    rcases conclude_cases s t result with ⟨tx, hconclude⟩ | ⟨-, hconclude⟩
    · rw [hconclude]
      exact (KeepAlive.schedule_isShutDown ..).trans ha
    · rw [hconclude]
      exact ha
  | extend hopen h held => exact ha
  | wait s time held => exact (leaves_wait net time s).isShutDown.trans ha
  | executeNow h held => exact (atOnce_executeNow ..).isShutDown ha
  | settle s => exact (leaves_settle s).isShutDown.trans ha

theorem Move.isShutDown_eq_false {allowed : Outcome → Prop} {a b : Scene σ}
    (h : Move net allowed a b) (hopen : b.session.keepAlive.isShutDown = false) :
    a.session.keepAlive.isShutDown = false := by
  rw [Bool.eq_false_iff] at hopen ⊢
  exact fun hshut => hopen (h.isShutDown hshut)

/-! ## Settled sessions -/

/-- Whether the scheduler of a session has received all that it was told, the end of its use
included. -/
structure IsSettled (s : Session σ) : Prop where
  inbox_eq_nil : s.keepAlive.inbox = []
  isStopped : s.isInUse = false → s.keepAlive.isStopped

theorem isSettled_settle (s : Session σ) : s.settle.IsSettled := by
  rw [settle]
  constructor
  · cases s.isInUse with
    | true => exact KeepAlive.settle_inbox ..
    | false => exact KeepAlive.settle_inbox ..
  · intro hnot
    have hnot : s.isInUse = false := hnot
    simp [hnot, KeepAlive.stop]

theorem isSettled_take (net : Responder σ) (s : Session σ) (step : Step) :
    (s.take net step).1.IsSettled := by
  cases step with
  | one command => exact isSettled_settle _
  | several commands => exact isSettled_settle _

theorem isSettled_follow (h : s.IsSettled) (steps : List Step) :
    (s.follow net steps).1.IsSettled := by
  induction steps generalizing s with
  | nil => exact h
  | cons step rest ih => exact ih (isSettled_take net s step)

/-- What the handles of a settled session have to do with its jobs. -/
structure IsOrderly (s : Session σ) : Prop where
  /-- The handles are those of different jobs, -/
  nodup : (s.handles.map (·.1.id)).Nodup
  /-- all of which were numbered. -/
  numbered : ∀ handle ∈ s.handles, handle.1.id < s.keepAlive.nextId
  /-- Each handle that was accepted has exactly one job, and there are no other jobs; -/
  perm : s.keepAlive.isShutDown = false → s.keepAlive.entries.Perm (jobsOf s.handles)
  /-- there are none at all when the scheduler was shut down. -/
  jobs_eq_nil : s.keepAlive.isShutDown → s.keepAlive.jobs = []
  /-- The scheduler stops when it is shut down, or when nobody is left who could use it. -/
  isStopped_iff : s.keepAlive.isStopped ↔ s.keepAlive.isShutDown ∨
    (s.isReleased ∧ ∀ handle ∈ s.handles, handle.1.isActive = false)

theorem IsServed.isOrderly (h : s.IsServed limit) (hsettled : s.IsSettled) : s.IsOrderly := by
  have hsettle : s.keepAlive.settle s.now = s.keepAlive :=
    KeepAlive.settle_of_inbox_eq_nil hsettled.inbox_eq_nil
  have hperm := h.serves.perm
  have hstopped := h.serves.stopped_of_shut
  rw [hsettle] at hperm hstopped
  refine
    { nodup := h.serves.nodup
      numbered := h.serves.numbered
      perm := ?_
      jobs_eq_nil := fun hshut => h.serves.jobs_eq_nil (hstopped hshut)
      isStopped_iff := ⟨?_, ?_⟩ }
  · intro hopen
    rwa [hopen, if_neg Bool.false_ne_true] at hperm
  · intro hstop
    rcases h.released hstop with hshut | hreleased
    · exact .inl hshut
    · cases hshut : s.keepAlive.isShutDown with
      | true => exact .inl rfl
      | false =>
        -- no handle stands for a job as there is none
        rw [hshut, if_neg Bool.false_ne_true, KeepAlive.entries, h.serves.jobs_eq_nil hstop] at hperm
        exact .inr ⟨hreleased, jobsOf_eq_nil_iff.1 hperm.nil_eq.symm⟩
  · rintro (hshut | ⟨hreleased, hinert⟩)
    · exact hstopped hshut
    · refine hsettled.isStopped ?_
      rw [isInUse, hreleased, List.any_eq_false.2 (by simpa using hinert)]
      rfl

end Session

end FlowPeers
