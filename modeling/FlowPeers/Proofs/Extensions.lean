import FlowPeers.Proofs.Custody
import FlowPeers.Proofs.Lifecycle

/-!
# Open transactions are extended

An operation that opens a transaction has asked its peer for it on the way
(`Session.exists_opener_of_leads`), and gives its session's scheduler a job that extends it. As long
as the transaction is open the scheduler minds this job, so its runs start at whole multiples of its
interval after the opening and are never in flight together. The interval is half of the time for
which the peer keeps the transaction, or half a second if that is more. From this follows
`Session.open_transactions_are_extended`: a peer that answers in time never waits longer for a sign of
life than it has said, no peer gets two of them within half a second, and each is the same request.
-/

namespace FlowPeers

open Dialogue

variable {σ : Type}

/-! ## The interval -/

namespace Transaction

theorem shortestInterval_le (ttl : UInt64) : shortestInterval ≤ extensionInterval ttl :=
  Nat.le_max_right _ _

/-- From one second on, the interval is half of the time that the peer has said. -/
theorem extensionInterval_eq_half {ttl : UInt64} (h : 1 ≤ ttl.toNat) :
    extensionInterval ttl = ttl.toNat * 500 := by
  rw [extensionInterval, shortestInterval]
  omega

end Transaction

/-! ## The request that opens a transaction -/

/-- An operation that has opened a transaction has asked its peer for it. -/
theorem Tracker.exists_opener_of_runs_operate {t t' : Tracker} {operation : Operation} {now : UInt64}
    {log : List Exchanged} {tx : Transaction}
    (h : (t.operate operation now).Runs log (t', .ok (.opened tx))) :
    ∃ x ∈ log, tx.IsOpenedBy x := by
  obtain ⟨d, hd, -, -, hact⟩ : ∃ d : Deed, d.Occurs ∧ d.before = t ∧ d.after = t' ∧
      d.act = ⟨operation, now, log, .ok (.opened tx)⟩ :=
    runs_operate_iff.1 h
  have hresult : d.result = .ok (.opened tx) := congrArg Act.result hact
  have hopener := (hd.of_opened hresult).2
  rwa [hact] at hopener

namespace Session

variable {net : Responder σ} {allowed : Outcome → Prop} {a b : Scene σ} {x : Exchanged}

/-- Whether an operation that holds the lock has sent a request and got a reply on the way from a
scene to another. -/
def HasExchanged (net : Responder σ) (allowed : Outcome → Prop) (a b : Scene σ) (x : Exchanged) :
    Prop :=
  ∃ s next, Leads net allowed a ⟨s, some (.send x.request next)⟩ ∧
    (s.send net x.request).2.reply = x.reply ∧
    Leads net allowed ⟨(s.send net x.request).1, some (next x.reply)⟩ b

theorem HasExchanged.tail {c : Scene σ} (h : HasExchanged net allowed a b x)
    (hmove : Move net allowed b c) : HasExchanged net allowed a c x := by
  obtain ⟨s, next, hbefore, hreply, hafter⟩ := h
  exact ⟨s, next, hbefore, hreply, hafter.tail hmove⟩

/-- Whether what is still to come of the operation that holds the lock completes a run of an
operation, all of which was exchanged on the way from a scene. -/
def IsOnTheWay (net : Responder σ) (allowed : Outcome → Prop) (a b : Scene σ) : Prop :=
  ∀ d, b.held = some d → ∃ (t : Tracker) (operation : Operation) (now : UInt64)
    (log : List Exchanged), (∀ x ∈ log, HasExchanged net allowed a b x) ∧
      ∀ later outcome, d.Runs later outcome → (t.operate operation now).Runs (log ++ later) outcome

theorem IsOnTheWay.of_held_eq {c : Scene σ} (h : IsOnTheWay net allowed a b)
    (hmove : Move net allowed b c) (hheld : c.held = b.held) : IsOnTheWay net allowed a c := by
  intro d hd
  obtain ⟨t, operation, now, log, hlog, hrun⟩ := h d (hheld ▸ hd)
  exact ⟨t, operation, now, log, fun x hx => (hlog x hx).tail hmove, hrun⟩

theorem Move.isOnTheWay {c : Scene σ} (hmove : Move net allowed b c)
    (hleads : Leads net allowed a b) (h : IsOnTheWay net allowed a b) :
    IsOnTheWay net allowed a c := by
  have hmove' := hmove
  cases hmove with
  | @begin s t ht operation =>
    rintro _ ⟨⟩
    exact ⟨t, operation, s.clock, [], by simp, fun later outcome hrun => hrun⟩
  | send s request next =>
    rintro _ ⟨⟩
    obtain ⟨t, operation, now, log, hlog, hrun⟩ := h _ rfl
    refine ⟨t, operation, now, log ++ [⟨request, (s.send net request).2.reply⟩], ?_, ?_⟩
    · refine List.forall_mem_append.2 ⟨fun x hx => (hlog x hx).tail hmove', ?_⟩
      exact List.forall_mem_singleton.2 ⟨s, next, hleads, rfl, .refl⟩
    · intro later outcome hlater
      rw [List.append_assoc]
      exact hrun _ outcome (.send hlater)
  | conclude h => exact fun d hd => nomatch hd
  | extend hopen hextend held => exact h.of_held_eq hmove' rfl
  | wait s time held => exact h.of_held_eq hmove' rfl
  | executeNow hallowed held => exact h.of_held_eq hmove' rfl
  | settle s => exact fun d hd => nomatch hd

/-- An operation that ends with an opened transaction has asked the peer for it while it held the
lock. -/
theorem exists_opener_of_leads (hfree : a.held = none) {s : Session σ} {t : Tracker}
    {tx : Transaction} (h : Leads net allowed a ⟨s, some (.done (t, .ok (.opened tx)))⟩) :
    ∃ x, HasExchanged net allowed a ⟨s, some (.done (t, .ok (.opened tx)))⟩ x ∧ tx.IsOpenedBy x := by
  -- by induction on the run; at its end nothing is still to come of the operation
  have hway : ∀ b, Leads net allowed a b → IsOnTheWay net allowed a b := by
    intro b hleads
    induction hleads with
    | refl => exact fun d hd => nomatch hfree.symm.trans hd
    | tail earlier hmove ih => exact hmove.isOnTheWay earlier ih
  obtain ⟨t', operation, now, log, hlog, hrun⟩ := hway _ h _ rfl
  have hruns := hrun [] _ (.done _)
  rw [List.append_nil] at hruns
  obtain ⟨x, hx, hopener⟩ := Tracker.exists_opener_of_runs_operate hruns
  exact ⟨x, hlog x hx, hopener⟩

/-! ## The request that extends a transaction -/

/-- All requests about a transaction have the same headers. -/
theorem headers_eq_of_isOpenedBy {tx : Transaction} (h : tx.IsOpenedBy x) {request : Request}
    (hrequest : Request.toUrl "PUT" tx.url (Transaction.headers tx.authorization) .empty =
      .ok request) : request.headers = x.request.headers := by
  obtain ⟨url, response, -, hopener, -⟩ := h
  obtain ⟨target, -, rfl⟩ := Request.eq_of_toUrl_eq_ok hrequest
  obtain ⟨target', -, heq⟩ := Request.eq_of_toUrl_eq_ok hopener
  rw [heq]

/-- Extending a transaction in the background is one request. -/
theorem log_launch_extend {tx : Transaction} {request : Request}
    (h : Request.toUrl "PUT" tx.url (Transaction.headers tx.authorization) .empty = .ok request)
    (net : Responder σ) (now : Nat) (traffic : Traffic σ) :
    (launch net now (.extend tx) traffic).1.log = traffic.log ++ [⟨now, request⟩] := by
  obtain ⟨next, hextend, hnext⟩ := extend_eq_send h
  obtain ⟨result, hresult⟩ := hnext (traffic.send net now request).2.reply
  simp only [launch, hextend, Dialogue.perform, hresult]
  rfl

/-! ## Being opened -/

variable {s : Session σ} {t : Tracker} {tx : Transaction}

/-- The plan of the job that extends a transaction which is opened in a session. -/
def extensionPlan (s : Session σ) (tx : Transaction) : Plan where
  number := s.keepAlive.nextId
  since := s.now
  interval := Transaction.extensionInterval tx.ttl
  ended := none

/-- A scheduler minds the job of a transaction that was just opened. -/
theorem minds_conclude (hsound : s.IsSound) (hopen : s.keepAlive.isShutDown = false)
    (hrunning : (s.keepAlive.settle s.now).isStopped = false)
    (hfits : s.now + Transaction.extensionInterval tx.ttl ≤ KeepAlive.lastInstant) (t : Tracker) :
    (s.conclude t (.ok (.opened tx))).1.keepAlive.Minds (s.conclude t (.ok (.opened tx))).1.now
      (s.extensionPlan tx) (.extend tx) ([] : List (Start (Traffic σ) Chore)) := by
  have hminds : (s.keepAlive.schedule (Transaction.extensionInterval tx.ttl) (.extend tx)).1.Minds
      s.now _ (.extend tx) ([] : List (Start (Traffic σ) Chore)) :=
    KeepAlive.minds_schedule_self hsound.keepAlive hopen hrunning (by rwa [max_extensionInterval]) _
  rwa [max_extensionInterval] at hminds

/-- As long as a transaction is open that was opened in a run, and the scheduler is not shut down, a
job follows the plan of the extensions. -/
theorem exists_follows_of_opened {epoch : Int} {network : σ} {saved : Option PeerStatus}
    {seeds : List String} {interval : Duration} {logins : Logins} {s₀ : Session σ}
    {earlier later : List (Start (Traffic σ) Chore)}
    (hconnect : (start epoch network saved).connect net seeds interval logins = (s₀, .ok ()))
    (hopened : Unfolds net ⟨s₀, none⟩ ⟨s, some (.done (t, .ok (.opened tx)))⟩ earlier)
    (hfits : s.now + Transaction.extensionInterval tx.ttl ≤ KeepAlive.lastInstant)
    (hlater : Unfolds net ⟨(s.conclude t (.ok (.opened tx))).1, none⟩ b later)
    (hopen : b.session.keepAlive.isShutDown = false)
    (hheld : b.session.Holds s.keepAlive.nextId) :
    ∃ job : Job Chore, job.task = .extend tx ∧ job.Follows (s.extensionPlan tx) b.session.now
      (later.filter (·.number == s.keepAlive.nextId)) := by
  obtain ⟨hattends₀, hnumbered₀⟩ := attends_connect hconnect
  have hreachable : Reachable net s := hopened.reachable (.connect hconnect)
  have hconclude : Move net (fun _ => True) ⟨s, some (.done (t, .ok (.opened tx)))⟩
      ⟨(s.conclude t (.ok (.opened tx))).1, none⟩ := .conclude trivial
  -- a scheduler that is not shut down in the end was not when the job was scheduled
  have hopen₁ : (s.conclude t (.ok (.opened tx))).1.keepAlive.isShutDown = false := by
    rw [Bool.eq_false_iff] at hopen ⊢
    exact fun hshut => hopen (hlater.leads.keeps (fun _ _ hmove => hmove.isShutDown) hshut)
  have hopen' : s.keepAlive.isShutDown = false := hconclude.isShutDown_eq_false hopen₁
  have hattends := hopened.attends (.connect hconnect) hattends₀ hopen'
  have hrunning : (s.keepAlive.settle s.now).isStopped = false :=
    hattends.isStopped_eq_false (.inr (.inl rfl))
  have hfree : Attends ⟨{ s with tracker := some t }, none⟩ :=
    ⟨hattends.isActive, fun hstopped => absurd hstopped (by simp [hrunning])⟩
  have hattends₁ : Attends ⟨(s.conclude t (.ok (.opened tx))).1, none⟩ :=
    attends_keep hfree hrunning hopen' hfits
  have hnumbered := hopened.leads.keeps (fun _ _ hmove => hmove.isNumbered) hnumbered₀
  obtain ⟨job, -, htask, hfollows⟩ := hlater.minds (hreachable.conclude t _)
    (hconclude.isNumbered hnumbered) hattends₁
    (minds_conclude hreachable.isSound hopen' hrunning hfits t) hopen hheld
  exact ⟨job, htask, hfollows⟩

/-- Extensions that are over before half of the time start at the multiples of this half. -/
theorem extensions_of_quick {own : List (Start (Traffic σ) Chore)} {now : Nat}
    (hkept : (s.extensionPlan tx).IsKept (Start.lengthIn own) now (own.map (·.time)))
    (hsorted : own.Pairwise (·.time < ·.time)) (hnow : s.now ≤ now) (httl : 1 ≤ tx.ttl.toNat)
    (hquick : ∀ x ∈ own, ∃ ms, x.length = some ms ∧ ms < tx.ttl.toNat * 500) :
    own.map (·.time) = (List.range ((now - s.now) / (tx.ttl.toNat * 500))).map
        (fun k => s.now + (k + 1) * (tx.ttl.toNat * 500)) ∧
      ∀ time, s.now ≤ time → time + tx.ttl.toNat * 1000 ≤ now →
        ∃ x ∈ own, time < x.time ∧ x.time < time + tx.ttl.toNat * 1000 := by
  have hhalf : (s.extensionPlan tx).interval = tx.ttl.toNat * 500 :=
    Transaction.extensionInterval_eq_half httl
  have hinterval : 0 < (s.extensionPlan tx).interval := by omega
  have hover : ∀ start ∈ own.map (·.time), ∃ ms, Start.lengthIn own start = some ms ∧
      ms ≤ (s.extensionPlan tx).interval := by
    rintro _ hstart
    obtain ⟨x, hx, rfl⟩ := List.mem_map.1 hstart
    obtain ⟨ms, hms, hlt⟩ := hquick x hx
    exact ⟨ms, (Start.lengthIn_of_mem hsorted hx).trans hms, by omega⟩
  constructor
  · have hticks := hkept.eq_ticks hinterval hnow hover
    simp only [Plan.ticksBy, Plan.tick, hhalf] at hticks
    exact hticks
  · intro time hsince hend
    obtain ⟨k, hpos, hlt, hle⟩ := (s.extensionPlan tx).exists_tick_mem hinterval hsince
    have hmem := hkept.tick_mem hinterval hover hpos (by omega)
    obtain ⟨x, hx, htime⟩ := List.mem_map.1 hmem
    exact ⟨x, hx, by omega, by omega⟩

/-- **Open transactions are extended.** In every run of a session in which the clock can tell what is
scheduled, let an operation open a transaction, and let the transaction be open and the scheduler not
be shut down at some later moment. Then the extensions that the scheduler has started until then
start at the ticks of their job, unless one is in flight, and:

* if the peer keeps the transaction for a second or more, and every extension takes less than half of
  this time, they start at exactly the multiples of the half after the opening, so that there is one
  in every time of the whole length;
* however long the peer keeps it, no two start within half a second, and none within half a second of
  the opening;
* each sends exactly the request that extends the transaction, by itself, and this is part of all that
  was sent;
* the headers of this request are those with which the peer was asked for the transaction, on the way
  to the moment at which the operation has ended with it. -/
theorem open_transactions_are_extended {epoch : Int} {network : σ} {saved : Option PeerStatus}
    {seeds : List String} {interval : Duration} {logins : Logins} {s₀ : Session σ}
    {earlier later : List (Start (Traffic σ) Chore)} {request : Request}
    (hconnect : (start epoch network saved).connect net seeds interval logins = (s₀, .ok ()))
    (hopened : Unfolds net ⟨s₀, none⟩ ⟨s, some (.done (t, .ok (.opened tx)))⟩ earlier)
    (hfits : s.now + Transaction.extensionInterval tx.ttl ≤ KeepAlive.lastInstant)
    (hlater : Unfolds net ⟨(s.conclude t (.ok (.opened tx))).1, none⟩ b later)
    (hopen : b.session.keepAlive.isShutDown = false)
    (hheld : ∃ ticket, some (tx, ticket) ∈ b.session.transactions ∧
      ticket.id = s.keepAlive.nextId)
    (hrequest : Request.toUrl "PUT" tx.url (Transaction.headers tx.authorization) .empty =
      .ok request) :
    let own := later.filter (·.number == s.keepAlive.nextId)
    (s.extensionPlan tx).IsKept (Start.lengthIn own) b.session.now (own.map (·.time)) ∧
    (1 ≤ tx.ttl.toNat →
      (∀ x ∈ own, ∃ ms, x.length = some ms ∧ ms < tx.ttl.toNat * 500) →
      own.map (·.time) = (List.range ((b.session.now - s.now) / (tx.ttl.toNat * 500))).map
        (fun k => s.now + (k + 1) * (tx.ttl.toNat * 500)) ∧
      ∀ time, s.now ≤ time → time + tx.ttl.toNat * 1000 ≤ b.session.now →
        ∃ x ∈ own, time < x.time ∧ x.time < time + tx.ttl.toNat * 1000) ∧
    own.Pairwise (fun x y => x.time + 500 ≤ y.time) ∧
    (∀ x ∈ own, s.now + 500 ≤ x.time) ∧
    (∀ x ∈ own, x.task = .extend tx ∧ x.after.log = x.before.log ++ [⟨x.time, request⟩] ∧
      x.after.log <+: b.session.traffic.log) ∧
    ∃ opener, HasExchanged net (fun _ => True) ⟨s₀, none⟩
        ⟨s, some (.done (t, .ok (.opened tx)))⟩ opener ∧
      tx.IsOpenedBy opener ∧ request.headers = opener.request.headers := by
  intro own
  have hholds : b.session.Holds s.keepAlive.nextId := by
    obtain ⟨ticket, hmem, hid⟩ := hheld
    refine ⟨(ticket, .extend tx), List.mem_append_left _ (List.mem_filterMap.2 ⟨_, hmem, rfl⟩), hid⟩
  obtain ⟨job, htask, hfollows⟩ :=
    exists_follows_of_opened hconnect hopened hfits hlater hopen hholds
  have hkept := hfollows.isKept
  have hinterval : 500 ≤ (s.extensionPlan tx).interval := Transaction.shortestInterval_le tx.ttl
  obtain ⟨opener, hexchanged, hopener⟩ := exists_opener_of_leads rfl hopened.leads
  refine ⟨hkept, extensions_of_quick hkept hfollows.sorted hfollows.underWay.since_le, ?_, ?_, ?_,
    opener, hexchanged, hopener, headers_eq_of_isOpenedBy hopener hrequest⟩
  · have hapart := hkept.apart hfollows.underWay.interval_pos
    rw [List.pairwise_map] at hapart
    exact hapart.imp fun hle => by omega
  · intro x hx
    have hfirst : s.now + (s.extensionPlan tx).interval ≤ x.time :=
      hkept.since_add_le (List.mem_map_of_mem hx)
    omega
  · intro x hx
    have hextend : x.task = .extend tx := (hfollows.tasks x hx).trans htask
    obtain ⟨hlaunch, hprefix⟩ := hlater.of_mem
      ((hopened.reachable (.connect hconnect)).conclude t _) (List.mem_filter.1 hx).1
    have hlog := log_launch_extend hrequest net x.time x.before
    rw [← hextend, hlaunch] at hlog
    exact ⟨hextend, hlog, hprefix⟩

/-- An operation that opens a transaction unfolds, and so does the time after it in which nobody does
anything, as long as the clock can tell the ticks. -/
theorem unfolds_opening {limit : Nat} {s₀ : Session σ} {t₀ : Tracker} {operation : Operation}
    (hserved₀ : s₀.IsServed limit) (htracker : s₀.tracker = some t₀)
    (hended : s₀.converse net (t₀.operate operation s₀.clock) = (s, t, .ok (.opened tx)))
    (hnow : s.now < limit)
    (hfits : limit + Transaction.extensionInterval tx.ttl ≤ KeepAlive.lastInstant) :
    (∃ earlier, Unfolds net ⟨s₀, none⟩ ⟨s, some (.done (t, .ok (.opened tx)))⟩ earlier) ∧
      Unfolds net ⟨(s.conclude t (.ok (.opened tx))).1, none⟩
        ⟨(s.conclude t (.ok (.opened tx))).1.wait net limit, none⟩
        ((s.conclude t (.ok (.opened tx))).1.startsUntil net limit) := by
  have hleads : Leads net (Outcome.Fits limit) ⟨s₀, none⟩
      ⟨s, some (.done (t, .ok (.opened tx)))⟩ := by
    have hconverse : Leads net (Outcome.Fits limit) ⟨s₀, _⟩ _ :=
      leads_converse s₀ (t₀.operate operation s₀.clock)
    rw [hended] at hconverse
    exact .head (.begin htracker operation) hconverse
  have hserved := hleads.isServed hserved₀ (Nat.le_of_lt hnow)
  have hserved₁ : (s.conclude t (.ok (.opened tx))).1.IsServed limit :=
    isServed_conclude hserved (Nat.le_of_lt hnow) hfits
  have hlimit : ((s.conclude t (.ok (.opened tx))).1.wait net limit).now = limit := by
    rw [wait, if_neg (by rw [conclude_now]; omega)]
  have htime := hserved₁.hasTime (isServed_wait hserved₁ (Nat.le_of_eq hlimit))
    (Nat.le_of_eq hlimit)
  have hmove := Unfolds.rest.move (.wait _ limit none) htime
  rw [List.nil_append, hlimit] at hmove
  exact ⟨hleads.exists_unfolds hserved₀ (Nat.le_of_lt hnow), hmove⟩

/-- A transaction that its peer keeps for two seconds is extended every second. -/
theorem extended_every_second : ∃ (script : Script) (saved : Option PeerStatus)
    (s₀ s s' : Session Script) (t : Tracker) (tx : Transaction)
    (earlier later : List (Start (Traffic Script) Chore)),
    (start 0 script saved).connect Script.responder ["http://[::1]:80"] (.ofSeconds 1800)
      (.start none none) = (s₀, .ok ()) ∧
    Unfolds Script.responder ⟨s₀, none⟩ ⟨s, some (.done (t, .ok (.opened tx)))⟩ earlier ∧
    Unfolds Script.responder ⟨(s.conclude t (.ok (.opened tx))).1, none⟩ ⟨s', none⟩ later ∧
    tx.ttl = 2 ∧ s'.now = 2500 ∧
    (later.filter (·.number == s.keepAlive.nextId)).map (·.time) = [1000, 2000] := by
  let script : Script := [{
    method := some "POST"
    replies := [(0, .ofExcept (Transaction.created "http://[::1]/tx/1" 2))] }]
  let tx : Transaction := ⟨"http://[::1]:80/nifi-api", "http://[::1]/tx/1", "in", 2, none⟩
  let t₀ := (connected script).tracker.getD (Tracker.ofSeeds [] (.ofSeconds 1800) (.start none none))
  let ended := (connected script).converse Script.responder
    (t₀.operate (.openTransaction "in") (connected script).clock)
  let s' := (ended.1.conclude ended.2.1 (.ok (.opened tx))).1.wait Script.responder 2500
  let later := (ended.1.conclude ended.2.1 (.ok (.opened tx))).1.startsUntil Script.responder 2500
  obtain ⟨saved, hconnect⟩ := exists_connect_eq_connected script
  have htracker : (connected script).tracker = some t₀ := by
    have hsome : (connected script).tracker.isSome := by decide +kernel
    obtain ⟨t, ht⟩ := Option.isSome_iff_exists.1 hsome
    simp only [t₀, ht, Option.getD_some]
  obtain ⟨hresult, hnow, hnext, hstarts, hopen, hlimit, hheld⟩ :
      ended.2.2.toOption = some (.opened tx) ∧ ended.1.now = 0 ∧ ended.1.keepAlive.nextId = 0 ∧
      later.map (fun x => (x.number, x.length)) = [(0, some 0), (0, some 0)] ∧
      s'.keepAlive.isShutDown = false ∧ s'.now = 2500 ∧
      some (tx, (⟨0, true⟩ : Ticket)) ∈ s'.transactions := by
    decide +kernel
  have hended : ended = (ended.1, ended.2.1, .ok (.opened tx)) :=
    Prod.ext rfl (Prod.ext rfl (eq_ok_of_toOption hresult))
  have hfits : 2500 + Transaction.extensionInterval tx.ttl ≤ KeepAlive.lastInstant := by decide
  obtain ⟨⟨earlier, hopened⟩, hunfolds⟩ := unfolds_opening (isServed_connect hconnect 2500).1
    htracker hended (by rw [hnow]; decide) hfits
  have hlater : Unfolds Script.responder ⟨(ended.1.conclude ended.2.1 (.ok (.opened tx))).1, none⟩
      ⟨s', none⟩ later := hunfolds
  have hrequest : (Request.toUrl "PUT" tx.url (Transaction.headers tx.authorization)
      .empty).toOption.isSome := by
    decide +kernel
  obtain ⟨request, hrequest⟩ := Option.isSome_iff_exists.1 hrequest
  have hquick : ∀ x ∈ later.filter (·.number == ended.1.keepAlive.nextId),
      ∃ ms, x.length = some ms ∧ ms < tx.ttl.toNat * 500 := by
    intro x hx
    have hmem := List.mem_map_of_mem (f := fun x => (x.number, x.length)) (List.mem_filter.1 hx).1
    rw [hstarts] at hmem
    simp only [List.mem_cons, Prod.mk.injEq, List.not_mem_nil, or_false, or_self] at hmem
    exact ⟨0, hmem.2, by decide⟩
  -- the rest is about any session that is like this
  clear hunfolds
  clear_value ended s' later
  obtain ⟨-, htimes, -⟩ := open_transactions_are_extended hconnect hopened
    (by rw [hnow]; decide) hlater hopen ⟨⟨0, true⟩, hheld, hnext.symm⟩ (eq_ok_of_toOption hrequest)
  obtain ⟨htimes, -⟩ := htimes (by decide) hquick
  refine ⟨script, saved, connected script, ended.1, s', ended.2.1, tx, earlier, later, hconnect,
    hopened, hlater, rfl, hlimit, ?_⟩
  rw [htimes, hnow, hlimit]
  decide

end Session

end FlowPeers
