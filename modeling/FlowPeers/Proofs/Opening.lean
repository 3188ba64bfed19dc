import FlowPeers.Network.Script
import FlowPeers.Proofs.Reachability
import FlowPeers.Proofs.Sparing

/-!
# What an opened transaction is to the others

An operation that opens a transaction gives the scheduler of its session one more job, whose
interval is half of what the peer has said (`Session.conclude_opened`). The transactions that were
open before and whatever is scheduled later are spared as long as the clock can tell the ticks of
that job, and no longer: a peer that names a time which is beyond the end of the clock stops the
scheduler, and nothing is extended any more.
-/

namespace FlowPeers

variable {σ : Type}

/-- What a script says with a response, if it can be made. -/
def ScriptedReply.ofExcept : Except RequestError Response → ScriptedReply
  | .ok answer => .response answer
  | .error cause => .malformed cause

namespace Session

/-- A transaction that is opened is kept, and its extension is scheduled. -/
theorem conclude_opened {s s' : Session σ} {t : Tracker} {result : Except Failure Answer}
    {tx : Transaction} (h : s.conclude t result = (s', .answer (.opened tx))) :
    s' = { s with tracker := some t }.keep tx := by
  rcases result with failure | answer
  · cases h
  · cases answer with
    | done => cases h
    | identifier id => cases h
    | opened tx' =>
      cases h
      rfl

/-- **When an opened transaction spares the others.** When an operation has opened a transaction,
its job is another one than those of the transactions that were open before. The scheduler is then
as the one before that was given the job; and this job spares the others until an instant up to
which the scheduler would run without it if and only if the clock can tell its first tick after
that instant. -/
theorem opening_spares_others_iff {net : Responder σ} {s s' : Session σ} {t : Tracker}
    {result : Except Failure Answer} {tx : Transaction} (hs : Reachable net s)
    (hopened : s.conclude t result = (s', .answer (.opened tx))) :
    (∃ ticket, s'.transactions = s.transactions ++ [some (tx, ticket)] ∧
      ticket.id = s.keepAlive.nextId ∧
      ∀ tx' ticket', some (tx', ticket') ∈ s.transactions → ticket'.id ≠ ticket.id) ∧
    s.keepAlive.joined s.now (Transaction.extensionInterval tx.ttl) =
      ⟨s'.now, s'.keepAlive.label, []⟩ ∧
    ∀ lengths limit, s.now ≤ limit →
      ((s.keepAlive.spared s.now).take lengths (.pass (limit - s.now))).IsRunning →
      (s.keepAlive.Spares s.now (Transaction.extensionInterval tx.ttl) limit ↔
        KeepAlive.tickAfter s.now (Transaction.extensionInterval tx.ttl) limit ≤
          KeepAlive.lastInstant) := by
  have hsound := hs.isSound
  rw [conclude_opened hopened]
  refine ⟨⟨(s.keepAlive.schedule (Transaction.extensionInterval tx.ttl) (.extend tx)).2, rfl,
    KeepAlive.schedule_ticket_id .., ?_⟩, ?_, ?_⟩
  · intro tx' ticket' hmem
    rw [KeepAlive.schedule_ticket_id]
    exact Nat.ne_of_lt (hsound.tickets tx' ticket' hmem)
  · rw [keep, KeepAlive.label_schedule]
    rfl
  · intro lengths limit hlimit hrunning
    exact KeepAlive.spares_iff hsound.keepAlive hlimit hrunning

/-- A session that was connected with one peer saved, which answers by a script. -/
def connected (script : Script) : Session Script :=
  let peer : Peer := { url := "http://[::1]:80/nifi-api", flowFiles := 0 }
  ((start 0 script (some ⟨[peer], 0⟩)).connect Script.responder ["http://[::1]:80"]
    (.ofSeconds 1800) (.start none none)).1

theorem exists_connect_eq_connected (script : Script) :
    ∃ saved, (start 0 script saved).connect Script.responder ["http://[::1]:80"]
      (.ofSeconds 1800) (.start none none) = (connected script, .ok ()) := by
  have hseeds : (Tracker.readSeeds [] ["http://[::1]:80"]).toOption =
      some ["http://[::1]:80/nifi-api"] := by
    decide +kernel
  cases hread : Tracker.readSeeds [] ["http://[::1]:80"] with
  | error failure =>
    rw [hread] at hseeds
    cases hseeds
  | ok seeds =>
    refine ⟨_, Prod.ext rfl ?_⟩
    simp [connect_eq, saved, start, Tracker.connect, Tracker.connectTo, hread, Exchange.pure,
      converse]

/-- A peer that opens a transaction for ten seconds, then one for thirty, and extends both. -/
def twoTransactions : Script := [
  { method := some "POST"
    replies := [(0, .ofExcept (Transaction.created "http://[::1]/tx/1" 10)),
      (0, .ofExcept (Transaction.created "http://[::1]/tx/2" 30))] },
  { method := some "PUT", replies := [(0, .response ⟨.ok, [], .empty⟩)] }]

/-- The first of the two transactions. -/
def firstOpened : Transaction :=
  ⟨"http://[::1]:80/nifi-api", "http://[::1]/tx/1", "in", 10, none⟩

/-- The second of the two transactions. -/
def secondOpened : Transaction :=
  ⟨"http://[::1]:80/nifi-api", "http://[::1]/tx/2", "in", 30, none⟩

/-- The tracker of a session with that peer. -/
def trackerOfTwo : Tracker :=
  let status : PeerStatus := ⟨[{ url := "http://[::1]:80/nifi-api", flowFiles := 0 }], 0⟩
  ⟨["http://[::1]:80/nifi-api"], .ofSeconds 1800, .start none none, status, some status⟩

/-- The session six seconds after the first of the two transactions was opened. -/
def betweenOpenings : Session Script :=
  ((connected twoTransactions).follow Script.responder
    [.one (.operate (.openTransaction "in")), .one (.sleep 6000)]).1

theorem reachable_betweenOpenings : Reachable Script.responder betweenOpenings := by
  obtain ⟨_, hconnect⟩ := exists_connect_eq_connected twoTransactions
  exact (Reachable.connect hconnect).follow _

/-- The session when the peer has opened the second one, and what has come of that. -/
def atSecondOpening : Session Script × (Tracker × Except Failure Answer) :=
  betweenOpenings.converse Script.responder
    (trackerOfTwo.operate (.openTransaction "in") betweenOpenings.clock)

theorem atSecondOpening_spec :
    atSecondOpening.2 = (trackerOfTwo, .ok (.opened secondOpened)) ∧
    atSecondOpening.1.transactions = [some (firstOpened, ⟨0, true⟩)] ∧
    atSecondOpening.1.keepAlive.jobs.map (fun job => (job.task, job.next)) =
      [(.extend firstOpened, 10000)] ∧
    atSecondOpening.1.now = 6000 := by
  decide +kernel

/-- Six seconds after a transaction was opened another one is, while the first is open and has been
extended. For an hour the second one leaves it alone. -/
theorem opening_spares_others_for_an_hour : ∃ (before s s' : Session Script) (t t' : Tracker)
    (other tx : Transaction) (first second : Ticket),
    Reachable Script.responder before ∧ before.tracker? = some t ∧
    before.converse Script.responder (t.operate (.openTransaction "in") before.clock) =
      (s, t', .ok (.opened tx)) ∧
    s.conclude t' (.ok (.opened tx)) = (s', .answer (.opened tx)) ∧
    s'.transactions = [some (other, first), some (tx, second)] ∧ first.id ≠ second.id ∧
    other.ttl = 10 ∧ tx.ttl = 30 ∧
    s.keepAlive.jobs.map (fun job => (job.task, job.next)) = [(.extend other, 10000)] ∧
    s.keepAlive.Spares s.now (Transaction.extensionInterval tx.ttl) 3600000 := by
  obtain ⟨hended, hopen, hjobs, hnow⟩ := atSecondOpening_spec
  have htracker : betweenOpenings.tracker? = some trackerOfTwo := by decide +kernel
  have hrunning : ((atSecondOpening.1.keepAlive.spared 6000).take (fun _ _ => some 0)
      (.pass 3594000)).IsRunning :=
    ⟨by decide +kernel, by decide +kernel⟩
  have hs : Reachable Script.responder atSecondOpening.1 := reachable_betweenOpenings.converse _
  obtain ⟨⟨second, hkept, -, hothers⟩, -, hspares⟩ := opening_spares_others_iff hs
    (rfl : atSecondOpening.1.conclude trackerOfTwo (.ok (.opened secondOpened)) =
      (_, .answer (.opened secondOpened)))
  rw [hnow] at hspares
  refine ⟨betweenOpenings, atSecondOpening.1, _, trackerOfTwo, trackerOfTwo, firstOpened,
    secondOpened, ⟨0, true⟩, second, reachable_betweenOpenings, htracker, Prod.ext rfl hended, rfl,
    hkept.trans (by rw [hopen]; rfl), hothers firstOpened _ ?_, rfl, rfl, hjobs, ?_⟩
  · rw [hopen]
    exact List.mem_singleton_self _
  · rw [hnow]
    exact (hspares _ 3600000 (by decide) hrunning).2 (by decide)

/-- A session in which a transaction was opened, six seconds later another one, which the peer keeps
for some seconds, and six seconds later a probe: when the first one was extended, and what has come
of the probe. -/
def afterTwoOpenings (ttl : UInt64) : List Nat × Outcome :=
  let reply (url : String) (ttl : UInt64) : Nat × ScriptedReply :=
    (0, match Transaction.created url ttl with
      | .ok response => .response response
      | .error cause => .malformed cause)
  let script : Script := [{
    method := some "POST"
    replies := [reply "http://[::1]/tx/1" 10, reply "http://[::1]/tx/2" ttl] }]
  let open_ (s : Session Script) :=
    (s.execute Script.responder (.operate (.openTransaction "in"))).1
  let sleep (s : Session Script) := (s.execute Script.responder (.sleep 6000)).1
  let (s, outcome) :=
    (sleep (open_ (sleep (open_ (connected script))))).execute Script.responder .probe
  let extensions := s.report.2.filter fun sent =>
    sent.isExtension && sent.request.url == "http://[::1]/tx/1"
  (extensions.map (·.time), outcome)

/-- A peer that names the longest time stops the extensions of the other transaction, and what is
scheduled later is not accepted. -/
theorem longest_ttl_stops_the_others :
    afterTwoOpenings 10 = ([5000, 10000], .ticket ⟨2, true⟩) ∧
    afterTwoOpenings 18446744073709551615 = ([5000], .ticket ⟨2, false⟩) := by
  decide +kernel

end Session

end FlowPeers
