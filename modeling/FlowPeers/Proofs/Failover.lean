import FlowPeers.Proofs.Ranking
import FlowPeers.Proofs.Visit
import FlowPeers.Session.Operation

/-!
# Failover

An errand is an operation that is done with one peer of the cluster: finding a port or opening a
transaction. It visits the peers in their order until one visit succeeds
(`Tracker.runs_tryFrom_iff`), after a refresh if the list of peers is too old
(`Errand.operate_eq_failover`). `Errand.IsFailover` says all of how this goes: which requests are
sent, what the result is, and what becomes of the tracker; and it says it of nothing else
(`Errand.isFailover_afterTrying`, `Errand.eq_afterTrying_of_isFailover`).
-/

namespace FlowPeers

open Dialogue

variable {α β : Type}

/-! ## Marking the first peers of a list -/

/-- Peers of which the first ones are marked as failed. -/
def markFirst (count : Nat) (peers : List Peer) : List Peer :=
  (peers.take count).map Peer.markFailed ++ peers.drop count

@[simp] theorem markFirst_zero (peers : List Peer) : markFirst 0 peers = peers := rfl

@[simp] theorem markFirst_nil (count : Nat) : markFirst count [] = [] := by
  simp [markFirst]

@[simp] theorem markFirst_cons (count : Nat) (peer : Peer) (rest : List Peer) :
    markFirst (count + 1) (peer :: rest) = peer.markFailed :: markFirst count rest := rfl

/-- Marking peers changes nothing about them but their health. -/
theorem map_markFirst {f : Peer → β} (hf : ∀ peer : Peer, f peer.markFailed = f peer) (count : Nat)
    (peers : List Peer) : (markFirst count peers).map f = peers.map f := by
  induction peers generalizing count with
  | nil => simp
  | cons peer rest ih =>
    cases count with
    | zero => rfl
    | succ count => simp [hf, ih]

/-- If no two peers have the same address, those marked are those of the first addresses. -/
theorem exists_of_mem_markFirst {count : Nat} {peers : List Peer} {peer : Peer}
    (hnodup : (peers.map (·.url)).Nodup) (h : peer ∈ markFirst count peers) :
    ∃ old ∈ peers, peer =
      if old.url ∈ (peers.map (·.url)).take count then old.markFailed else old := by
  induction peers generalizing count with
  | nil => simp at h
  | cons first rest ih =>
    cases count with
    | zero => exact ⟨peer, h, by simp⟩
    | succ count =>
      obtain ⟨hfirst, hrest⟩ := List.nodup_cons.1 hnodup
      rw [markFirst_cons] at h
      rcases List.mem_cons.1 h with rfl | h
      · exact ⟨first, List.mem_cons_self .., by simp⟩
      · obtain ⟨old, hold, hpeer⟩ := ih hrest h
        have hne : old.url ≠ first.url := by
          intro heq
          exact hfirst (List.mem_map.2 ⟨old, hold, heq⟩)
        exact ⟨old, List.mem_cons_of_mem _ hold, by simpa [hne] using hpeer⟩

theorem PeerStatus.markFailed_append {status : PeerStatus} {earlier rest : List Peer} {peer : Peer}
    (h : status.peers = earlier ++ peer :: rest) :
    (status.markFailed earlier.length).peers = (earlier ++ [peer.markFailed]) ++ rest := by
  rw [PeerStatus.markFailed, h, List.append_assoc, List.singleton_append]
  clear h
  induction earlier with
  | nil => rfl
  | cons first earlier ih => simpa using ih

namespace Tracker

/-! ## Trying an action on the peers -/

/-- The tracker after an action was tried in some visits: those in vain are marked, and if there
are any the ranking is renewed. -/
def afterTrying (t : Tracker) (visits : List (Visit α)) : Tracker :=
  { t with
    logins := Visit.finalLogins t.logins visits
    status :=
      if Visit.failures visits = 0 then t.status
      else { t.status with
        peers := PeerStatus.rank (markFirst (Visit.failures visits) t.status.peers) } }

/-- Trying an action on the last peers of a tracker, after all of the earlier ones have failed. -/
theorem runs_tryFrom_append {action : Action α} {t t' : Tracker} {earlier peers : List Peer}
    {place : Nat} {failure : Option Failure} {log : List Exchanged} {result : Except Failure α}
    (hpeers : t.status.peers = earlier ++ peers) (hplace : earlier.length = place)
    (hearlier : failure = none → earlier = []) :
    (tryFrom action t place failure peers).Runs log (t', result) ↔
      ∃ visits, Visits action t.logins (peers.map (·.url)) visits ∧
        log = Visit.transcript visits ∧ result = Visit.outcome (failure.getD .noPeers) visits ∧
        t' = { t with
          logins := Visit.finalLogins t.logins visits
          status :=
            if failure = none ∧ Visit.failures visits = 0 then t.status
            else { t.status with
              peers := PeerStatus.rank (earlier ++ markFirst (Visit.failures visits) peers) } } := by
  induction peers generalizing t earlier place failure log with
  | nil =>
    have hsort : (if failure = none then t.status
        else { t.status with peers := PeerStatus.rank earlier }) = t.status.sort := by
      rw [PeerStatus.sort, hpeers, List.append_nil]
      split
      · next hnone =>
        rw [hearlier hnone, List.nil_append] at hpeers
        rw [hearlier hnone]
        exact congrArg (PeerStatus.mk · t.status.lastUpdate) hpeers
      · rfl
    rw [tryFrom, runs_done_iff]
    constructor
    · rintro ⟨rfl, heq⟩
      cases heq
      refine ⟨[], .none _, rfl, rfl, ?_⟩
      simp [← hsort]
    · rintro ⟨visits, hvisits, rfl, rfl, rfl⟩
      cases hvisits
      simp [← hsort]
  | cons peer rest ih =>
    have hmark := PeerStatus.markFailed_append hpeers
    rw [hplace] at hmark
    have hnextPlace : (earlier ++ [peer.markFailed]).length = place + 1 := by
      rw [List.length_append, hplace, List.length_singleton]
    rw [tryFrom, Visit.runs_andThen_iff]
    constructor
    · rintro ⟨v, later, hv, hbefore, hurl, hnext, rfl⟩
      cases hresult : v.result with
      | ok value =>
        have hfailed : v.hasFailed = false := Visit.hasFailed_eq_false_iff.2 ⟨value, hresult⟩
        simp only [hresult] at hnext
        obtain ⟨rfl, heq⟩ := runs_done_iff.1 hnext
        cases heq
        refine ⟨[v], .success hv hbefore hurl hfailed, by simp, by simp [hresult], ?_⟩
        cases failure <;>
          simp [Visit.failures_cons, hfailed, Visit.finalLogins_cons, PeerStatus.sort, hpeers]
      | error failure' =>
        have hfailed : v.hasFailed := Visit.hasFailed_iff.2 ⟨failure', hresult⟩
        simp only [hresult] at hnext
        obtain ⟨visits, hvisits, rfl, rfl, rfl⟩ := (ih hmark hnextPlace (by simp)).1 hnext
        refine ⟨v :: visits, .failure hv hbefore hurl hfailed hvisits, rfl, ?_, ?_⟩
        · rw [Visit.outcome_cons visits hresult, Option.getD_some]
        · simp [Visit.failures_cons, hfailed, Visit.finalLogins_cons, PeerStatus.markFailed]
    · rintro ⟨visits, hvisits, rfl, rfl, rfl⟩
      cases hvisits with
      | @success _ _ _ v hv hbefore hurl hfailed =>
        obtain ⟨value, hresult⟩ := Visit.hasFailed_eq_false_iff.1 hfailed
        refine ⟨v, [], hv, hbefore, hurl, ?_, by simp⟩
        simp only [hresult, runs_done_iff, Visit.outcome_singleton, true_and, Prod.mk.injEq,
          and_true]
        cases failure <;>
          simp [Visit.failures_cons, hfailed, Visit.finalLogins_cons, PeerStatus.sort, hpeers]
      | @failure _ _ _ v visits hv hbefore hurl hfailed hvisits =>
        obtain ⟨failure', hresult⟩ := Visit.hasFailed_iff.1 hfailed
        refine ⟨v, Visit.transcript visits, hv, hbefore, hurl, ?_, rfl⟩
        simp only [hresult]
        refine (ih hmark hnextPlace (by simp)).2 ⟨visits, hvisits, rfl, ?_, ?_⟩
        · rw [Visit.outcome_cons visits hresult, Option.getD_some]
        · simp [Visit.failures_cons, hfailed, Visit.finalLogins_cons, PeerStatus.markFailed]

/-- Trying an action on the peers of a tracker is visiting them in order until a visit succeeds. -/
theorem runs_tryFrom_iff {action : Action α} {t t' : Tracker} {log : List Exchanged}
    {result : Except Failure α} :
    (tryFrom action t 0 none t.status.peers).Runs log (t', result) ↔
      ∃ visits, Visits action t.logins t.status.urls visits ∧ log = Visit.transcript visits ∧
        result = Visit.outcome .noPeers visits ∧ t' = t.afterTrying visits := by
  rw [runs_tryFrom_append (List.nil_append _).symm List.length_nil fun _ => rfl]
  simp [PeerStatus.urls, afterTrying]

/-- What becomes of the value of an action becomes of the value of trying it. -/
theorem tryFrom_map (f : α → β) (action : Action α) (t : Tracker) (place : Nat)
    (failure : Option Failure) (peers : List Peer) :
    tryFrom (fun url logins => Dialogue.map (Except.map f) (action url logins)) t place failure
        peers =
      Dialogue.map (fun (t, result) => (t, result.map f)) (tryFrom action t place failure peers) := by
  induction peers generalizing t place failure with
  | nil => rfl
  | cons peer rest ih =>
    rw [tryFrom, tryFrom, Logins.visit_map _ (fun _ => rfl), andThen_map, map_andThen]
    congr 1
    funext ⟨logins, result⟩
    cases result with
    | ok value => rfl
    | error failure' => exact ih ..

theorem failover_map (f : α → β) (action : Action α) (now : UInt64) (t : Tracker) :
    failover (fun url logins => Dialogue.map (Except.map f) (action url logins)) now t =
      Dialogue.map (fun (t, result) => (t, result.map f)) (failover action now t) := by
  rw [failover, failover, map_andThen]
  congr 1
  funext ⟨t, result⟩
  cases result with
  | error failure => rfl
  | ok _ => exact tryFrom_map f action t 0 none t.status.peers

theorem runs_failover_iff {action : Action α} {now : UInt64} {t t' : Tracker}
    {log : List Exchanged} {result : Except Failure α} :
    (failover action now t).Runs log (t', result) ↔
      (∃ failure, (refreshIfStale now t).Runs log (t', .error failure) ∧
        result = .error failure) ∨
      ∃ t₁ log₁ visits, (refreshIfStale now t).Runs log₁ (t₁, .ok ()) ∧
        Visits action t₁.logins t₁.status.urls visits ∧
        log = log₁ ++ Visit.transcript visits ∧ result = Visit.outcome .noPeers visits ∧
        t' = t₁.afterTrying visits := by
  rw [failover, runs_andThen_iff]
  constructor
  · rintro ⟨log₁, ⟨t₁, outcome⟩, log₂, h₁, h₂, rfl⟩
    cases outcome with
    | error failure =>
      obtain ⟨rfl, heq⟩ := runs_done_iff.1 h₂
      cases heq
      exact .inl ⟨failure, by rwa [List.append_nil], rfl⟩
    | ok _ =>
      obtain ⟨visits, hvisits, rfl, rfl, rfl⟩ := runs_tryFrom_iff.1 h₂
      exact .inr ⟨t₁, log₁, visits, h₁, hvisits, rfl, rfl, rfl⟩
  · rintro (⟨failure, h, rfl⟩ | ⟨t₁, log₁, visits, h₁, hvisits, rfl, rfl, rfl⟩)
    · exact ⟨log, (t', .error failure), [], h, .done _, (List.append_nil log).symm⟩
    · exact ⟨log₁, (t₁, .ok ()), _, h₁, runs_tryFrom_iff.2 ⟨visits, hvisits, rfl, rfl, rfl⟩, rfl⟩

end Tracker

/-! ## Errands -/

/-- An operation that is done with one peer of the cluster. -/
inductive Errand where
  /-- Finding the identifier of a port. -/
  | resolvePort (name : String)
  /-- Opening a transaction for a port. -/
  | openTransaction (port : String)
  deriving DecidableEq, Repr

namespace Errand

/-- The operation that an errand is. -/
def operation : Errand → Operation
  | resolvePort name => .resolvePort name
  | openTransaction port => .openTransaction port

/-- What an errand does with a peer. -/
def action : Errand → Tracker.Action Answer
  | resolvePort name => fun url logins =>
    Dialogue.map (Except.map Answer.identifier) (Tracker.resolvePort name url logins)
  | openTransaction port => fun url logins =>
    Dialogue.map (Except.map Answer.opened) (Tracker.openTransaction port url logins)

theorem operate_eq_failover (errand : Errand) (now : UInt64) (t : Tracker) :
    t.operate errand.operation now = t.failover errand.action now := by
  cases errand with
  | resolvePort name => exact (Tracker.failover_map Answer.identifier _ now t).symm
  | openTransaction port => exact (Tracker.failover_map Answer.opened _ now t).symm

/-- Whether a request is the one by which an errand is done with the peer of an address. -/
def IsRequest (url : String) (logins : Logins) (request : Request) : Errand → Prop
  | resolvePort _ =>
    Request.toUrl "GET" (url ++ Tracker.portsPath) (logins.headers url) .empty = .ok request
  | openTransaction port => ∃ place, Transaction.openUrl url port = .ok place ∧
    Request.toUrl "POST" (String.ofList place.print)
      (Transaction.headers (logins.authorization? url)) .empty = .ok request

theorem action_resolvePort_eq_ask (name url : String) (logins : Logins) :
    (resolvePort name).action url logins =
      Exchange.ask (Request.toUrl "GET" (url ++ Tracker.portsPath) (logins.headers url) .empty)
        fun response => (Tracker.found (url ++ Tracker.portsPath) name response).map .identifier := by
  rw [action]
  dsimp only
  rw [Tracker.resolvePort_eq_ask, Exchange.map_ask]

theorem action_openTransaction_eq_ask {port url : String} {place : Url}
    (hplace : Transaction.openUrl url port = .ok place) (logins : Logins) :
    (openTransaction port).action url logins =
      Exchange.ask (Request.toUrl "POST" (String.ofList place.print)
          (Transaction.headers (logins.authorization? url)) .empty)
        fun response =>
          (Transaction.answer url port (logins.authorization? url) place response).map .opened := by
  rw [action]
  dsimp only
  rw [Tracker.openTransaction, Transaction.create_eq_ask hplace, Exchange.map_ask]

theorem action_openTransaction_eq_fail {port url : String} {failure : Failure}
    (hfail : Transaction.openUrl url port = .error failure) (logins : Logins) :
    (openTransaction port).action url logins = .fail failure := by
  rw [action]
  dsimp only
  rw [Tracker.openTransaction, Transaction.create, hfail]
  rfl

/-- What an errand does with a peer takes its request, if it could be made, and no other one. -/
theorem sendsJust_of_runs_action {errand : Errand} {url : String} {logins : Logins}
    {log : List Exchanged} {result : Except Failure Answer}
    (h : (errand.action url logins).Runs log result) :
    SendsJust (fun request => errand.IsRequest url logins request) log := by
  cases errand with
  | resolvePort name =>
    rw [action_resolvePort_eq_ask] at h
    exact Exchange.sendsJust_of_runs_ask h
  | openTransaction port =>
    cases hplace : Transaction.openUrl url port with
    | error failure =>
      rw [action_openTransaction_eq_fail hplace] at h
      obtain ⟨rfl, -⟩ := runs_done_iff.1 h
      exact .nil fun request => by simp [IsRequest, hplace]
    | ok place =>
      rw [action_openTransaction_eq_ask hplace] at h
      simpa [IsRequest, hplace] using Exchange.sendsJust_of_runs_ask h

/-- Whether a visit sends what an errand takes and nothing else: one request for a token, if somebody
can log in and no token is kept for the peer, and then, if there is a login or none is needed, one
request for the errand. Neither is sent if it cannot be made. -/
def IsOrderly (errand : Errand) (v : Visit Answer) : Prop :=
  v.Sends fun logins request => errand.IsRequest v.url logins request

theorem isOrderly_of_isOf {errand : Errand} {v : Visit Answer} (h : v.IsOf errand.action) :
    errand.IsOrderly v :=
  h.sends fun _ _ => sendsJust_of_runs_action

/-- How an errand goes with a tracker that needs no refresh: `count` visits are in vain. -/
structure IsFailover (errand : Errand) (t : Tracker) (count : Nat) (visits : List (Visit Answer))
    (t' : Tracker) (result : Except Failure Answer) : Prop where
  /-- Each visit begins with the logins that the one before has left. -/
  visited : Visits errand.action t.logins t.status.urls visits
  urls : visits.map (·.url) = t.status.urls.take visits.length
  orderly : ∀ v ∈ visits, errand.IsOrderly v
  failed : ∀ v ∈ visits.take count, v.hasFailed
  /-- After the visits in vain there is one that succeeds, or no peer is left. -/
  ending :
    (∃ v value, visits.drop count = [v] ∧ v.result = .ok value ∧ result = .ok value) ∨
    (visits.length = count ∧ count = t.status.peers.length ∧
      result = Visit.outcome .noPeers visits)
  untouched : count = 0 → t'.status = t.status
  marked : 0 < count → IsRankingOf t'.status.peers (markFirst count t.status.peers)
  lastUpdate : t'.status.lastUpdate = t.status.lastUpdate
  records : (t'.status.peers.map fun peer => (peer.url, peer.flowFiles)).Perm
    (t.status.peers.map fun peer => (peer.url, peer.flowFiles))
  logins : t'.logins = Visit.finalLogins t.logins visits
  keeps : t.logins.Keeps t'.logins
  seeds : t'.seeds = t.seeds
  interval : t'.interval = t.interval
  saved : t'.saved = t.saved

theorem take_drop_failures {action : Tracker.Action Answer} {logins : Logins} {urls : List String}
    {visits : List (Visit Answer)} (h : Visits action logins urls visits) :
    (∀ v ∈ visits.take (Visit.failures visits), v.hasFailed) ∧
      ((∃ v value, visits.drop (Visit.failures visits) = [v] ∧ v.result = .ok value ∧
          Visit.outcome .noPeers visits = .ok value) ∨
        (visits.length = Visit.failures visits ∧ Visit.failures visits = urls.length)) := by
  rcases h.eq_failures_append with ⟨hcount, hlength, hall⟩ | ⟨before, v, rfl, hcount, hall, hv⟩
  · exact ⟨fun v hv => hall v (List.mem_of_mem_take hv), .inr ⟨hcount, hcount ▸ hlength⟩⟩
  · obtain ⟨value, hvalue⟩ := Visit.hasFailed_eq_false_iff.1 hv
    rw [← hcount, List.take_left, List.drop_left]
    exact ⟨hall, .inl ⟨v, value, rfl, hvalue, by simp [Visit.outcome, hvalue]⟩⟩

theorem isFailover_afterTrying {errand : Errand} {t : Tracker} {visits : List (Visit Answer)}
    (h : Visits errand.action t.logins t.status.urls visits) :
    errand.IsFailover t (Visit.failures visits) visits (t.afterTrying visits)
      (Visit.outcome .noPeers visits) := by
  obtain ⟨hfailed, hending⟩ := take_drop_failures h
  have hmarked : 0 < Visit.failures visits → IsRankingOf (t.afterTrying visits).status.peers
      (markFirst (Visit.failures visits) t.status.peers) := by
    intro hpos
    rw [Tracker.afterTrying, if_neg (by omega)]
    exact isRankingOf_rank _
  refine
    { visited := h
      urls := h.urls_eq_take
      orderly := fun v hv => isOrderly_of_isOf (h.isOf v hv)
      failed := hfailed
      ending := ?_
      untouched := fun hzero => by rw [Tracker.afterTrying, if_pos hzero]
      marked := hmarked
      lastUpdate := ?_
      records := ?_
      logins := rfl
      keeps := h.keeps
      seeds := rfl
      interval := rfl
      saved := rfl }
  · rcases hending with hsuccess | ⟨hcount, hlength⟩
    · exact .inl hsuccess
    · exact .inr ⟨hcount, by rw [hlength, PeerStatus.urls, List.length_map], rfl⟩
  · rw [Tracker.afterTrying]
    split
    · rfl
    · rfl
  · rcases Nat.eq_zero_or_pos (Visit.failures visits) with hzero | hpos
    · rw [Tracker.afterTrying, if_pos hzero]
    · refine ((hmarked hpos).perm.map _).trans ?_
      rw [map_markFirst fun _ => rfl]

theorem eq_afterTrying_of_isFailover {errand : Errand} {t t' : Tracker} {count : Nat}
    {visits : List (Visit Answer)} {result : Except Failure Answer}
    (h : errand.IsFailover t count visits t' result) :
    result = Visit.outcome .noPeers visits ∧ t' = t.afterTrying visits := by
  -- the number of visits in vain is the given one
  have hcount : Visit.failures visits = count := by
    have hsplit : Visit.failures visits =
        Visit.failures (visits.take count) + Visit.failures (visits.drop count) := by
      rw [Visit.failures, Visit.failures, Visit.failures, ← List.countP_append,
        List.take_append_drop]
    have htake : Visit.failures (visits.take count) = (visits.take count).length :=
      List.countP_eq_length.2 h.failed
    rcases h.ending with ⟨v, value, hdrop, hvalue, -⟩ | ⟨hlength, -, -⟩
    · have hv : v.hasFailed = false := Visit.hasFailed_eq_false_iff.2 ⟨value, hvalue⟩
      have hlength := congrArg List.length hdrop
      rw [List.length_drop, List.length_singleton] at hlength
      rw [hsplit, htake, hdrop, Visit.failures_cons, hv, List.length_take]
      simp
      omega
    · rw [hsplit, htake, List.drop_of_length_le (by omega), List.take_of_length_le (by omega)]
      simpa using hlength
  subst hcount
  have hresult : result = Visit.outcome .noPeers visits := by
    rcases h.ending with ⟨v, value, hdrop, hvalue, rfl⟩ | ⟨-, -, hresult⟩
    · rw [← List.take_append_drop (Visit.failures visits) visits, hdrop]
      simp [Visit.outcome, hvalue]
    · exact hresult
  refine ⟨hresult, ?_⟩
  have hstatus : t'.status = (t.afterTrying visits).status := by
    have hlast := h.lastUpdate
    rw [Tracker.afterTrying]
    split
    · next hzero => exact h.untouched hzero
    · next hpos =>
      have hpeers := isRankingOf_iff.1 (h.marked (Nat.pos_of_ne_zero hpos))
      cases hs : t'.status with
      | mk peers lastUpdate =>
        rw [hs] at hpeers hlast
        simp only at hpeers hlast
        rw [hpeers, hlast]
  cases t'
  simp only [Tracker.afterTrying, Tracker.mk.injEq]
  exact ⟨h.seeds, h.interval, h.logins, hstatus, h.saved⟩

/-- **Errands fail over in order.** Whatever the network does, an errand comes to one end. If the
list of peers is too old and cannot be refreshed, it ends with the failure to do so. Otherwise the
peers are visited in their order, one after the other, until a visit succeeds: its value is the
result, and without it the last failure is. The peers visited in vain are marked as failed, after
which the list is ranked anew; nothing else changes but the tokens that were gained. -/
theorem fails_over_in_order (errand : Errand) (now : UInt64) (t : Tracker) :
    (∀ opener : Opener, ∃ log outcome, (t.operate errand.operation now).Runs log outcome ∧
      opener.Gives log ∧ ∀ log' outcome', (t.operate errand.operation now).Runs log' outcome' →
        opener.Gives log' → log' = log ∧ outcome' = outcome) ∧
    ∀ log t' result, (t.operate errand.operation now).Runs log (t', result) ↔
      (∃ failure, (t.refreshIfStale now).Runs log (t', .error failure) ∧
        result = .error failure) ∨
      ∃ t₁ log₁ count visits, (t.refreshIfStale now).Runs log₁ (t₁, .ok ()) ∧
        log = log₁ ++ Visit.transcript visits ∧
        errand.IsFailover t₁ count visits t' result := by
  constructor
  · intro opener
    obtain ⟨log, result, hrun, hgives⟩ := exists_runs opener (t.operate errand.operation now)
    exact ⟨log, result, hrun, hgives, fun log' result' hrun' hgives' =>
      hrun'.eq_of_gives hrun hgives' hgives⟩
  · intro log t' result
    rw [operate_eq_failover, Tracker.runs_failover_iff]
    constructor
    · rintro (hstale | ⟨t₁, log₁, visits, h₁, hvisits, rfl, rfl, rfl⟩)
      · exact .inl hstale
      · exact .inr ⟨t₁, log₁, _, visits, h₁, rfl, isFailover_afterTrying hvisits⟩
    · rintro (hstale | ⟨t₁, log₁, count, visits, h₁, rfl, h⟩)
      · exact .inl hstale
      · obtain ⟨rfl, rfl⟩ := eq_afterTrying_of_isFailover h
        exact .inr ⟨t₁, log₁, visits, h₁, h.visited, rfl, rfl, rfl⟩

end Errand

end FlowPeers
