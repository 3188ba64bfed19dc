import FlowPeers.Proofs.Merge
import FlowPeers.Proofs.Tenures
import Mathlib.Data.List.Infix

/-!
# Refreshes are atomic

A peer that is asked for its list may give a usable answer (`Visit.Serves`): the login to it succeeds
or none is due, the list is answered with success, and the body of the answer is a list. A refresh
asks the peers in their order until one does; then its list is adopted and saved at once, and
otherwise nothing changes but the tokens that were gained. `Tracker.IsRefresh` says all of this, and
it says it of nothing else than the runs of a refresh (`Tracker.runs_refresh_iff_isRefresh`).

Every refresh is one of these: the operation of its own, the one inside an errand that finds the list
too old, and those that are done in a session, whose time is what the wall clock shows before
anything is sent (`Tracker.refreshes_are_atomic`).
-/

namespace FlowPeers

open Dialogue

/-! ## Usable answers -/

namespace Visit

/-- Whether a peer has given a usable answer in a visit: somebody has logged in to it, or need not,
and the request for the list was answered with success and a list of peers. -/
def Serves (v : Visit (List Peer)) (reported : List Peer) : Prop :=
  ∃ entry request response body, (v.before.login v.url).Runs entry (.ok v.after) ∧
    Request.toUrl "GET" (v.url ++ Tracker.peersPath) (v.after.headers v.url) .empty = .ok request ∧
    v.log = entry ++ [⟨request, .ok response⟩] ∧ response.status.isSuccess ∧
    response.body.read = .ok body ∧ PeerList.readPeers? body = some reported

variable {v : Visit (List Peer)} {reported : List Peer}

/-- A visit in which a peer gives a usable answer goes as the answer says. -/
theorem Serves.runs (h : v.Serves reported) :
    (v.before.visit v.url (Tracker.fetchPeers v.url)).Runs v.log (v.after, .ok reported) := by
  obtain ⟨entry, request, response, body, hlogin, hrequest, hlog, hanswer⟩ := h
  have hfetch : (Tracker.fetchPeers v.url v.after).Runs [⟨request, .ok response⟩] (.ok reported) :=
    Tracker.runs_fetchPeers_ok_iff.2 ⟨request, response, body, hrequest, rfl, hanswer⟩
  exact Logins.runs_visit_iff.2 (.inr ⟨entry, _, hlogin, hfetch, hlog⟩)

/-- A peer to which nobody can log in serves a list by answering with it. -/
theorem exists_serves {logins : Logins} (hcredentials : logins.credentials = none) {url : String}
    (hrequest : (Request.toUrl "GET" (url ++ Tracker.peersPath) (logins.headers url)
      .empty).toOption.isSome)
    {body : List UInt8} (hlist : PeerList.readPeers? body = some reported) :
    ∃ request, Serves ⟨url, logins, [⟨request, .ok ⟨.ok, [], .whole body⟩⟩], logins, .ok reported⟩
      reported := by
  obtain ⟨request, hrequest⟩ := Option.isSome_iff_exists.1 hrequest
  exact ⟨request, [], request, _, body,
    Logins.runs_login_iff.2 (.inl ⟨.inr hcredentials, rfl, rfl⟩), eq_ok_of_toOption hrequest, rfl,
    rfl, rfl, hlist⟩

/-- A visit succeeds with a list if and only if the peer has given a usable answer. -/
theorem IsOf.serves_iff (h : v.IsOf Tracker.fetchPeers) :
    v.Serves reported ↔ v.result = .ok reported := by
  constructor
  · intro hserves
    -- a visit goes in one way only
    exact congrArg Prod.snd (Runs.unique h hserves.runs)
  · intro hok
    rcases Logins.runs_visit_iff.1 h with ⟨_, _, _, hfail⟩ | ⟨entry, work, hlogin, hfetch, hlog⟩
    · rw [hok] at hfail
      contradiction
    · rw [hok] at hfetch
      obtain ⟨request, response, body, hrequest, rfl, hanswer⟩ :=
        Tracker.runs_fetchPeers_ok_iff.1 hfetch
      exact ⟨entry, request, response, body, hlogin, hrequest, hlog, hanswer⟩

theorem IsOf.hasFailed_iff_forall (h : v.IsOf Tracker.fetchPeers) :
    v.hasFailed = true ↔ ∀ reported, ¬ v.Serves reported := by
  simp only [h.serves_iff, hasFailed]
  cases v.result <;> simp

end Visit

namespace Tracker

/-! ## How a refresh goes -/

/-- How a refresh goes that begins at a time. -/
structure IsRefresh (now : UInt64) (t : Tracker) (visits : List (Visit (List Peer)))
    (t' : Tracker) (result : Except Failure Unit) : Prop where
  /-- Each visit begins with the logins that the one before has left. -/
  visited : Visits fetchPeers t.logins t.status.urls visits
  /-- The peers are visited in their order, and none after one that gives a usable answer. -/
  urls : visits.map (·.url) = t.status.urls.take visits.length
  /-- A peer is asked for a token if a login is due, and then, unless that fails, for its list. -/
  orderly : ∀ v ∈ visits, v.Sends (IsListRequest v.url)
  earlier : ∀ v ∈ visits.dropLast, ∀ reported, ¬ v.Serves reported
  /-- The list of the first usable answer is adopted and saved. Without any all peers were visited,
  nothing changes, and the failure with the last peer is the result. -/
  ending :
    (∃ v reported, visits.getLast? = some v ∧ v.Serves reported ∧ result = .ok () ∧
      t'.status = PeerStatus.ofPeers (merge t.status.peers reported t.seeds) now ∧
      t'.saved = some t'.status) ∨
    ((∀ v ∈ visits, ∀ reported, ¬ v.Serves reported) ∧
      visits.length = t.status.peers.length ∧ t'.status = t.status ∧ t'.saved = t.saved ∧
      ((t.status.peers = [] ∧ result = .error .noPeers) ∨
        ∃ v failure, visits.getLast? = some v ∧ v.result = .error failure ∧
          result = .error failure))
  /-- Nobody is marked as failed who was not before. -/
  health : ∀ peer ∈ t'.status.peers, peer.failed = true →
    ∃ old ∈ t.status.peers, old.url = peer.url ∧ old.failed = true
  logins : t'.logins = Visit.finalLogins t.logins visits
  keeps : t.logins.Keeps t'.logins
  seeds : t'.seeds = t.seeds
  interval : t'.interval = t.interval

/-- A peer that is marked as failed after a list was adopted was so before, as peers are reported
healthy. -/
theorem exists_failed_of_mem_adopt {t : Tracker} {reported : List Peer} {now : UInt64}
    (hreported : ∀ peer ∈ reported, peer.failed = false) {peer : Peer}
    (hpeer : peer ∈ (t.adopt reported now).status.peers) (hfailed : peer.failed = true) :
    ∃ old ∈ t.status.peers, old.url = peer.url ∧ old.failed = true := by
  have hget := (hasNoRepeats_adopt t reported now).get?_eq_some_iff.2 ⟨hpeer, rfl⟩
  rw [get?_adopt] at hget
  cases hknown : t.status.get? peer.url with
  | none =>
    simp only [hknown] at hget
    rw [hreported peer (List.mem_of_find?_eq_some hget)] at hfailed
    contradiction
  | some old =>
    simp only [hknown, renew?] at hget
    have hurl : old.url = peer.url := by simpa using List.find?_some hknown
    refine ⟨old, List.mem_of_find?_eq_some hknown, hurl, ?_⟩
    split at hget
    · cases hget
      exact hfailed
    · split at hget
      · cases hget
        exact hfailed
      · contradiction

/-- All visits but the last one are in vain, and the last one tells the outcome: it has succeeded, or
it is in vain too and no address is left. -/
theorem outcome_of_visits {logins : Logins} {urls : List String} {visits : List (Visit (List Peer))}
    (h : Visits fetchPeers logins urls visits) :
    (∀ v ∈ visits.dropLast, v.hasFailed) ∧
      ((∃ v reported, visits.getLast? = some v ∧ v.result = .ok reported ∧
          Visit.outcome .noPeers visits = .ok reported) ∨
        ((∀ v ∈ visits, v.hasFailed) ∧ visits.length = urls.length ∧
          ((urls = [] ∧ Visit.outcome .noPeers visits = .error .noPeers) ∨
            ∃ v failure, visits.getLast? = some v ∧ v.result = .error failure ∧
              Visit.outcome .noPeers visits = .error failure))) := by
  rcases h.eq_failures_append with ⟨-, hlength, hall⟩ | ⟨before, v, rfl, -, hall, hv⟩
  · refine ⟨fun v hv => hall v (List.mem_of_mem_dropLast hv), .inr ⟨hall, hlength, ?_⟩⟩
    rw [Visit.outcome]
    cases hlast : visits.getLast? with
    | none =>
      rw [List.getLast?_eq_none_iff.1 hlast] at hlength
      exact .inl ⟨List.length_eq_zero_iff.1 hlength.symm, rfl⟩
    | some v =>
      obtain ⟨failure, hfailure⟩ := Visit.hasFailed_iff.1 (hall v (List.mem_of_getLast? hlast))
      exact .inr ⟨v, failure, rfl, hfailure, hfailure⟩
  · obtain ⟨reported, hreported⟩ := Visit.hasFailed_eq_false_iff.1 hv
    rw [List.dropLast_concat, Visit.outcome, List.getLast?_concat]
    exact ⟨hall, .inl ⟨v, reported, rfl, hreported, hreported⟩⟩

theorem isRefresh_afterAsking {now : UInt64} {t : Tracker} {visits : List (Visit (List Peer))}
    (h : Visits fetchPeers t.logins t.status.urls visits) :
    IsRefresh now t visits (t.afterAsking now visits)
      ((Visit.outcome .noPeers visits).map fun _ => ()) := by
  have hserves : ∀ v ∈ visits, v.hasFailed → ∀ reported, ¬ v.Serves reported :=
    fun v hv => (h.isOf v hv).hasFailed_iff_forall.1
  have hlogins := t.afterAsking_logins now visits
  obtain ⟨hearlier, hending⟩ := outcome_of_visits h
  refine
    { visited := h
      urls := h.urls_eq_take
      orderly := fun v hv => (h.isOf v hv).sends fun _ _ => sendsJust_of_runs_fetchPeers
      earlier := fun v hv => hserves v (List.mem_of_mem_dropLast hv) (hearlier v hv)
      ending := ?_
      health := ?_
      logins := hlogins
      keeps := hlogins ▸ h.keeps
      seeds := t.afterAsking_seeds now visits
      interval := t.afterAsking_interval now visits }
  · rcases hending with ⟨v, reported, hlast, hresult, houtcome⟩ | ⟨hall, hlength, hfailure⟩
    · have hv := h.isOf v (List.mem_of_getLast? hlast)
      rw [afterAsking, houtcome]
      exact .inl ⟨v, reported, hlast, hv.serves_iff.2 hresult, rfl, rfl, rfl⟩
    · rw [PeerStatus.urls, List.length_map] at hlength
      refine .inr ⟨fun v hv => hserves v hv (hall v hv), hlength, ?_⟩
      rw [PeerStatus.urls, List.map_eq_nil_iff] at hfailure
      rcases hfailure with ⟨hnil, houtcome⟩ | ⟨v, failure, hlast, hresult, houtcome⟩
      · rw [afterAsking, houtcome]
        exact ⟨rfl, rfl, .inl ⟨hnil, rfl⟩⟩
      · rw [afterAsking, houtcome]
        exact ⟨rfl, rfl, .inr ⟨v, failure, hlast, hresult, rfl⟩⟩
  · intro peer hpeer hfailed
    rw [afterAsking] at hpeer
    split at hpeer
    · next reported houtcome =>
      refine exists_failed_of_mem_adopt ?_ hpeer hfailed
      rw [Visit.outcome] at houtcome
      split at houtcome
      · next v hlast =>
        obtain ⟨body, hbody⟩ :=
          readPeers?_of_isOf (h.isOf v (List.mem_of_getLast? hlast)) houtcome
        exact PeerList.healthy_readPeers? hbody
      · contradiction
    · exact ⟨peer, hpeer, rfl, hfailed⟩

/-- What is said of a refresh says all that comes of it. -/
theorem eq_afterAsking_of_isRefresh {now : UInt64} {t t' : Tracker}
    {visits : List (Visit (List Peer))} {result : Except Failure Unit}
    (h : IsRefresh now t visits t' result) :
    result = (Visit.outcome .noPeers visits).map (fun _ => ()) ∧ t' = t.afterAsking now visits := by
  obtain ⟨-, hending⟩ := outcome_of_visits h.visited
  have hlogins := h.logins
  have hseeds := h.seeds
  have hinterval := h.interval
  obtain ⟨seeds, interval, logins, status, saved⟩ := t'
  simp only at hlogins hseeds hinterval
  subst hlogins hseeds hinterval
  rcases h.ending with ⟨v, reported, hlast, hserves, rfl, hstatus, hsaved⟩ |
    ⟨hnone, -, hstatus, hsaved, hfailure⟩
  · have hv := h.visited.isOf v (List.mem_of_getLast? hlast)
    have houtcome : Visit.outcome .noPeers visits = .ok reported := by
      rw [Visit.outcome, hlast]
      exact hv.serves_iff.1 hserves
    simp only at hstatus hsaved
    subst hstatus hsaved
    rw [afterAsking, houtcome]
    exact ⟨rfl, rfl⟩
  · simp only at hstatus hsaved
    subst hstatus hsaved
    have houtcome : ∃ failure, Visit.outcome .noPeers visits = .error failure ∧
        result = .error failure := by
      rcases hfailure with ⟨hnil, rfl⟩ | ⟨v, failure, hlast, hresult, rfl⟩
      · have hurls := h.urls
        rw [PeerStatus.urls, hnil, List.map_nil, List.take_nil, List.map_eq_nil_iff] at hurls
        rw [hurls]
        exact ⟨.noPeers, rfl, rfl⟩
      · exact ⟨failure, by rw [Visit.outcome, hlast]; exact hresult, rfl⟩
    obtain ⟨failure, houtcome, rfl⟩ := houtcome
    rw [afterAsking, houtcome]
    exact ⟨rfl, rfl⟩

/-- A refresh runs as is said, and in no other way. -/
theorem runs_refresh_iff_isRefresh {now : UInt64} {t t' : Tracker} {log : List Exchanged}
    {result : Except Failure Unit} :
    (refresh now t).Runs log (t', result) ↔
      ∃ visits, log = Visit.transcript visits ∧ IsRefresh now t visits t' result := by
  rw [runs_refresh_iff]
  constructor
  · rintro ⟨visits, hvisits, rfl, rfl, rfl⟩
    exact ⟨visits, rfl, isRefresh_afterAsking hvisits⟩
  · rintro ⟨visits, rfl, h⟩
    obtain ⟨rfl, rfl⟩ := eq_afterAsking_of_isRefresh h
    exact ⟨visits, h.visited, rfl, rfl, rfl⟩

theorem runs_operate_refresh_iff {now : UInt64} {t t' : Tracker} {log : List Exchanged}
    {result : Except Failure Answer} :
    (t.operate .refresh now).Runs log (t', result) ↔
      ∃ visits outcome, log = Visit.transcript visits ∧
        result = Except.map (fun _ => Answer.done) outcome ∧
        IsRefresh now t visits t' outcome := by
  rw [operate, runs_map_iff]
  constructor
  · rintro ⟨⟨t₁, outcome⟩, hrun, heq⟩
    cases heq
    obtain ⟨visits, hlog, h⟩ := runs_refresh_iff_isRefresh.1 hrun
    exact ⟨visits, outcome, hlog, rfl, h⟩
  · rintro ⟨visits, outcome, hlog, rfl, h⟩
    exact ⟨(t', outcome), runs_refresh_iff_isRefresh.2 ⟨visits, hlog, h⟩, rfl⟩

end Tracker

/-- An errand refreshes a list that is too old and ends there if that fails; otherwise it goes its
way with the list that it has then. -/
theorem Errand.runs_operate_iff (errand : Errand) {now : UInt64} {t t' : Tracker}
    {log : List Exchanged} {result : Except Failure Answer} :
    (t.operate errand.operation now).Runs log (t', result) ↔
      (t.status.isStale now t.interval = true ∧
        ((∃ asked failure, log = Visit.transcript asked ∧ result = .error failure ∧
            Tracker.IsRefresh now t asked t' (.error failure)) ∨
          ∃ asked t₁ count tried, log = Visit.transcript asked ++ Visit.transcript tried ∧
            Tracker.IsRefresh now t asked t₁ (.ok ()) ∧
            errand.IsFailover t₁ count tried t' result)) ∨
      (t.status.isStale now t.interval = false ∧
        ∃ count tried, log = Visit.transcript tried ∧
          errand.IsFailover t count tried t' result) := by
  simp only [operate_eq_failover, Tracker.runs_failover_iff, Tracker.runs_refreshIfStale_iff,
    Tracker.runs_refresh_iff_isRefresh]
  constructor
  · rintro (⟨failure, ⟨hstale, asked, hlog, hasked⟩ | ⟨-, -, -, hfail⟩, hresult⟩ |
      ⟨t₁, _, tried, ⟨hstale, asked, rfl, hasked⟩ | ⟨hfresh, rfl, rfl, -⟩, htried, rfl, rfl, rfl⟩)
    · exact .inl ⟨hstale, .inl ⟨asked, failure, hlog, hresult, hasked⟩⟩
    · contradiction
    · exact .inl ⟨hstale, .inr ⟨asked, t₁, _, tried, rfl, hasked, isFailover_afterTrying htried⟩⟩
    · exact .inr ⟨hfresh, _, tried, rfl, isFailover_afterTrying htried⟩
  · rintro (⟨hstale, ⟨asked, failure, hlog, hresult, hasked⟩ |
      ⟨asked, t₁, count, tried, hlog, hasked, hfailover⟩⟩ | ⟨hfresh, count, tried, hlog, hfailover⟩)
    · exact .inl ⟨failure, .inl ⟨hstale, asked, hlog, hasked⟩, hresult⟩
    · obtain ⟨hresult, hafter⟩ := eq_afterTrying_of_isFailover hfailover
      exact .inr ⟨t₁, _, tried, .inl ⟨hstale, asked, rfl, hasked⟩, hfailover.visited, hlog,
        hresult, hafter⟩
    · obtain ⟨hresult, hafter⟩ := eq_afterTrying_of_isFailover hfailover
      exact .inr ⟨t, [], tried, .inr ⟨hfresh, rfl, rfl, trivial⟩, hfailover.visited, hlog,
        hresult, hafter⟩

/-- **Refreshes are atomic.** Whatever the network does, a refresh comes to one end. It asks the peers
in their order until one gives a usable answer, and nobody after that one; the list of this answer is
adopted and saved, with the time at which the refresh began. Without a usable answer all peers are
asked, nothing is adopted or saved, and the failure with the last peer is the result. In both cases
nobody is marked as failed, and nothing else changes but the tokens that were gained. The refresh in
an errand, which is done if the list is too old, goes the same way, and the errand ends with it if it
fails. What an operation does in a session is one of these runs, which begins at the time that the
wall clock shows when the lock is taken, and its requests are among those that are sent in the
meantime. -/
theorem Tracker.refreshes_are_atomic (now : UInt64) (t : Tracker) :
    (∀ opener : Opener, ∃ log outcome, (t.operate .refresh now).Runs log outcome ∧
      opener.Gives log ∧ ∀ log' outcome', (t.operate .refresh now).Runs log' outcome' →
        opener.Gives log' → log' = log ∧ outcome' = outcome) ∧
    (∀ log t' result, (t.operate .refresh now).Runs log (t', result) ↔
      ∃ visits outcome, log = Visit.transcript visits ∧
        result = Except.map (fun _ => Answer.done) outcome ∧
        IsRefresh now t visits t' outcome) ∧
    (∀ (errand : Errand) log t' result, (t.operate errand.operation now).Runs log (t', result) ↔
      (t.status.isStale now t.interval = true ∧
        ((∃ asked failure, log = Visit.transcript asked ∧ result = .error failure ∧
            IsRefresh now t asked t' (.error failure)) ∨
          ∃ asked t₁ count tried, log = Visit.transcript asked ++ Visit.transcript tried ∧
            IsRefresh now t asked t₁ (.ok ()) ∧
            errand.IsFailover t₁ count tried t' result)) ∨
      (t.status.isStale now t.interval = false ∧
        ∃ count tried, log = Visit.transcript tried ∧
          errand.IsFailover t count tried t' result)) ∧
    ∀ {σ : Type} (net : Responder σ) (s : Session σ) (operation : Operation),
      s.tracker? = some t → s.clock = now →
        ∃ log t' result sent, (t.operate operation now).Runs log (t', result) ∧
          (s.run net (.operate operation)).1.tracker = some t' ∧
          (s.run net (.operate operation)).2 = .ofResult result ∧
          (s.run net (.operate operation)).1.traffic.log = s.traffic.log ++ sent ∧
          (log.map (·.request)).Sublist (sent.map (·.request)) := by
  refine ⟨?_, fun log t' result => runs_operate_refresh_iff,
    fun errand log t' result => errand.runs_operate_iff, ?_⟩
  · intro opener
    obtain ⟨log, result, hrun, hgives⟩ := exists_runs opener (t.operate .refresh now)
    exact ⟨log, result, hrun, hgives, fun log' result' hrun' hgives' =>
      hrun'.eq_of_gives hrun hgives' hgives⟩
  · intro σ net s operation htracker hclock
    obtain ⟨log, sent, hrun, hsent, hsub⟩ :=
      Session.exists_runs_converse net s (t.operate operation now)
    rw [Session.run, htracker]
    simp only [Session.operate, hclock]
    generalize s.converse net (t.operate operation now) = ended at hrun hsent ⊢
    obtain ⟨s', t', result⟩ := ended
    exact ⟨log, t', result, sent, hrun, Session.conclude_tracker .., Session.conclude_outcome ..,
      (congrArg Traffic.log (Session.conclude_traffic ..)).trans hsent, hsub⟩

end FlowPeers
