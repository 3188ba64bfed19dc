import FlowPeers.Proofs.Atomicity
import FlowPeers.Proofs.Handles

/-!
# Connecting

Connecting a tracker ends in one of four ways (`Tracker.Connects`, `Tracker.runs_connect_iff`). A text
that gives no address is refused, and the first one says why. Otherwise the seeds are the addresses
of the texts, each once and in the order in which they first occur (`Tracker.readSeeds_eq_ok_iff`).
What was saved is used as it is. With nothing saved the seeds are asked for the list: they all have the
same rank, so their order is the one in which they were given (`Tracker.urls_ofSeeds`), and connecting
fails if none of them serves a list.

In a session a failure leaves the tracker and what is saved alone, and the scheduler that was started
for the new tracker does nothing any more (`Session.connecting_ends_in_four_ways`).
-/

namespace FlowPeers

open Dialogue

/-! ## The seeds -/

namespace PeerStatus

/-- Peers of one rank stand in the order in which they are given. -/
theorem rank_of_hasRank (failed : Bool) (flowFiles : UInt64) {peers : List Peer}
    (h : ∀ peer ∈ peers, peer.hasRank failed flowFiles) : rank peers = peers := by
  refine (isRankingOf_iff.1 ⟨.refl _, ?_, fun _ _ => rfl⟩).symm
  exact List.pairwise_of_forall_mem_list fun a ha b hb =>
    Peer.ranksBefore_of_hasRank a b (h a ha) (h b hb)

end PeerStatus

namespace Tracker

/-- A tracker that begins with its seeds asks them in the order in which they were given. -/
theorem urls_ofSeeds {seeds : List String} (h : seeds.Nodup) (interval : Duration)
    (logins : Logins) : (ofSeeds seeds interval logins).status.urls = seeds := by
  let peers := seeds.map fun url => ({ url := url, flowFiles := 0 } : Peer)
  have hurls : peers.map (·.url) = seeds := by simp [peers, Function.comp_def]
  have hfirsts : PeerStatus.firsts peers = peers :=
    PeerStatus.firstsAfter_of_nodup (hurls.symm ▸ h) (by simp)
  have hrank : PeerStatus.rank peers = peers := by
    refine PeerStatus.rank_of_hasRank false 0 fun peer hpeer => ?_
    obtain ⟨url, -, rfl⟩ := List.mem_map.1 hpeer
    exact Peer.hasRank_self _
  rw [ofSeeds, PeerStatus.ofPeers, PeerStatus.urls, hfirsts, hrank, hurls]

/-- The addresses of some texts, each once and at the place where it first occurs, and one more. -/
theorem eraseDups_concat (urls : List String) (url : String) : (urls ++ [url]).eraseDups =
    if url ∈ urls then urls.eraseDups else urls.eraseDups ++ [url] := by
  rw [List.eraseDups_append, List.removeAll]
  split
  · next h => simp [h]
  · next h => simp [h, List.eraseDups_cons]

theorem nodup_eraseDups (urls : List String) : urls.eraseDups.Nodup := by
  induction urls using List.reverseRecOn with
  | nil => simp
  | append_singleton urls url ih =>
    rw [eraseDups_concat]
    split
    · exact ih
    · next h =>
      rw [List.nodup_append]
      refine ⟨ih, by simp, fun other hother last hlast => ?_⟩
      rw [List.mem_singleton.1 hlast]
      rintro rfl
      exact h (List.mem_eraseDups.1 hother)

/-- The seeds are the addresses of the texts before, `past`, and of those that are read, each once and
at the place where it first occurs. -/
theorem readSeeds_after_eq_ok_iff {past raw seeds : List String} :
    readSeeds past.eraseDups raw = .ok seeds ↔
      ∃ urls : List String, raw.map PeerAddress.canonical = urls.map .ok ∧
        seeds = (past ++ urls).eraseDups := by
  induction raw generalizing past with
  | nil => simp [readSeeds, eq_comm]
  | cons text rest ih =>
    rw [readSeeds]
    cases hcanonical : PeerAddress.canonical text with
    | error failure =>
      simp only [List.map_cons, hcanonical]
      constructor
      · intro h
        contradiction
      · rintro ⟨_ | ⟨url, urls⟩, heq, -⟩
        · cases heq
        · cases heq
    | ok url =>
      have hseen : (if past.eraseDups.contains url then past.eraseDups
          else past.eraseDups ++ [url]) = (past ++ [url]).eraseDups := by
        simp [eraseDups_concat]
      simp only [hseen, ih, List.map_cons, hcanonical, List.append_assoc, List.singleton_append]
      constructor
      · rintro ⟨urls, hurls, rfl⟩
        exact ⟨url :: urls, by rw [hurls, List.map_cons], rfl⟩
      · rintro ⟨_ | ⟨other, urls⟩, heq, rfl⟩
        · cases heq
        · rw [List.map_cons, List.cons.injEq, Except.ok.injEq] at heq
          obtain ⟨rfl, hurls⟩ := heq
          exact ⟨urls, hurls, rfl⟩

/-- The seeds are the addresses of the texts, each once and at the place where it first occurs. -/
theorem readSeeds_eq_ok_iff {raw seeds : List String} : readSeeds [] raw = .ok seeds ↔
    ∃ urls : List String, raw.map PeerAddress.canonical = urls.map .ok ∧ seeds = urls.eraseDups := by
  simpa using @readSeeds_after_eq_ok_iff [] raw seeds

/-- The first text that gives no address says why there are no seeds. -/
theorem readSeeds_eq_error_iff {seen raw : List String} {failure : Failure} :
    readSeeds seen raw = .error failure ↔
      ∃ earlier text later, raw = earlier ++ text :: later ∧
        (∀ other ∈ earlier, ∃ url, PeerAddress.canonical other = .ok url) ∧
        PeerAddress.canonical text = .error failure := by
  induction raw generalizing seen with
  | nil => simp [readSeeds]
  | cons text rest ih =>
    rw [readSeeds]
    cases hcanonical : PeerAddress.canonical text with
    | error failure' =>
      constructor
      · rintro ⟨⟩
        exact ⟨[], text, rest, rfl, by simp, hcanonical⟩
      · rintro ⟨_ | ⟨other, earlier⟩, text', later, heq, hearlier, htext⟩
        · cases heq
          simpa [hcanonical] using htext
        · cases heq
          obtain ⟨url, hurl⟩ := hearlier text (List.mem_cons_self ..)
          rw [hcanonical] at hurl
          contradiction
    | ok url =>
      simp only [ih]
      constructor
      · rintro ⟨earlier, text', later, rfl, hearlier, htext⟩
        refine ⟨text :: earlier, text', later, rfl, ?_, htext⟩
        simpa [hcanonical] using hearlier
      · rintro ⟨_ | ⟨other, earlier⟩, text', later, heq, hearlier, htext⟩
        · cases heq
          rw [hcanonical] at htext
          contradiction
        · cases heq
          exact ⟨earlier, text', later, rfl, fun other hother =>
            hearlier other (List.mem_cons_of_mem _ hother), htext⟩

/-! ## How connecting ends -/

/-- How seeds are asked for the list: in their order, and nobody after one that gives a usable
answer. -/
structure Asks (logins : Logins) (seeds : List String) (visits : List (Visit (List Peer))) : Prop where
  /-- Each visit begins with the logins that the one before has left. -/
  visited : Visits fetchPeers logins seeds visits
  urls : visits.map (·.url) = seeds.take visits.length
  /-- A seed is asked for a token if a login is due, and then, unless that fails, for its list. -/
  orderly : ∀ v ∈ visits, v.Sends (IsListRequest v.url)
  earlier : ∀ v ∈ visits.dropLast, ∀ reported, ¬ v.Serves reported

/-- How connecting ends, with what is exchanged in it. -/
inductive Connects (raw : List String) (interval : Duration) (logins : Logins)
    (saved : Option PeerStatus) (now : UInt64) : List Exchanged → Except Failure Tracker → Prop
  /-- A text gives no address, and all texts before give one. -/
  | refused {earlier later : List String} {text : String} {failure : Failure}
      (hraw : raw = earlier ++ text :: later)
      (hearlier : ∀ other ∈ earlier, ∃ url, PeerAddress.canonical other = .ok url)
      (htext : PeerAddress.canonical text = .error failure) :
      Connects raw interval logins saved now [] (.error failure)
  /-- What was saved is used as it is, and nobody is asked. -/
  | resumed {urls : List String} {status : PeerStatus}
      (hurls : raw.map PeerAddress.canonical = urls.map .ok) (hsaved : saved = some status) :
      Connects raw interval logins saved now []
        (.ok ⟨urls.eraseDups, interval, logins, status, some status⟩)
  /-- A seed serves a list, which is adopted. -/
  | served {urls : List String} {visits : List (Visit (List Peer))} {v : Visit (List Peer)}
      {reported : List Peer} {status : PeerStatus}
      (hurls : raw.map PeerAddress.canonical = urls.map .ok) (hsaved : saved = none)
      (hasks : Asks logins urls.eraseDups visits) (hlast : visits.getLast? = some v)
      (hserves : v.Serves reported)
      (hstatus : status = PeerStatus.ofPeers
        (merge (ofSeeds urls.eraseDups interval logins).status.peers reported urls.eraseDups) now) :
      Connects raw interval logins saved now (Visit.transcript visits)
        (.ok ⟨urls.eraseDups, interval, v.after, status, some status⟩)
  /-- All seeds are asked, and none serves a list; the failure with the last one says why. -/
  | unserved {urls : List String} {visits : List (Visit (List Peer))} {failure : Failure}
      (hurls : raw.map PeerAddress.canonical = urls.map .ok) (hsaved : saved = none)
      (hasks : Asks logins urls.eraseDups visits)
      (hall : visits.map (·.url) = urls.eraseDups)
      (hnone : ∀ v ∈ visits, ∀ reported, ¬ v.Serves reported)
      (hfailure : (urls = [] ∧ failure = .noPeers) ∨
        ∃ v, visits.getLast? = some v ∧ v.result = .error failure) :
      Connects raw interval logins saved now (Visit.transcript visits) (.error failure)

variable {raw urls : List String} {interval : Duration} {logins : Logins}
  {saved : Option PeerStatus} {now : UInt64} {log : List Exchanged}
  {outcome : Except Failure Tracker}

/-- With an address from every text only the seeds matter. -/
theorem connect_of_canonical (hurls : raw.map PeerAddress.canonical = urls.map .ok) :
    connect raw interval logins saved now =
      connectTo urls.eraseDups interval logins saved now := by
  rw [connect, readSeeds_eq_ok_iff.2 ⟨urls, hurls, rfl⟩]

/-- What was saved is used without anything being exchanged. -/
theorem runs_connect_some_iff {status : PeerStatus}
    (hurls : raw.map PeerAddress.canonical = urls.map .ok) :
    (connect raw interval logins (some status) now).Runs log outcome ↔
      log = [] ∧ outcome = .ok ⟨urls.eraseDups, interval, logins, status, some status⟩ := by
  rw [connect_of_canonical hurls]
  exact runs_done_iff

/-- What is said of visits in order says how the seeds are asked. -/
theorem asks_of_visits {seeds : List String} {visits : List (Visit (List Peer))}
    (h : Visits fetchPeers logins seeds visits) : Asks logins seeds visits where
  visited := h
  urls := h.urls_eq_take
  orderly := fun v hv => (h.isOf v hv).sends fun _ _ => sendsJust_of_runs_fetchPeers
  earlier := fun v hv =>
    (h.isOf v (List.mem_of_mem_dropLast hv)).hasFailed_iff_forall.1 ((outcome_of_visits h).1 v hv)

theorem finalLogins_of_getLast? {logins : Logins} {visits : List (Visit (List Peer))}
    {v : Visit (List Peer)} (h : visits.getLast? = some v) :
    Visit.finalLogins logins visits = v.after := by
  rw [Visit.finalLogins, h]

/-- With nothing saved the seeds are visited, and what comes of the visits is what comes of
connecting. -/
theorem runs_connectTo_none_iff {seeds : List String} (hseeds : seeds.Nodup) :
    (connectTo seeds interval logins none now).Runs log outcome ↔
      ∃ visits, Visits fetchPeers logins seeds visits ∧ log = Visit.transcript visits ∧
        outcome = (Visit.outcome .noPeers visits).map fun _ =>
          (ofSeeds seeds interval logins).afterAsking now visits := by
  rw [connectTo, runs_map_iff]
  constructor
  · rintro ⟨⟨t, result⟩, hrun, rfl⟩
    obtain ⟨visits, hvisits, rfl, rfl, rfl⟩ := runs_refresh_iff.1 hrun
    rw [urls_ofSeeds hseeds] at hvisits
    refine ⟨visits, hvisits, rfl, ?_⟩
    cases Visit.outcome .noPeers visits <;> rfl
  · rintro ⟨visits, hvisits, rfl, rfl⟩
    rw [← urls_ofSeeds hseeds interval logins] at hvisits
    refine ⟨_, runs_refresh_iff.2 ⟨visits, hvisits, rfl, rfl, rfl⟩, ?_⟩
    cases Visit.outcome .noPeers visits <;> rfl

/-- With nothing saved connecting ends as it does with a seed that serves a list, or without any. -/
theorem connects_of_runs_connectTo_none (hurls : raw.map PeerAddress.canonical = urls.map .ok)
    (h : (connectTo urls.eraseDups interval logins none now).Runs log outcome) :
    Connects raw interval logins none now log outcome := by
  obtain ⟨visits, hvisits, rfl, rfl⟩ := (runs_connectTo_none_iff (nodup_eraseDups urls)).1 h
  have hasks := asks_of_visits hvisits
  rcases (outcome_of_visits hvisits).2 with
    ⟨v, reported, hlast, hresult, houtcome⟩ | ⟨hfailed, hlength, hfailure⟩
  · have hserves := (hvisits.isOf v (List.mem_of_getLast? hlast)).serves_iff.2 hresult
    rw [afterAsking, houtcome, finalLogins_of_getLast? hlast]
    exact .served hurls rfl hasks hlast hserves rfl
  · have hall : visits.map (·.url) = urls.eraseDups := by
      rw [hasks.urls, hlength, List.take_length]
    have hnone : ∀ v ∈ visits, ∀ reported, ¬ v.Serves reported :=
      fun v hv => (hvisits.isOf v hv).hasFailed_iff_forall.1 (hfailed v hv)
    rcases hfailure with ⟨hnil, houtcome⟩ | ⟨v, failure, hlast, hresult, houtcome⟩
    · have hempty : urls = [] := by
        rw [List.eq_nil_iff_forall_not_mem] at hnil ⊢
        exact fun url hurl => hnil url (List.mem_eraseDups.2 hurl)
      rw [houtcome]
      exact .unserved hurls rfl hasks hall hnone (.inl ⟨hempty, rfl⟩)
    · rw [houtcome]
      exact .unserved hurls rfl hasks hall hnone (.inr ⟨v, hlast, hresult⟩)

/-- **How connecting ends.** It ends in one of the four ways, and whatever is said of one of them
happens. -/
theorem runs_connect_iff : (connect raw interval logins saved now).Runs log outcome ↔
    Connects raw interval logins saved now log outcome := by
  constructor
  · intro h
    cases hseeds : readSeeds [] raw with
    | error failure =>
      obtain ⟨earlier, text, later, hraw, hearlier, htext⟩ := readSeeds_eq_error_iff.1 hseeds
      rw [connect, hseeds] at h
      obtain ⟨rfl, rfl⟩ := runs_done_iff.1 h
      exact .refused hraw hearlier htext
    | ok seeds =>
      obtain ⟨urls, hurls, rfl⟩ := readSeeds_eq_ok_iff.1 hseeds
      cases saved with
      | none =>
        rw [connect_of_canonical hurls] at h
        exact connects_of_runs_connectTo_none hurls h
      | some status =>
        obtain ⟨rfl, rfl⟩ := (runs_connect_some_iff hurls).1 h
        exact .resumed hurls rfl
  · intro h
    cases h with
    | refused hraw hearlier htext =>
      rw [connect, readSeeds_eq_error_iff.2 ⟨_, _, _, hraw, hearlier, htext⟩]
      exact .done _
    | resumed hurls hsaved =>
      rw [hsaved, runs_connect_some_iff hurls]
      exact ⟨rfl, rfl⟩
    | @served urls visits v reported status hurls hsaved hasks hlast hserves hstatus =>
      have hresult := (hasks.visited.isOf v (List.mem_of_getLast? hlast)).serves_iff.1 hserves
      have houtcome : Visit.outcome .noPeers visits = .ok reported := by
        rw [Visit.outcome, hlast]
        exact hresult
      rw [connect_of_canonical hurls, hsaved, runs_connectTo_none_iff (nodup_eraseDups urls)]
      refine ⟨visits, hasks.visited, rfl, ?_⟩
      rw [afterAsking, houtcome, finalLogins_of_getLast? hlast, hstatus]
      rfl
    | @unserved urls visits failure hurls hsaved hasks hall hnone hfailure =>
      have houtcome : Visit.outcome .noPeers visits = .error failure := by
        rcases hfailure with ⟨hempty, rfl⟩ | ⟨v, hlast, hresult⟩
        · rw [hempty, List.eraseDups_nil, List.map_eq_nil_iff] at hall
          rw [hall]
          rfl
        · rw [Visit.outcome, hlast]
          exact hresult
      rw [connect_of_canonical hurls, hsaved, runs_connectTo_none_iff (nodup_eraseDups urls)]
      exact ⟨visits, hasks.visited, rfl, by rw [houtcome]; rfl⟩

end Tracker

/-! ## The scheduler of a tracker that did not come about -/

namespace KeepAlive

variable {τ : Type}

/-- Whether a scheduler does nothing any more: it stops as soon as it receives what it was told, has no
jobs then, starts nothing however much time passes, and accepts nothing. -/
structure IsOver (k : KeepAlive τ) : Prop where
  stopped : ∀ now, (k.settle now).isStopped ∧ (k.settle now).jobs = []
  idle : ∀ {σ : Type} (launch : Launch σ τ) (limit now : Nat) (s : σ),
    k.advance launch limit now s = (k.settle now, s)
  closed : ∀ interval task, (k.schedule interval task).2.isActive = false

/-- A scheduler that was told to shut down does nothing any more. -/
theorem isOver_of_obeys {k : KeepAlive τ} (h : ∀ now, k.Obeys now) (hshut : k.isShutDown) :
    k.IsOver where
  stopped := fun now =>
    ⟨(h now).stopped_of_shut hshut,
      jobs_settle_eq_nil (h now).jobs_eq_nil now ((h now).stopped_of_shut hshut)⟩
  idle := fun launch limit now s =>
    advance_of_isStopped (h now) ((h now).stopped_of_shut hshut) launch limit s
  closed := fun interval task => by rw [schedule_of_isClosed (.inl hshut)]

end KeepAlive

/-! ## Connecting in a session -/

namespace Session

variable {σ : Type}

section Seeds

variable {net : Responder σ} {s s' : Session σ} {raw seeds : List String} {interval : Duration}
  {logins : Logins}

/-- The scheduler that was started before the seeds are asked is shut down if none serves a list. -/
theorem connecting_of_error {failure : Failure} (hseeds : Tracker.readSeeds [] raw = .ok seeds)
    (h : s.converse net (Tracker.connectTo seeds interval logins s.saved s.clock) =
      (s', .error failure)) :
    s.connecting net raw interval logins =
      (s', .failed failure ({} : KeepAlive Chore).shutDown) := by
  rw [connecting, hseeds]
  simp only [h]

theorem connecting_of_ok {t : Tracker} (hseeds : Tracker.readSeeds [] raw = .ok seeds)
    (h : s.converse net (Tracker.connectTo seeds interval logins s.saved s.clock) = (s', .ok t)) :
    s.connecting net raw interval logins = (s', .connected t {}) := by
  rw [connecting, hseeds]
  simp only [h]

end Seeds

/-- **Connecting, all paths.** Whatever the texts of the seeds are, what is saved, what replies and what
the clock shows, connecting ends in one of four ways:

* a text gives no address, and the first such text says why; nothing is exchanged;
* all texts give addresses and something is saved: it is used as it is, and nothing is exchanged;
* nothing is saved and a seed gives a usable answer: the seeds before it were asked in their order,
  and its list is adopted;
* nothing is saved and no seed gives one: they were all asked in their order, and the failure with the
  last one says why.

The seeds are the addresses of the texts, each once and at the place where it first occurs. In a
session connecting is one of these, and its requests are among those that are sent in the meantime. If
it fails, the tracker of the session and what is saved are as they were, and no scheduler was started or
the one that was does nothing any more. -/
theorem connecting_ends_in_four_ways (raw : List String) (interval : Duration) (logins : Logins) :
    (∀ saved now,
      (∀ opener : Opener, ∃ log outcome,
        (Tracker.connect raw interval logins saved now).Runs log outcome ∧ opener.Gives log ∧
        ∀ log' outcome', (Tracker.connect raw interval logins saved now).Runs log' outcome' →
          opener.Gives log' → log' = log ∧ outcome' = outcome) ∧
      ∀ log outcome, (Tracker.connect raw interval logins saved now).Runs log outcome ↔
        Tracker.Connects raw interval logins saved now log outcome) ∧
    ∀ {σ : Type} (net : Responder σ) (s : Session σ), ∃ log outcome s' sent,
      Tracker.Connects raw interval logins s.saved s.clock log outcome ∧
      s'.traffic.log = s.traffic.log ++ sent ∧
      (log.map (·.request)).Sublist (sent.map (·.request)) ∧ (log = [] → s' = s) ∧
      s'.saved = s.saved ∧ s'.tracker = s.tracker ∧
      match outcome with
      | .error failure =>
        s.connect net raw interval logins = (s', .error failure) ∧
          (s.connecting net raw interval logins = (s', .refused failure) ∨
            ∃ k, s.connecting net raw interval logins = (s', .failed failure k) ∧ k.IsOver)
      | .ok t =>
        s.connect net raw interval logins =
          ({ s' with tracker := some t, isReleased := false, keepAlive := {} }, .ok ()) := by
  refine ⟨fun saved now => ⟨fun opener => ?_, fun log outcome => Tracker.runs_connect_iff⟩, ?_⟩
  · obtain ⟨log, outcome, hrun, hgives⟩ :=
      exists_runs opener (Tracker.connect raw interval logins saved now)
    exact ⟨log, outcome, hrun, hgives, fun log' outcome' hrun' hgives' =>
      hrun'.eq_of_gives hrun hgives' hgives⟩
  · intro σ net s
    cases hseeds : Tracker.readSeeds [] raw with
    | error failure =>
      obtain ⟨earlier, text, later, hraw, hearlier, htext⟩ := Tracker.readSeeds_eq_error_iff.1 hseeds
      have hconnecting : s.connecting net raw interval logins = (s, .refused failure) := by
        rw [connecting, hseeds]
      refine ⟨[], .error failure, s, [], .refused hraw hearlier htext, (List.append_nil _).symm,
        .refl _, fun _ => rfl, rfl, rfl, ?_, .inl hconnecting⟩
      rw [connect, hconnecting]
    | ok seeds =>
      let d := Tracker.connectTo seeds interval logins s.saved s.clock
      obtain ⟨log, sent, hrun, hsent, hsub⟩ := exists_runs_converse net s d
      have hsame : log = [] → (s.converse net d).1 = s := by
        rintro rfl
        rw [converse_of_runs_nil hrun]
      have hconnects : Tracker.Connects raw interval logins s.saved s.clock log
          (s.converse net d).2 := by
        rw [← Tracker.runs_connect_iff, Tracker.connect, hseeds]
        exact hrun
      refine ⟨log, _, _, sent, hconnects, hsent, hsub, hsame, saved_converse net s d,
        converse_tracker net s d, ?_⟩
      cases houtcome : (s.converse net d).2 with
      | error failure =>
        have hconnecting := connecting_of_error hseeds (Prod.ext rfl houtcome)
        refine ⟨by rw [connect, hconnecting], .inr ⟨_, hconnecting, ?_⟩⟩
        exact KeepAlive.isOver_of_obeys
          (fun now => KeepAlive.obeys_shutDown (KeepAlive.obeys_start now)) rfl
      | ok t =>
        have hconnecting := connecting_of_ok hseeds (Prod.ext rfl houtcome)
        simp only [connect, hconnecting, d]

end Session

end FlowPeers
