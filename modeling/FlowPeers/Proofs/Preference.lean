import FlowPeers.Network.Script
import FlowPeers.Proofs.Atomicity

/-!
# The peer that works is tried first

An errand that succeeds leaves the peers on which it has failed marked and the ranking renewed. The
peer with which it has succeeded stands before all peers that were not tried, and behind none that
has failed, if it is healthy itself; as the ranking is stable, it also stands before those of its own
rank, and so it comes first (`IsRankingOf.head?_eq`, `Tracker.head?_afterTrying`). If it was
marked already, then so was everybody who stands behind it, and now all peers are marked
(`Tracker.failed_of_mem_afterTrying`).

`Errand.working_peer_is_tried_first` puts this together with the next errand, which visits the peers
in the order of that ranking.
-/

namespace FlowPeers

open Dialogue

/-! ## The first peer of a ranking -/

theorem Peer.ranksBefore_self (peer : Peer) : peer.ranksBefore peer :=
  Peer.ranksBefore_of_hasRank peer peer peer.hasRank_self peer.hasRank_self

/-- A peer to which nobody before it is preferred, and which is at least as good as everybody behind it,
comes first if nobody before it has its rank. -/
theorem IsRankingOf.head?_eq {ranked earlier rest : List Peer} {peer : Peer}
    (h : IsRankingOf ranked (earlier ++ peer :: rest))
    (hearlier : ∀ other ∈ earlier, other.ranksBefore peer = false)
    (hrest : ∀ other ∈ rest, peer.ranksBefore other) : ranked.head? = some peer := by
  have hmem : peer ∈ ranked := h.perm.mem_iff.2 (by simp)
  obtain ⟨first, others, rfl⟩ := List.exists_cons_of_ne_nil (List.ne_nil_of_mem hmem)
  have hfirst : first.ranksBefore peer := by
    rcases List.mem_cons.1 hmem with rfl | hmem
    · exact Peer.ranksBefore_self _
    · exact (List.pairwise_cons.1 h.ordered).1 peer hmem
  have hpeer : peer.ranksBefore first := by
    have hfrom := h.perm.mem_iff.1 (List.mem_cons_self ..)
    rcases List.mem_append.1 hfrom with hfrom | hfrom
    · rw [hearlier first hfrom] at hfirst
      contradiction
    · rcases List.mem_cons.1 hfrom with rfl | hfrom
      · exact Peer.ranksBefore_self _
      · exact hrest first hfrom
  -- the two have the same rank, and among those who have it nobody stood before the peer
  have hrank : first.hasRank peer.failed peer.flowFiles := Peer.hasRank_of_ranksBefore hfirst hpeer
  have hnone : earlier.filter (Peer.hasRank peer.failed peer.flowFiles) = [] := by
    rw [List.filter_eq_nil_iff]
    intro other hother hsame
    have hbefore := Peer.ranksBefore_of_hasRank other peer hsame peer.hasRank_self
    rw [hearlier other hother] at hbefore
    contradiction
  have hstable := h.stable peer.failed peer.flowFiles
  rw [List.filter_append, hnone, List.nil_append, List.filter_cons_of_pos hrank,
    List.filter_cons_of_pos peer.hasRank_self] at hstable
  rw [List.head?_cons, (List.cons.inj hstable).1]

theorem markFirst_append (earlier others : List Peer) :
    markFirst earlier.length (earlier ++ others) = earlier.map Peer.markFailed ++ others := by
  rw [markFirst, List.take_left, List.drop_left]

/-! ## Visits of which one succeeds -/

namespace Visits

variable {α : Type} {action : Tracker.Action α} {logins : Logins} {urls : List String}
  {visits : List (Visit α)}

/-- If something comes of some visits, it comes of the last one, and all others were in vain. -/
theorem exists_last_of_outcome (h : Visits action logins urls visits) {failure : Failure} {value : α}
    (hok : Visit.outcome failure visits = .ok value) :
    ∃ tried v, visits = tried ++ [v] ∧ Visit.failures visits = tried.length ∧
      v.result = .ok value ∧ urls.take tried.length = tried.map (·.url) ∧
      urls[tried.length]? = some v.url := by
  have hurls := h.urls_eq_take
  rcases h.eq_failures_append with ⟨-, -, hall⟩ | ⟨tried, v, rfl, hcount, -, -⟩
  · rw [Visit.outcome] at hok
    split at hok
    · next v hlast =>
      obtain ⟨_, hv⟩ := Visit.hasFailed_iff.1 (hall v (List.mem_of_getLast? hlast))
      rw [hok] at hv
      contradiction
    · contradiction
  · refine ⟨tried, v, rfl, hcount.symm, by simpa [Visit.outcome] using hok, ?_, ?_⟩
    · have htake := congrArg (List.take tried.length) hurls
      simpa [List.take_take] using htake.symm
    · have hlast := congrArg (·[tried.length]?) hurls
      simpa [List.getElem?_take] using hlast.symm

/-- Where there is an address there is a visit, and the first one is to the first address. -/
theorem exists_cons {url : String} {rest : List String}
    (h : Visits action logins (url :: rest) visits) :
    ∃ v later, visits = v :: later ∧ v.url = url ∧ v.before = logins ∧ v.IsOf action := by
  cases h with
  | success hv hbefore hurl => exact ⟨_, [], rfl, hurl, hbefore, hv⟩
  | failure hv hbefore hurl _ later => exact ⟨_, _, rfl, hurl, hbefore, hv⟩

end Visits

/-! ## The ranking after an errand -/

namespace Tracker

variable {t : Tracker} {visits : List (Visit Answer)} {earlier rest : List Peer} {peer : Peer}

/-- With a ranking to begin with there is a ranking afterwards, whether it was renewed or not. -/
theorem isRankingOf_afterTrying (hranked : t.status.IsRanked) (visits : List (Visit Answer)) :
    IsRankingOf (t.afterTrying visits).status.peers
      (markFirst (Visit.failures visits) t.status.peers) := by
  rw [afterTrying]
  split
  · next hzero =>
    rw [hzero, markFirst_zero]
    exact ⟨.refl _, hranked, fun _ _ => rfl⟩
  · exact isRankingOf_rank _

/-- Everybody is at most as good a choice as those who stand before in a ranking. -/
theorem ranksBefore_of_mem_rest (hranked : t.status.IsRanked)
    (hpeers : t.status.peers = earlier ++ peer :: rest) : ∀ other ∈ rest, peer.ranksBefore other := by
  rw [PeerStatus.IsRanked, hpeers, List.pairwise_append] at hranked
  exact (List.pairwise_cons.1 hranked.2.1).1

/-- A healthy peer comes first after everybody before it has failed. -/
theorem head?_afterTrying (hranked : t.status.IsRanked)
    (hpeers : t.status.peers = earlier ++ peer :: rest)
    (hcount : Visit.failures visits = earlier.length) (hhealthy : peer.failed = false) :
    (t.afterTrying visits).status.peers.head? = some peer := by
  have hranking := isRankingOf_afterTrying hranked visits
  rw [hcount, hpeers, markFirst_append] at hranking
  refine hranking.head?_eq ?_ (ranksBefore_of_mem_rest hranked hpeers)
  intro other hother
  obtain ⟨old, -, rfl⟩ := List.mem_map.1 hother
  -- who has failed is never preferred to who is healthy
  simp [Peer.ranksBefore, Peer.markFailed, hhealthy]

/-- If everybody before a failed peer fails, then everybody has failed. -/
theorem failed_of_mem_afterTrying (hranked : t.status.IsRanked)
    (hpeers : t.status.peers = earlier ++ peer :: rest)
    (hcount : Visit.failures visits = earlier.length) (hfailed : peer.failed = true) {other : Peer}
    (hother : other ∈ (t.afterTrying visits).status.peers) : other.failed = true := by
  have hranking := isRankingOf_afterTrying hranked visits
  rw [hcount, hpeers, markFirst_append] at hranking
  rcases List.mem_append.1 (hranking.perm.mem_iff.1 hother) with hmem | hmem
  · obtain ⟨old, -, rfl⟩ := List.mem_map.1 hmem
    rfl
  · rcases List.mem_cons.1 hmem with rfl | hmem
    · exact hfailed
    · have hbehind := ranksBefore_of_mem_rest hranked hpeers other hmem
      rw [Peer.ranksBefore_iff, hfailed] at hbehind
      rcases hbehind with ⟨hhealthy, -⟩ | ⟨hsame, -⟩
      · contradiction
      · exact hsame.symm

end Tracker

/-! ## Errands -/

namespace Errand

variable {errand : Errand} {now : UInt64} {t t' : Tracker} {log : List Exchanged}

/-- With a list that is not too old an errand visits the peers as they stand. -/
theorem runs_operate_iff_of_fresh (hfresh : t.status.isStale now t.interval = false)
    {result : Except Failure Answer} :
    (t.operate errand.operation now).Runs log (t', result) ↔
      ∃ visits, Visits errand.action t.logins t.status.urls visits ∧
        log = Visit.transcript visits ∧ result = Visit.outcome .noPeers visits ∧
        t' = t.afterTrying visits := by
  simp only [operate_eq_failover, Tracker.runs_failover_iff, Tracker.runs_refreshIfStale_iff, hfresh]
  simp

/-- **The peer that works is tried first next time.** An errand that needs no refresh and succeeds has
visited some peers in vain, which stand before the one with which it has succeeded. If that peer was
healthy when the errand began, then it comes first in the ranking afterwards, however many have failed
before it and whoever has the same rank, and the next errand that needs no refresh visits it first.
If it was marked as failed, then everybody is marked afterwards. -/
theorem working_peer_is_tried_first {value : Answer} (hranked : t.status.IsRanked)
    (hfresh : t.status.isStale now t.interval = false)
    (hrun : (t.operate errand.operation now).Runs log (t', .ok value)) :
    ∃ earlier peer rest tried v, t.status.peers = earlier ++ peer :: rest ∧
      tried.map (·.url) = earlier.map (·.url) ∧ v.url = peer.url ∧ v.result = .ok value ∧
      log = Visit.transcript (tried ++ [v]) ∧
      errand.IsFailover t earlier.length (tried ++ [v]) t' (.ok value) ∧
      (peer.failed = false → t'.status.peers.head? = some peer ∧
        ∀ (next : Errand) later log' t'' result, t'.status.isStale later t'.interval = false →
          (t'.operate next.operation later).Runs log' (t'', result) →
          ∃ w visits, log' = Visit.transcript (w :: visits) ∧ w.url = peer.url ∧
            w.before = t'.logins ∧ next.IsOrderly w) ∧
      (peer.failed = true → ∀ other ∈ t'.status.peers, other.failed = true) := by
  obtain ⟨visits, hvisits, rfl, houtcome, rfl⟩ := (runs_operate_iff_of_fresh hfresh).1 hrun
  have hfailover := isFailover_afterTrying hvisits
  obtain ⟨tried, v, rfl, hcount, hv, htried, hurl⟩ := hvisits.exists_last_of_outcome houtcome.symm
  rw [PeerStatus.urls, List.getElem?_map, Option.map_eq_some_iff] at hurl
  obtain ⟨peer, hpeer, hurl⟩ := hurl
  obtain ⟨earlier, rest, hpeers, hlength⟩ : ∃ earlier rest,
      t.status.peers = earlier ++ peer :: rest ∧ earlier.length = tried.length := by
    obtain ⟨hlt, heq⟩ := List.getElem?_eq_some_iff.1 hpeer
    refine ⟨t.status.peers.take tried.length, t.status.peers.drop (tried.length + 1), ?_, ?_⟩
    · rw [← heq, List.getElem_cons_drop, List.take_append_drop]
    · rw [List.length_take]
      omega
  rw [hlength.symm] at hcount htried
  rw [hcount, ← houtcome] at hfailover
  have hurls : tried.map (·.url) = earlier.map (·.url) := by
    rw [← htried, PeerStatus.urls, hpeers, List.map_append, List.take_left' (by simp)]
  refine ⟨earlier, peer, rest, tried, v, hpeers, hurls, hurl.symm, hv, rfl, hfailover, ?_, ?_⟩
  · intro hhealthy
    have hhead := Tracker.head?_afterTrying hranked hpeers hcount hhealthy
    refine ⟨hhead, ?_⟩
    intro next later log' t'' result hfresh' hnext
    obtain ⟨visits', hvisits', rfl, -, -⟩ := (runs_operate_iff_of_fresh hfresh').1 hnext
    obtain ⟨others, hothers⟩ := List.head?_eq_some_iff.1 hhead
    rw [PeerStatus.urls, hothers, List.map_cons] at hvisits'
    obtain ⟨w, visits, rfl, hw, hbefore, hof⟩ := hvisits'.exists_cons
    exact ⟨w, visits, rfl, hw, hbefore, isOrderly_of_isOf hof⟩
  · intro hfailed other hother
    exact Tracker.failed_of_mem_afterTrying hranked hpeers hcount hfailed hother

/-- A port is looked up with a peer that refuses and then with the next one, to which a third one is
equal. -/
theorem second_peer_works_and_is_tried_first : ∃ (t t' : Tracker) (log : List Exchanged)
    (value : Answer), t.status.peers = [⟨"http://[::1]:80/nifi-api", 1, false⟩,
      ⟨"http://[::2]:80/nifi-api", 5, false⟩, ⟨"http://[::3]:80/nifi-api", 5, false⟩] ∧
    (t.operate (resolvePort "in").operation 1500).Runs log (t', .ok value) ∧
    t'.status.peers.head? = some ⟨"http://[::2]:80/nifi-api", 5, false⟩ ∧
    ∀ (next : Errand) later log' t'' result, t'.status.isStale later t'.interval = false →
      (t'.operate next.operation later).Runs log' (t'', result) →
      ∃ w visits, log' = Visit.transcript (w :: visits) ∧ w.url = "http://[::2]:80/nifi-api" ∧
        w.before = t'.logins ∧ next.IsOrderly w := by
  let ports : Response := ⟨.ok, [], .ofText (PortDirectory.print [⟨"7", "in"⟩])⟩
  let script : Script := [{ start := some "http://[::1]", replies := [(0, .refused)] },
    { replies := [(0, .response ports)] }]
  let t : Tracker := { Tracker.ofSeeds [] (.ofSeconds 1) (.start none none) with
    status := ⟨[⟨"http://[::1]:80/nifi-api", 1, false⟩, ⟨"http://[::2]:80/nifi-api", 5, false⟩,
      ⟨"http://[::3]:80/nifi-api", 5, false⟩], 1000⟩ }
  have hranked : t.status.IsRanked := by
    rw [PeerStatus.IsRanked]
    decide +kernel
  have hfresh : t.status.isStale 1500 t.interval = false := by decide +kernel
  obtain ⟨log, hrun⟩ := exists_runs_perform Script.responder 0 ⟨script, []⟩
    (t.operate (resolvePort "in").operation 1500)
  have houtcome : ((t.operate (resolvePort "in").operation 1500).perform Script.responder 0
      ⟨script, []⟩).2.2.2.toOption.isSome ∧
      ((t.operate (resolvePort "in").operation 1500).perform Script.responder 0
        ⟨script, []⟩).2.2.1.status.peers.head? = some ⟨"http://[::2]:80/nifi-api", 5, false⟩ := by
    decide +kernel
  generalize (Dialogue.perform _ _ _ _).2.2 = outcome at hrun houtcome
  obtain ⟨t', result⟩ := outcome
  obtain ⟨hok, hhead⟩ := houtcome
  cases result with
  | error failure => contradiction
  | ok value =>
    obtain ⟨_, peer, _, _, _, -, -, -, -, -, -, hhealthy, hfailed⟩ :=
      working_peer_is_tried_first hranked hfresh hrun
    cases hpeer : peer.failed with
    | true =>
      have hall := hfailed hpeer _ (List.mem_of_head? hhead)
      contradiction
    | false =>
      obtain ⟨hfirst, hnext⟩ := hhealthy hpeer
      rw [hhead, Option.some.injEq] at hfirst
      rw [← hfirst] at hnext
      exact ⟨t, t', log, value, rfl, hrun, hhead, hnext⟩

end Errand

end FlowPeers
