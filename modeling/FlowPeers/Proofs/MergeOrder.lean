import FlowPeers.Proofs.FirstRecords
import FlowPeers.Proofs.Merge
import FlowPeers.Proofs.Utf8

/-!
# What a merged list is, and in which order

Peers that are known are merged with those that are reported (`Tracker.merge`), and the merged list
becomes a status. The first record of each address decides: the firsts of the merged list are the
firsts of the known peers as far as they remain, and behind them the peers that are new
(`Tracker.firsts_merge`).

**`Tracker.merged_status`** says from this which addresses the status has, what it says of each, and
where each peer stands.
-/

namespace FlowPeers

/-! ## The firsts of a merged list -/

namespace Tracker

open PeerStatus

/-- After the addresses in `done`, of which those in `kept` have remained and all are left out of
`left`, the firsts of what remains are what remains of the firsts. -/
theorem firstsAfter_renewAll {seeds kept done : List String} {reported left current : List Peer}
    (hkept : ∀ url, url ∈ kept ↔ url ∈ done ∧ (url ∈ reported.map (·.url) ∨ url ∈ seeds))
    (hleft : ∀ url, left.find? (·.url == url) =
      if url ∈ done then none else reported.find? (·.url == url)) :
    firstsAfter kept (renewAll seeds left current) =
      (firstsAfter done current).filterMap (renew? reported seeds) := by
  induction current generalizing kept done left with
  | nil => rfl
  | cons peer rest ih =>
    have hleft' : ∀ {done' : List String}, (∀ url, url ∈ done' ↔ url = peer.url ∨ url ∈ done) →
        ∀ url, (left.filter (·.url != peer.url)).find? (·.url == url) =
          if url ∈ done' then none else reported.find? (·.url == url) := by
      intro done' hdone' url
      by_cases hurl : url = peer.url
      · rw [if_pos ((hdone' url).2 (.inl hurl)), hurl]
        simp [List.find?_eq_none]
      · rw [find?_filter_url hurl, hleft]
        simp [hdone', hurl]
    rw [renewAll, firstsAfter]
    by_cases hdone : peer.url ∈ done
    · -- of a later record of an address nothing is new, as that of a seed has remained before
      rw [if_pos (List.contains_iff_mem.2 hdone), ← ih hkept
        (hleft' fun url => ⟨.inr, fun h => h.elim (fun heq => heq ▸ hdone) id⟩),
        renew?, hleft, if_pos hdone]
      dsimp only
      split
      · next hseed =>
        have hmem : peer.url ∈ kept := (hkept _).2 ⟨hdone, .inr (List.contains_iff_mem.1 hseed)⟩
        rw [Option.toList_some, List.singleton_append, firstsAfter,
          if_pos (List.contains_iff_mem.2 hmem)]
      · rw [Option.toList_none, List.nil_append]
    · have hfind : renew? left seeds peer = renew? reported seeds peer := by
        rw [renew?, renew?, hleft, if_neg hdone]
      have hnot : ¬ kept.contains peer.url = true := by
        simpa using fun hmem => hdone ((hkept _).1 hmem).1
      rw [if_neg (by simpa using hdone), List.filterMap_cons, hfind]
      -- the address is done now, and it is kept exactly if its record remains
      have hremains := @renew?_isSome_iff reported seeds peer
      cases hrenewed : renew? reported seeds peer with
      | none =>
        have hgone : ¬(peer.url ∈ reported.map (·.url) ∨ peer.url ∈ seeds) := by
          simpa [hrenewed] using hremains
        rw [Option.toList_none, List.nil_append]
        refine ih (fun url => ?_) (hleft' fun url => List.mem_cons)
        rw [hkept, List.mem_cons, or_and_right]
        refine (or_iff_right ?_).symm
        rintro ⟨rfl, h⟩
        exact hgone h
      | some renewed =>
        have hkeeps : peer.url ∈ reported.map (·.url) ∨ peer.url ∈ seeds := by
          simpa [hrenewed] using hremains
        rw [Option.toList_some, List.singleton_append, firstsAfter, url_of_renew? hrenewed,
          if_neg hnot]
        refine congrArg (renewed :: ·) (ih (fun url => ?_) (hleft' fun url => List.mem_cons))
        rw [List.mem_cons, hkept, List.mem_cons, or_and_right]
        exact or_congr_left (and_iff_left_of_imp fun heq => heq ▸ hkeeps).symm

/-- The peers that are reported and were not known. -/
def newcomers (current reported : List Peer) : List Peer :=
  reported.filter fun peer => !(current.any (·.url == peer.url))

theorem mem_newcomers_iff {current reported : List Peer} {peer : Peer} :
    peer ∈ newcomers current reported ↔ peer ∈ reported ∧ peer.url ∉ current.map (·.url) := by
  simp [newcomers]

theorem urls_renewAll_subset (seeds : List String) (reported current : List Peer) :
    (renewAll seeds reported current).map (·.url) ⊆ current.map (·.url) := by
  induction current generalizing reported with
  | nil => exact List.nil_subset _
  | cons peer rest ih =>
    intro url hurl
    rw [renewAll, List.map_append, List.mem_append] at hurl
    rcases hurl with hurl | hurl
    · obtain ⟨renewed, hrenewed, rfl⟩ := List.mem_map.1 hurl
      rw [url_of_renew? (Option.mem_toList.1 hrenewed)]
      exact List.mem_cons_self ..
    · exact List.mem_cons_of_mem _ (ih _ hurl)

/-- The firsts of a merged list are what remains of the firsts of the known peers, and then those
that are new. -/
theorem firsts_merge {current reported : List Peer} (hordered : PeerList.IsOrdered reported)
    (seeds : List String) : firsts (merge current reported seeds) =
      (firsts current).filterMap (renew? reported seeds) ++ newcomers current reported := by
  have hnodup : ((newcomers current reported).map (·.url)).Nodup :=
    hordered.nodup_urls.sublist (List.filter_sublist.map _)
  have hnew : ∀ other ∈ newcomers current reported,
      other.url ∉ (renewAll seeds reported current).map (·.url) := by
    intro other hother hmem
    exact (mem_newcomers_iff.1 hother).2 (urls_renewAll_subset _ _ _ hmem)
  have hrenewed : firstsAfter [] (renewAll seeds reported current) =
      (firstsAfter [] current).filterMap (renew? reported seeds) :=
    firstsAfter_renewAll (by simp) (by simp)
  rw [firsts, firsts, merge, ← newcomers,
    firstsAfter_append hnodup (fun _ _ => List.not_mem_nil) hnew, hrenewed]

/-! ## The status -/

/-- What is known of a peer after a merge. -/
inductive IsMerged (current reported : List Peer) (seeds : List String) (peer : Peer) : Prop
  /-- Its first record was there and it is reported: with the health of that record and with the
  reported number of flow files. -/
  | renewed {known fresh : Peer} (known_eq : current.find? (·.url == peer.url) = some known)
      (mem_reported : fresh ∈ reported) (url_eq : fresh.url = peer.url)
      (failed_eq : peer.failed = known.failed) (flowFiles_eq : peer.flowFiles = fresh.flowFiles)
  /-- It is a seed and is not reported: as its first record was. -/
  | retained (known_eq : current.find? (·.url == peer.url) = some peer)
      (not_reported : peer.url ∉ reported.map (·.url)) (mem_seeds : peer.url ∈ seeds)
  /-- It is new: healthy, and with the reported number of flow files. -/
  | new (not_known : peer.url ∉ current.map (·.url)) (mem_reported : peer ∈ reported)
      (healthy : peer.failed = false)

/-- Of two peers that rank equal, which one stands first after a merge. -/
inductive ComesFirst (current : List Peer) (a b : Peer) : Prop
  /-- Both were known: the one whose first record stood first. -/
  | known (ha : a.url ∈ current.map (·.url)) (hb : b.url ∈ current.map (·.url))
      (places : firstPlace current a.url < firstPlace current b.url)
  /-- A known one before a new one. -/
  | knownFirst (ha : a.url ∈ current.map (·.url)) (hb : b.url ∉ current.map (·.url))
  /-- Both are new: the one whose address has the lesser bytes. -/
  | new (ha : a.url ∉ current.map (·.url)) (hb : b.url ∉ current.map (·.url))
      (bytes : Text.encode a.url.toList < Text.encode b.url.toList)

theorem pairwise_firsts_merge {current reported : List Peer}
    (hordered : PeerList.IsOrdered reported) (seeds : List String) :
    (firsts (merge current reported seeds)).Pairwise (ComesFirst current) := by
  have hknown : ∀ peer ∈ (firsts current).filterMap (renew? reported seeds),
      peer.url ∈ current.map (·.url) := by
    intro peer hpeer
    obtain ⟨known, hmem, hrenewed⟩ := List.mem_filterMap.1 hpeer
    rw [url_of_renew? hrenewed]
    exact List.mem_map_of_mem (mem_of_mem_firstsAfter hmem)
  rw [firsts_merge hordered, List.pairwise_append]
  refine ⟨?_, ?_, ?_⟩
  · have hplaces := (pairwise_firstsAfter [] current).filterMap
      (S := fun a b => firstPlace current a.url < firstPlace current b.url) (renew? reported seeds)
      fun a b hlt a' ha' b' hb' => by rwa [url_of_renew? ha', url_of_renew? hb']
    exact hplaces.imp_of_mem fun ha hb hlt => .known (hknown _ ha) (hknown _ hb) hlt
  · refine (List.Pairwise.filter _ hordered).imp_of_mem ?_
    intro a b ha hb hlt
    refine .new (mem_newcomers_iff.1 ha).2 (mem_newcomers_iff.1 hb).2 ?_
    exact Text.encode_lt_encode_iff.2 (String.lt_iff.1 hlt)
  · intro a ha b hb
    exact .knownFirst (hknown a ha) (mem_newcomers_iff.1 hb).2

theorem isMerged_of_mem {current reported : List Peer} {seeds : List String} {now : UInt64}
    (hhealthy : ∀ peer ∈ reported, peer.failed = false) {peer : Peer}
    (h : peer ∈ (ofPeers (merge current reported seeds) now).peers) :
    IsMerged current reported seeds peer := by
  have hget := (hasNoRepeats_ofPeers (merge current reported seeds) now).get?_eq_some_iff.2 ⟨h, rfl⟩
  rw [get?_ofPeers, find?_merge] at hget
  split at hget
  · next known hknown =>
    have hurl : known.url = peer.url := by simpa using List.find?_some hknown
    rw [renew?, hurl] at hget
    split at hget
    · next fresh hfresh =>
      obtain rfl := Option.some.inj hget
      exact .renewed hknown (List.mem_of_find?_eq_some hfresh) (by simpa using List.find?_some hfresh)
        rfl rfl
    · next hfresh =>
      split at hget
      · next hseed =>
        obtain rfl := Option.some.inj hget
        exact .retained hknown (by simpa using hfresh) (List.contains_iff_mem.1 hseed)
      · contradiction
  · next hknown =>
    have hmem := List.mem_of_find?_eq_some hget
    exact .new (by simpa using hknown) hmem (hhealthy peer hmem)

/-- **What a status says after a merge**, for any known peers, in which an address may be repeated,
any reported ones, each of them healthy and in order of their addresses, and any seeds:

* it has the addresses that are reported, and those that were known and are seeds, each once;
* each peer is as its first record was, except for the reported number of flow files if it is
  reported, and one that was not known is healthy and has the reported number (`IsMerged`);
* peers stand in the order in which they rank, and those that rank equal in the order of their first
  records, behind which those that are new stand in the order of the bytes of their addresses
  (`ComesFirst`). -/
theorem merged_status {current reported : List Peer} (hordered : PeerList.IsOrdered reported)
    (hhealthy : ∀ peer ∈ reported, peer.failed = false) (seeds : List String) (now : UInt64) :
    let status := ofPeers (merge current reported seeds) now
    status.lastUpdate = now ∧
    status.HasNoRepeats ∧
    (∀ url, url ∈ status.urls ↔
      url ∈ reported.map (·.url) ∨ (url ∈ current.map (·.url) ∧ url ∈ seeds)) ∧
    (∀ peer ∈ status.peers, IsMerged current reported seeds peer) ∧
    status.peers.Pairwise fun a b => a.ranksBefore b ∧ (b.ranksBefore a → ComesFirst current a b) :=
  ⟨rfl, hasNoRepeats_ofPeers .., fun _ => mem_urls_merge_iff, fun _ => isMerged_of_mem hhealthy,
    pairwise_sortBy_stable Peer.ranksBefore_trans Peer.ranksBefore_total
      (pairwise_firsts_merge hordered seeds)⟩

/-- Peers that were known, two of them with two records, and peers that are reported. -/
def mergedCurrent : List Peer :=
  [⟨"b", 5, true⟩, ⟨"d", 2, false⟩, ⟨"a", 1, false⟩, ⟨"b", 3, false⟩, ⟨"s", 2, false⟩,
    ⟨"s", 9, true⟩]

@[inherit_doc mergedCurrent]
def mergedReported : List Peer :=
  [⟨"a", 2, false⟩, ⟨"b", 4, false⟩, ⟨"x", 2, false⟩, ⟨"é", 2, false⟩]

/-- Of peers that are equally good those that were known come first, as they stood before, and of two
records of one address only the first takes what is reported. -/
theorem merged_status_with_repeats :
    let status := ofPeers (merge mergedCurrent mergedReported ["s"]) 7
    status.peers = [⟨"a", 2, false⟩, ⟨"s", 2, false⟩, ⟨"x", 2, false⟩, ⟨"é", 2, false⟩,
      ⟨"b", 4, true⟩] ∧
    status.HasNoRepeats ∧
    (∀ url, url ∈ status.urls ↔
      url ∈ mergedReported.map (·.url) ∨ (url ∈ mergedCurrent.map (·.url) ∧ url ∈ ["s"])) ∧
    (∀ peer ∈ status.peers, IsMerged mergedCurrent mergedReported ["s"] peer) ∧
    status.peers.Pairwise
      fun a b => a.ranksBefore b ∧ (b.ranksBefore a → ComesFirst mergedCurrent a b) := by
  have hordered : PeerList.IsOrdered mergedReported := by
    rw [PeerList.IsOrdered]
    decide +kernel
  exact ⟨by decide +kernel, (merged_status hordered (by decide) ["s"] 7).2⟩

end Tracker

end FlowPeers
