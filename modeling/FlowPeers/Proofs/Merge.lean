import FlowPeers.Proofs.Ranking
import FlowPeers.Proofs.Visit

/-!
# Adopting a list of peers

A list that a peer serves is read into healthy peers in order of their addresses, each address once
(`PeerList.isOrdered_readPeers?`, `PeerList.healthy_readPeers?`). A tracker that adopts it knows each
address from one record (`Tracker.get?_adopt`): a known one is kept if it is reported or a seed,
with the reported number of flow files and with its health as it was, and any other one is the
reported one.
-/

namespace FlowPeers

open Dialogue

/-! ## Lists that are served -/

namespace PeerList

/-- Whether the addresses of a list are in order, each of them once. -/
def IsOrdered (peers : List Peer) : Prop :=
  peers.Pairwise (·.url < ·.url)

theorem IsOrdered.nodup_urls {peers : List Peer} (h : IsOrdered peers) :
    (peers.map (·.url)).Nodup := by
  rw [List.Nodup, List.pairwise_map]
  refine h.imp ?_
  intro a b hlt heq
  rw [heq] at hlt
  exact String.lt_irrefl _ hlt

theorem mem_of_mem_insert {peer other : Peer} {peers : List Peer} (h : other ∈ insert peer peers) :
    other = peer ∨ other ∈ peers := by
  induction peers with
  | nil => simpa [insert] using h
  | cons first rest ih =>
    rw [insert] at h
    split at h
    · simpa using h
    · split at h
      · rcases List.mem_cons.1 h with rfl | h
        · exact .inl rfl
        · exact .inr (List.mem_cons_of_mem _ h)
      · rcases List.mem_cons.1 h with rfl | h
        · exact .inr (List.mem_cons_self ..)
        · rcases ih h with rfl | h
          · exact .inl rfl
          · exact .inr (List.mem_cons_of_mem _ h)

theorem isOrdered_insert {peers : List Peer} (h : IsOrdered peers) (peer : Peer) :
    IsOrdered (insert peer peers) := by
  induction peers with
  | nil => exact List.pairwise_singleton _ peer
  | cons first rest ih =>
    obtain ⟨hfirst, hrest⟩ := List.pairwise_cons.1 h
    rw [insert]
    split
    · next hlt =>
      refine List.pairwise_cons.2 ⟨?_, h⟩
      intro other hother
      rcases List.mem_cons.1 hother with rfl | hother
      · exact hlt
      · exact String.lt_trans hlt (hfirst other hother)
    · next hlt =>
      split
      · next heq =>
        refine List.pairwise_cons.2 ⟨?_, hrest⟩
        intro other hother
        rw [heq]
        exact hfirst other hother
      · next hne =>
        refine List.pairwise_cons.2 ⟨?_, ih hrest⟩
        intro other hother
        rcases mem_of_mem_insert hother with rfl | hother
        · have hle : first.url ≤ other.url := String.not_lt.1 hlt
          by_contra hnot
          exact hne (String.le_antisymm (String.not_lt.1 hnot) hle)
        · exact hfirst other hother

/-- The peer of an entry has the canonical address of the entry and its flow files, and is healthy. -/
theorem Entry.peer?_eq_some_iff {entry : Entry} {peer : Peer} : entry.peer? = some peer ↔
    PeerAddress.canonical entry.address = .ok peer.url ∧ peer.flowFiles = entry.flowFiles ∧
      peer.failed = false := by
  obtain ⟨url, flowFiles, failed⟩ := peer
  rw [Entry.peer?]
  cases PeerAddress.canonical entry.address with
  | error failure => simp
  | ok found => simp [eq_comm]

/-- What holds of the peers of all entries holds of all peers that are read. -/
theorem forall_mem_peersOf {p : Peer → Prop} {entries : List Entry}
    (h : ∀ entry ∈ entries, ∀ peer, entry.peer? = some peer → p peer) :
    ∀ peer ∈ peersOf entries, p peer := by
  have hfold : ∀ peers : List Peer, (∀ peer ∈ peers, p peer) → ∀ read : List Peer,
      (∀ peer ∈ read, p peer) →
      ∀ peer ∈ read.foldl (fun peers peer => insert peer peers) peers, p peer := by
    intro peers hpeers read hread
    induction read generalizing peers with
    | nil => exact hpeers
    | cons first read ih =>
      refine ih _ ?_ fun peer hpeer => hread peer (List.mem_cons_of_mem _ hpeer)
      intro peer hpeer
      rcases mem_of_mem_insert hpeer with rfl | hpeer
      · exact hread peer (List.mem_cons_self ..)
      · exact hpeers peer hpeer
  refine hfold [] (by simp) _ ?_
  intro peer hpeer
  obtain ⟨entry, hentry, hread⟩ := List.mem_filterMap.1 hpeer
  exact h entry hentry peer hread

theorem isOrdered_peersOf (entries : List Entry) : IsOrdered (peersOf entries) := by
  have hfold : ∀ peers : List Peer, IsOrdered peers → ∀ read : List Peer,
      IsOrdered (read.foldl (fun peers peer => insert peer peers) peers) := by
    intro peers hpeers read
    induction read generalizing peers with
    | nil => exact hpeers
    | cons first read ih => exact ih _ (isOrdered_insert hpeers first)
  exact hfold [] List.Pairwise.nil _

theorem readPeers?_eq_some {body : List UInt8} {peers : List Peer}
    (h : readPeers? body = some peers) : ∃ entries, peers = peersOf entries := by
  obtain ⟨entries, -, rfl⟩ := Option.map_eq_some_iff.1 h
  exact ⟨entries, rfl⟩

theorem isOrdered_readPeers? {body : List UInt8} {peers : List Peer}
    (h : readPeers? body = some peers) : IsOrdered peers := by
  obtain ⟨entries, rfl⟩ := readPeers?_eq_some h
  exact isOrdered_peersOf entries

theorem healthy_readPeers? {body : List UInt8} {peers : List Peer}
    (h : readPeers? body = some peers) : ∀ peer ∈ peers, peer.failed = false := by
  obtain ⟨entries, rfl⟩ := readPeers?_eq_some h
  refine forall_mem_peersOf ?_
  intro entry _ peer hpeer
  exact (Entry.peer?_eq_some_iff.1 hpeer).2.2

end PeerList

namespace Tracker

/-- What comes of asking a peer for its list was read from a body. -/
theorem readPeers?_of_isOf {v : Visit (List Peer)} (hv : v.IsOf fetchPeers) {reported : List Peer}
    (h : v.result = .ok reported) : ∃ body, PeerList.readPeers? body = some reported := by
  rcases Logins.runs_visit_iff.1 hv with ⟨_, _, _, hfail⟩ | ⟨_, _, _, haction, _⟩
  · rw [h] at hfail
    contradiction
  · rw [h] at haction
    obtain ⟨_, _, body, -, -, -, -, hlist⟩ := runs_fetchPeers_ok_iff.1 haction
    exact ⟨body, hlist⟩

/-! ## Merging -/

theorem url_of_renew? {reported : List Peer} {seeds : List String} {peer renewed : Peer}
    (h : renew? reported seeds peer = some renewed) : renewed.url = peer.url := by
  rw [renew?] at h
  split at h
  · cases h
    rfl
  · split at h
    · cases h
      rfl
    · contradiction

/-- A known peer remains if it is reported or a seed. -/
theorem renew?_isSome_iff {reported : List Peer} {seeds : List String} {peer : Peer} :
    (renew? reported seeds peer).isSome ↔
      peer.url ∈ reported.map (·.url) ∨ peer.url ∈ seeds := by
  have hreported : peer.url ∈ reported.map (·.url) ↔
      (reported.find? (·.url == peer.url)).isSome := by
    rw [List.find?_isSome, List.mem_map]
    simp
  rw [renew?, hreported]
  cases reported.find? (·.url == peer.url) with
  | some fresh => simp
  | none => by_cases hseed : peer.url ∈ seeds <;> simp [hseed]

theorem find?_filter_url {peers : List Peer} {url other : String} (h : url ≠ other) :
    (peers.filter (·.url != other)).find? (·.url == url) = peers.find? (·.url == url) := by
  rw [List.find?_filter]
  congr 1
  funext peer
  by_cases hurl : peer.url = url
  · simp [hurl, h]
  · simp [hurl]

theorem renew?_filter {reported : List Peer} {seeds : List String} {peer : Peer} {other : String}
    (h : peer.url ≠ other) :
    renew? (reported.filter (·.url != other)) seeds peer = renew? reported seeds peer := by
  rw [renew?, renew?, find?_filter_url h]

/-- Of several records of one address only the first can remain with what is reported, and if it
does not remain then none does. -/
theorem find?_renewAll (seeds : List String) (reported current : List Peer) (url : String) :
    (renewAll seeds reported current).find? (·.url == url) =
      (current.find? (·.url == url)).bind (renew? reported seeds) := by
  induction current generalizing reported with
  | nil => rfl
  | cons peer rest ih =>
    rw [renewAll, List.find?_append, ih]
    by_cases hurl : peer.url = url
    · rw [List.find?_cons_of_pos (by simpa using hurl), Option.bind_some]
      cases hrenewed : renew? reported seeds peer with
      | some renewed => simp [url_of_renew? hrenewed, hurl]
      | none =>
        cases hother : rest.find? (·.url == url) with
        | none => rfl
        | some other =>
          -- the address is not reported any more, and it is not a seed either
          have heq : other.url = peer.url := by
            rw [hurl]
            simpa using List.find?_some hother
          have hseeds : peer.url ∉ seeds := by
            rw [renew?] at hrenewed
            split at hrenewed
            · contradiction
            · simpa using hrenewed
          have hreported : (reported.filter (·.url != peer.url)).find? (·.url == peer.url) =
              none := by
            simp [List.find?_eq_none]
          simp [renew?, heq, hreported, hseeds]
    · rw [List.find?_cons_of_neg (by simpa using hurl)]
      have hhead : ((renew? reported seeds peer).toList).find? (·.url == url) = none := by
        rw [List.find?_eq_none]
        intro renewed hrenewed
        rw [Option.mem_toList] at hrenewed
        rw [url_of_renew? hrenewed]
        simpa using hurl
      rw [hhead, Option.none_or]
      cases hother : rest.find? (·.url == url) with
      | none => rfl
      | some other =>
        have heq : other.url = url := by simpa using List.find?_some hother
        exact renew?_filter fun h => hurl (h.symm.trans heq)

theorem find?_merge (current reported : List Peer) (seeds : List String) (url : String) :
    (merge current reported seeds).find? (·.url == url) =
      match current.find? (·.url == url) with
      | some peer => renew? reported seeds peer
      | none => reported.find? (·.url == url) := by
  rw [merge, List.find?_append, find?_renewAll]
  cases hknown : current.find? (·.url == url) with
  | some peer =>
    have hurl : peer.url = url := by simpa using List.find?_some hknown
    have hnone : (reported.filter fun other => !(current.any (·.url == other.url))).find?
        (·.url == url) = none := by
      rw [List.find?_eq_none]
      intro other hother hurl'
      obtain ⟨-, hany⟩ := List.mem_filter.1 hother
      rw [Bool.not_eq_true', List.any_eq_false] at hany
      refine hany peer (List.mem_of_find?_eq_some hknown) ?_
      rw [beq_iff_eq] at hurl' ⊢
      rw [hurl, hurl']
    rw [hnone, Option.or_none, Option.bind_some]
  | none =>
    rw [Option.bind_none, Option.none_or, List.find?_filter]
    congr 1
    funext other
    by_cases hurl : other.url = url
    · simpa [hurl] using List.find?_eq_none.1 hknown
    · simp [hurl]

/-- The addresses after a merge are those that are reported, and the seeds among those that were
known. -/
theorem mem_urls_merge_iff {current reported : List Peer} {seeds : List String} {now : UInt64}
    {url : String} : url ∈ (PeerStatus.ofPeers (merge current reported seeds) now).urls ↔
      url ∈ reported.map (·.url) ∨ (url ∈ current.map (·.url) ∧ url ∈ seeds) := by
  have hcurrent : url ∈ current.map (·.url) ↔ (current.find? (·.url == url)).isSome :=
    @PeerStatus.mem_urls_iff ⟨current, now⟩ url
  rw [PeerStatus.mem_urls_iff, PeerStatus.get?_ofPeers, find?_merge, hcurrent]
  cases hknown : current.find? (·.url == url) with
  | some peer =>
    have hurl : peer.url = url := by simpa using List.find?_some hknown
    simp only [renew?_isSome_iff, hurl, Option.isSome_some, true_and]
  | none =>
    rw [List.find?_isSome, List.mem_map]
    simp

/-- What a tracker knows of an address after it has adopted a list. -/
theorem get?_adopt (t : Tracker) (reported : List Peer) (now : UInt64) (url : String) :
    (t.adopt reported now).status.get? url =
      match t.status.get? url with
      | some peer => renew? reported t.seeds peer
      | none => reported.find? (·.url == url) := by
  rw [adopt, PeerStatus.get?_ofPeers, find?_merge]
  rfl

theorem isRanked_adopt (t : Tracker) (reported : List Peer) (now : UInt64) :
    (t.adopt reported now).status.IsRanked :=
  PeerStatus.isRanked_ofPeers ..

theorem hasNoRepeats_adopt (t : Tracker) (reported : List Peer) (now : UInt64) :
    (t.adopt reported now).status.HasNoRepeats :=
  PeerStatus.hasNoRepeats_ofPeers ..

end Tracker

end FlowPeers
