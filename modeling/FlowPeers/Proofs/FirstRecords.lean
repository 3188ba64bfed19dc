import FlowPeers.Proofs.Ranking

/-!
# The first records of a list

In a list of peers an address may have several records, which differ in health and in the number of
flow files. A status that is made of the list knows the address from the first of them. These are
the records that stand at the first place of their address (`PeerStatus.firstRecords`), and going
through the list with the addresses that were seen finds just them
(`PeerStatus.firsts_eq_firstRecords`).

Two first records never have the same place, so healthier, less busy and earlier decide which of
them stands before the other (`PeerStatus.Precedes`), and there is one list only in which all of
them stand in this order (`PeerStatus.peers_ofPeers_eq_iff`).
-/

namespace FlowPeers

/-! ## The firsts of a list -/

namespace PeerStatus

theorem mem_of_mem_firstsAfter {seen : List String} {peers : List Peer} {peer : Peer}
    (h : peer ∈ firstsAfter seen peers) : peer ∈ peers := by
  induction peers generalizing seen with
  | nil => exact h
  | cons first rest ih =>
    rw [firstsAfter] at h
    split at h
    · exact List.mem_cons_of_mem _ (ih h)
    · rcases List.mem_cons.1 h with rfl | h
      · exact List.mem_cons_self ..
      · exact List.mem_cons_of_mem _ (ih h)

/-- Peers behind a list remain if they have no repeats and none of the addresses before them. -/
theorem firstsAfter_append {seen : List String} {peers others : List Peer}
    (hnodup : (others.map (·.url)).Nodup) (hseen : ∀ other ∈ others, other.url ∉ seen)
    (hpeers : ∀ other ∈ others, other.url ∉ peers.map (·.url)) :
    firstsAfter seen (peers ++ others) = firstsAfter seen peers ++ others := by
  induction peers generalizing seen with
  | nil => exact firstsAfter_of_nodup hnodup hseen
  | cons peer rest ih =>
    have hrest : ∀ other ∈ others, other.url ∉ rest.map (·.url) := by
      intro other hother hmem
      exact hpeers other hother (List.mem_cons_of_mem _ hmem)
    rw [List.cons_append, firstsAfter, firstsAfter]
    split
    · exact ih hseen hrest
    · rw [List.cons_append, ih ?_ hrest]
      intro other hother hmem
      rcases List.mem_cons.1 hmem with heq | hmem
      · exact hpeers other hother (heq ▸ List.mem_cons_self ..)
      · exact hseen other hother hmem

/-- The place of the first record of an address; an address without a record has the place behind
all of them. -/
def firstPlace (peers : List Peer) (url : String) : Nat :=
  (peers.map (·.url)).idxOf url

theorem firstPlace_cons_self (peer : Peer) (rest : List Peer) :
    firstPlace (peer :: rest) peer.url = 0 :=
  List.idxOf_cons_self

theorem firstPlace_cons_of_ne {peer : Peer} {url : String} (h : peer.url ≠ url)
    (rest : List Peer) : firstPlace (peer :: rest) url = firstPlace rest url + 1 :=
  List.idxOf_cons_ne _ h

/-- The firsts of a list stand in the order of their places. -/
theorem pairwise_firstsAfter (seen : List String) (peers : List Peer) :
    (firstsAfter seen peers).Pairwise
      fun a b => firstPlace peers a.url < firstPlace peers b.url := by
  induction peers generalizing seen with
  | nil => exact .nil
  | cons peer rest ih =>
    -- behind the first record there are only other addresses, one place further than in the rest
    have hshift : ∀ {seen' : List String}, peer.url ∈ seen' → ∀ a ∈ firstsAfter seen' rest,
        firstPlace (peer :: rest) a.url = firstPlace rest a.url + 1 := by
      intro seen' hmem a ha
      refine firstPlace_cons_of_ne ?_ rest
      intro heq
      rw [heq] at hmem
      exact not_mem_urls_firstsAfter hmem (List.mem_map_of_mem ha)
    have hrest : ∀ {seen' : List String}, peer.url ∈ seen' → (firstsAfter seen' rest).Pairwise
        fun a b => firstPlace (peer :: rest) a.url < firstPlace (peer :: rest) b.url := by
      intro seen' hmem
      refine (ih seen').imp_of_mem ?_
      intro a b ha hb hlt
      rw [hshift hmem a ha, hshift hmem b hb]
      exact Nat.succ_lt_succ hlt
    rw [firstsAfter]
    split
    · next hmem => exact hrest (List.contains_iff_mem.1 hmem)
    · have hmem : peer.url ∈ peer.url :: seen := List.mem_cons_self ..
      refine List.pairwise_cons.2 ⟨fun a ha => ?_, hrest hmem⟩
      rw [firstPlace_cons_self, hshift hmem a ha]
      exact Nat.succ_pos _

/-! ## The records at the first place of their address -/

/-- The first record of each address, in the order of the list. -/
def firstRecords (peers : List Peer) : List Peer :=
  (peers.zipIdx.filter fun (peer, place) => firstPlace peers peer.url == place).map (·.1)

/-- A record has the first place of its address if the address is not among those before it. -/
theorem firstPlace_append_cons_eq_iff (earlier : List Peer) (peer : Peer) (rest : List Peer) :
    firstPlace (earlier ++ peer :: rest) peer.url = earlier.length ↔
      peer.url ∉ earlier.map (·.url) := by
  rw [firstPlace, List.map_append, List.map_cons, List.idxOf_append]
  split
  · next hmem =>
    have hlt := List.idxOf_lt_length_of_mem hmem
    rw [List.length_map] at hlt
    exact iff_of_false (Nat.ne_of_lt hlt) (not_not_intro hmem)
  · next hmem =>
    rw [List.idxOf_cons_self, List.length_map, Nat.zero_add]
    exact iff_of_true rfl hmem

/-- The addresses that were seen are those of the peers before, so a record is kept if it stands at
the first place of its address in the whole list. -/
theorem firstsAfter_eq_map_filter (earlier rest : List Peer) {seen : List String}
    (hseen : ∀ url, url ∈ seen ↔ url ∈ earlier.map (·.url)) :
    firstsAfter seen rest = ((rest.zipIdx earlier.length).filter fun (peer, place) =>
      firstPlace (earlier ++ rest) peer.url == place).map (·.1) := by
  induction rest generalizing seen earlier with
  | nil => rfl
  | cons peer rest ih =>
    have hplace := firstPlace_append_cons_eq_iff earlier peer rest
    have hurls : ∀ url, url ∈ (earlier ++ [peer]).map (·.url) ↔ url ∈ seen ∨ url = peer.url := by
      intro url
      rw [List.map_append, List.mem_append, ← hseen, List.map_singleton, List.mem_singleton]
    have hrest := @ih (earlier ++ [peer])
    rw [List.append_assoc, List.singleton_append, List.length_append,
      List.length_singleton] at hrest
    rw [firstsAfter, List.zipIdx_cons, List.filter_cons]
    dsimp only
    by_cases hmem : peer.url ∈ seen
    · rw [if_pos (List.contains_iff_mem.2 hmem),
        if_neg (by simpa [hplace] using (hseen _).1 hmem)]
      refine hrest fun url => ?_
      rw [hurls]
      exact (or_iff_left_of_imp fun heq => heq ▸ hmem).symm
    · rw [if_neg (by simpa using hmem),
        if_pos (by simpa [hplace] using fun h => hmem ((hseen _).2 h)), List.map_cons]
      refine congrArg (peer :: ·) (hrest fun url => ?_)
      rw [hurls, List.mem_cons, or_comm]

theorem firsts_eq_firstRecords (peers : List Peer) : firsts peers = firstRecords peers :=
  firstsAfter_eq_map_filter [] peers (by simp)

/-! ## Their ranking -/

/-- Why a peer stands before another one in the status of a list. -/
inductive Precedes (peers : List Peer) (a b : Peer) : Prop
  /-- It is healthy, and the other one has failed. -/
  | healthier (ha : a.failed = false) (hb : b.failed = true)
  /-- The health of both is the same, and fewer flow files wait on it. -/
  | lessBusy (hfailed : a.failed = b.failed) (hcount : a.flowFiles < b.flowFiles)
  /-- The two rank equal, and the first record of its address comes earlier in the list. -/
  | earlier (hfailed : a.failed = b.failed) (hcount : a.flowFiles = b.flowFiles)
      (hplace : firstPlace peers a.url < firstPlace peers b.url)

section Precedes

variable {peers : List Peer} {a b : Peer}

theorem precedes_iff : Precedes peers a b ↔
    a.ranksBefore b ∧ (b.ranksBefore a → firstPlace peers a.url < firstPlace peers b.url) := by
  rw [Peer.ranksBefore_iff, Peer.ranksBefore_iff]
  constructor
  · intro h
    cases h with
    | healthier ha hb => simp [ha, hb]
    | lessBusy hfailed hcount =>
      refine ⟨.inr ⟨hfailed, UInt64.le_of_lt hcount⟩, ?_⟩
      rintro (⟨hb, ha⟩ | ⟨-, hle⟩)
      · rw [ha, hb] at hfailed
        contradiction
      · exact absurd hcount (UInt64.not_lt.2 hle)
    | earlier hfailed hcount hplace =>
      exact ⟨.inr ⟨hfailed, UInt64.le_of_eq hcount⟩, fun _ => hplace⟩
  · rintro ⟨⟨ha, hb⟩ | ⟨hfailed, hle⟩, hplace⟩
    · exact .healthier ha hb
    · by_cases hcount : a.flowFiles = b.flowFiles
      · exact .earlier hfailed hcount
          (hplace (.inr ⟨hfailed.symm, UInt64.le_of_eq hcount.symm⟩))
      · exact .lessBusy hfailed (UInt64.lt_of_le_of_ne hle hcount)

theorem Precedes.asymm (h : Precedes peers a b) : ¬ Precedes peers b a := by
  intro h'
  obtain ⟨hab, hplace⟩ := precedes_iff.1 h
  obtain ⟨hba, hplace'⟩ := precedes_iff.1 h'
  exact Nat.lt_asymm (hplace hba) (hplace' hab)

end Precedes

theorem perm_firstRecords_ofPeers (peers : List Peer) (lastUpdate : UInt64) :
    (ofPeers peers lastUpdate).peers.Perm (firstRecords peers) :=
  firsts_eq_firstRecords peers ▸ (isRankingOf_rank (firsts peers)).perm

theorem pairwise_precedes_ofPeers (peers : List Peer) (lastUpdate : UInt64) :
    (ofPeers peers lastUpdate).peers.Pairwise (Precedes peers) :=
  (pairwise_sortBy_stable Peer.ranksBefore_trans Peer.ranksBefore_total
    (pairwise_firstsAfter [] peers)).imp precedes_iff.2

/-- The peers of a status are the first records in their order, and no other list is that. -/
theorem peers_ofPeers_eq_iff {peers ranked : List Peer} {lastUpdate : UInt64} :
    (ofPeers peers lastUpdate).peers = ranked ↔
      ranked.Perm (firstRecords peers) ∧ ranked.Pairwise (Precedes peers) := by
  have hperm := perm_firstRecords_ofPeers peers lastUpdate
  have hpairwise := pairwise_precedes_ofPeers peers lastUpdate
  constructor
  · rintro rfl
    exact ⟨hperm, hpairwise⟩
  · rintro ⟨hranked, hordered⟩
    refine List.Perm.eq_of_pairwise ?_ hpairwise hordered (hperm.trans hranked.symm)
    intro a b _ _ hab hba
    exact absurd hba hab.asymm

theorem ofPeers_peers_ofPeers (peers : List Peer) (lastUpdate later : UInt64) :
    ofPeers (ofPeers peers lastUpdate).peers later =
      { ofPeers peers lastUpdate with lastUpdate := later } := by
  rw [ofPeers, (hasNoRepeats_ofPeers peers lastUpdate).firsts_eq,
    (isRanked_ofPeers peers lastUpdate).rank_eq]

theorem IsRanked.sort_eq {status : PeerStatus} (h : status.IsRanked) : status.sort = status := by
  rw [sort, h.rank_eq]

/-- **The status of a list of peers**, in which addresses may be repeated with any health and any
numbers of flow files:

* its peers are the first records of the list in the order of `Precedes`, and no other list is that:
  healthy peers before failed ones, then fewer flow files before more of them, and those that rank
  equal in the order of their first records;
* the record of an address is the first one in the list;
* made again of its own peers, at whatever time, it has the same peers in the same order, and
  sorting it changes nothing. -/
theorem first_records_are_ranked_stably (peers : List Peer) (lastUpdate : UInt64) :
    let status := ofPeers peers lastUpdate
    status.lastUpdate = lastUpdate ∧
    (∀ ranked, status.peers = ranked ↔
      ranked.Perm (firstRecords peers) ∧ ranked.Pairwise (Precedes peers)) ∧
    (∀ url, status.get? url = peers.find? (·.url == url)) ∧
    (∀ later, ofPeers status.peers later = { status with lastUpdate := later }) ∧
    status.sort = status :=
  ⟨rfl, fun _ => peers_ofPeers_eq_iff, get?_ofPeers peers lastUpdate,
    ofPeers_peers_ofPeers peers lastUpdate, (isRanked_ofPeers peers lastUpdate).sort_eq⟩

example : ofPeers [⟨"a", 9, true⟩, ⟨"b", 2, false⟩, ⟨"a", 0, false⟩, ⟨"c", 2, false⟩,
      ⟨"b", 1, true⟩, ⟨"d", 1, false⟩] 7 =
    ⟨[⟨"d", 1, false⟩, ⟨"b", 2, false⟩, ⟨"c", 2, false⟩, ⟨"a", 9, true⟩], 7⟩ := by
  decide +kernel

end PeerStatus

end FlowPeers
