import FlowPeers.PeerStatus
import Mathlib.Data.List.Nodup
import Mathlib.Tactic.Common

/-!
# Rankings

`Peer.ranksBefore` is a total preorder, healthy peers first and then by the number of waiting flow
files. `IsRankingOf ranked peers` says what it means that a list is the stable ranking of another
one, and `isRankingOf_iff` that `PeerStatus.rank` gives this list and no other.

A status may be ranked (`IsRanked`) and may have no two records of one address (`HasNoRepeats`).
`PeerStatus.ofPeers` always makes one that is both, in which the record of an address is the first
of its list (`get?_ofPeers`); a status that is both already would be left as it is
(`IsRanked.rank_eq`, `HasNoRepeats.firsts_eq`).
-/

namespace FlowPeers

/-! ## The order -/

namespace Peer

theorem ranksBefore_iff {a b : Peer} : a.ranksBefore b ↔
    (a.failed = false ∧ b.failed = true) ∨ (a.failed = b.failed ∧ a.flowFiles ≤ b.flowFiles) := by
  simp [ranksBefore]

theorem ranksBefore_trans (a b c : Peer) (hab : a.ranksBefore b) (hbc : b.ranksBefore c) :
    a.ranksBefore c := by
  rw [ranksBefore_iff] at hab hbc ⊢
  rcases hab with ⟨ha, hb⟩ | ⟨hab, hle⟩
  · rcases hbc with ⟨hb', -⟩ | ⟨hbc, -⟩
    · rw [hb] at hb'
      contradiction
    · exact .inl ⟨ha, hbc ▸ hb⟩
  · rcases hbc with ⟨hb, hc⟩ | ⟨hbc, hle'⟩
    · exact .inl ⟨hab.trans hb, hc⟩
    · exact .inr ⟨hab.trans hbc, UInt64.le_trans hle hle'⟩

theorem ranksBefore_total (a b : Peer) : a.ranksBefore b || b.ranksBefore a := by
  rw [Bool.or_eq_true, ranksBefore_iff, ranksBefore_iff]
  have hle := UInt64.le_total a.flowFiles b.flowFiles
  cases ha : a.failed <;> cases hb : b.failed <;> simp [hle]

/-- Whether a peer has a rank, which is its health and its number of waiting flow files. -/
def hasRank (failed : Bool) (flowFiles : UInt64) (peer : Peer) : Bool :=
  peer.failed == failed && peer.flowFiles == flowFiles

theorem hasRank_iff {failed : Bool} {flowFiles : UInt64} {peer : Peer} :
    peer.hasRank failed flowFiles ↔ peer.failed = failed ∧ peer.flowFiles = flowFiles := by
  simp [hasRank]

theorem hasRank_self (peer : Peer) : peer.hasRank peer.failed peer.flowFiles :=
  hasRank_iff.2 ⟨rfl, rfl⟩

/-- Peers each of which may stand before the other have the same rank. -/
theorem hasRank_of_ranksBefore {a b : Peer} (hab : a.ranksBefore b) (hba : b.ranksBefore a) :
    a.hasRank b.failed b.flowFiles := by
  rw [ranksBefore_iff] at hab hba
  rw [hasRank_iff]
  rcases hab with ⟨ha, hb⟩ | ⟨hfailed, hle⟩
  · rcases hba with ⟨hb', -⟩ | ⟨hfailed, -⟩
    · rw [hb] at hb'
      contradiction
    · rw [ha, hb] at hfailed
      contradiction
  · rcases hba with ⟨hb, ha⟩ | ⟨-, hle'⟩
    · rw [ha, hb] at hfailed
      contradiction
    · exact ⟨hfailed, UInt64.le_antisymm hle hle'⟩

theorem ranksBefore_of_hasRank {failed : Bool} {flowFiles : UInt64} (a b : Peer)
    (ha : a.hasRank failed flowFiles) (hb : b.hasRank failed flowFiles) : a.ranksBefore b := by
  obtain ⟨hf, hc⟩ := hasRank_iff.1 ha
  obtain ⟨hf', hc'⟩ := hasRank_iff.1 hb
  rw [ranksBefore_iff, hf, hf', hc, hc']
  exact .inr ⟨rfl, UInt64.le_refl _⟩

end Peer

/-! ## Stable sorting keeps the items of one rank in their order -/

section Stable

variable {α : Type} {le : α → α → Bool} {p : α → Bool}

theorem filter_insertBy (h : ∀ a b, p a → p b → le a b) (a : α) (s : List α) :
    (insertBy le a s).filter p = (a :: s).filter p := by
  induction s with
  | nil => rfl
  | cons b rest ih =>
    rw [insertBy]
    split
    · rfl
    · next hab =>
      -- the item went past `b`, so the two are not both of the kind that is looked at
      rw [List.filter_cons, ih, List.filter_cons, List.filter_cons, List.filter_cons]
      by_cases ha : p a
      · have hb : p b = false := by
          rw [Bool.eq_false_iff]
          intro hb
          exact hab (h a b ha hb)
        simp [ha, hb]
      · simp [ha]

theorem filter_sortBy (h : ∀ a b, p a → p b → le a b) (s : List α) :
    (sortBy le s).filter p = s.filter p := by
  induction s with
  | nil => rfl
  | cons a rest ih =>
    rw [sortBy, filter_insertBy h, List.filter_cons, List.filter_cons, ih]

theorem pairwise_insertBy_stable {R : α → α → Prop} (trans : ∀ a b c, le a b → le b c → le a c)
    (total : ∀ a b, le a b || le b a) {a : α} {s : List α} (ha : ∀ b ∈ s, R a b)
    (h : s.Pairwise fun a b => le a b ∧ (le b a → R a b)) :
    (insertBy le a s).Pairwise fun a b => le a b ∧ (le b a → R a b) := by
  induction s with
  | nil => exact List.pairwise_singleton _ a
  | cons b rest ih =>
    obtain ⟨hb, hrest⟩ := List.pairwise_cons.1 h
    rw [insertBy]
    split
    · next hab =>
      refine List.pairwise_cons.2 ⟨fun c hc => ⟨?_, fun _ => ha c hc⟩, h⟩
      rcases List.mem_cons.1 hc with rfl | hc
      · exact hab
      · exact trans a b c hab (hb c hc).1
    · next hab =>
      refine List.pairwise_cons.2
        ⟨fun c hc => ?_, ih (fun c hc => ha c (List.mem_cons_of_mem _ hc)) hrest⟩
      rcases List.mem_cons.1 ((insertBy_perm le a rest).mem_iff.1 hc) with rfl | hc
      · have hbc : le b c := by simpa [hab] using total c b
        exact ⟨hbc, fun hcb => absurd hcb hab⟩
      · exact hb c hc

/-- Sorted items stand in order, and those that stand equal are related as they were before. -/
theorem pairwise_sortBy_stable {R : α → α → Prop} (trans : ∀ a b c, le a b → le b c → le a c)
    (total : ∀ a b, le a b || le b a) {s : List α} (h : s.Pairwise R) :
    (sortBy le s).Pairwise fun a b => le a b ∧ (le b a → R a b) := by
  induction s with
  | nil => exact .nil
  | cons a rest ih =>
    obtain ⟨ha, hrest⟩ := List.pairwise_cons.1 h
    exact pairwise_insertBy_stable trans total
      (fun b hb => ha b ((sortBy_perm le rest).mem_iff.1 hb)) (ih hrest)

end Stable

/-- The first list is the stable ranking of the second: it has the same peers, in order of
preference, and peers of the same rank stand in it as they did. -/
structure IsRankingOf (ranked peers : List Peer) : Prop where
  perm : ranked.Perm peers
  ordered : ranked.Pairwise (Peer.ranksBefore · ·)
  stable : ∀ failed flowFiles,
    ranked.filter (Peer.hasRank failed flowFiles) = peers.filter (Peer.hasRank failed flowFiles)

theorem isRankingOf_rank (peers : List Peer) : IsRankingOf (PeerStatus.rank peers) peers where
  perm := sortBy_perm _ peers
  ordered := pairwise_sortBy Peer.ranksBefore_trans Peer.ranksBefore_total peers
  stable := fun _ _ => filter_sortBy Peer.ranksBefore_of_hasRank peers

/-- Lists in order of preference that agree on the peers of every rank are equal. -/
theorem eq_of_filter_hasRank_eq {s t : List Peer} (hs : s.Pairwise (Peer.ranksBefore · ·))
    (ht : t.Pairwise (Peer.ranksBefore · ·)) (h : ∀ failed flowFiles,
      s.filter (Peer.hasRank failed flowFiles) = t.filter (Peer.hasRank failed flowFiles)) :
    s = t := by
  -- a peer of one list is in the other, as it is among those of its own rank
  have mem_of_mem : ∀ {s t : List Peer}, (∀ failed flowFiles,
      s.filter (Peer.hasRank failed flowFiles) = t.filter (Peer.hasRank failed flowFiles)) →
      ∀ a ∈ s, a ∈ t := by
    intro s t h a ha
    have hmem : a ∈ s.filter (Peer.hasRank a.failed a.flowFiles) :=
      List.mem_filter.2 ⟨ha, a.hasRank_self⟩
    rw [h] at hmem
    exact (List.mem_filter.1 hmem).1
  induction s generalizing t with
  | nil =>
    cases t with
    | nil => rfl
    | cons b t => exact absurd (mem_of_mem (fun f c => (h f c).symm) b (by simp)) (by simp)
  | cons a s ih =>
    cases t with
    | nil => exact absurd (mem_of_mem h a (by simp)) (by simp)
    | cons b t =>
      obtain ⟨ha, hs'⟩ := List.pairwise_cons.1 hs
      obtain ⟨hb, ht'⟩ := List.pairwise_cons.1 ht
      have hab : a.ranksBefore b := by
        rcases List.mem_cons.1 (mem_of_mem (fun f c => (h f c).symm) b (by simp)) with rfl | hmem
        · exact Peer.ranksBefore_of_hasRank b b b.hasRank_self b.hasRank_self
        · exact ha b hmem
      have hba : b.ranksBefore a := by
        rcases List.mem_cons.1 (mem_of_mem h a (by simp)) with rfl | hmem
        · exact Peer.ranksBefore_of_hasRank a a a.hasRank_self a.hasRank_self
        · exact hb a hmem
      have heq : a = b := by
        have hrank := h b.failed b.flowFiles
        rw [List.filter_cons_of_pos (Peer.hasRank_of_ranksBefore hab hba),
          List.filter_cons_of_pos b.hasRank_self] at hrank
        exact (List.cons.inj hrank).1
      subst heq
      refine congrArg (a :: ·) (ih hs' ht' fun failed flowFiles => ?_)
      have hrank := h failed flowFiles
      rw [List.filter_cons, List.filter_cons] at hrank
      split at hrank
      · exact (List.cons.inj hrank).2
      · exact hrank

theorem isRankingOf_iff {ranked peers : List Peer} :
    IsRankingOf ranked peers ↔ ranked = PeerStatus.rank peers := by
  constructor
  · intro h
    have hrank := isRankingOf_rank peers
    exact eq_of_filter_hasRank_eq h.ordered hrank.ordered
      fun failed flowFiles => (h.stable failed flowFiles).trans (hrank.stable failed flowFiles).symm
  · rintro rfl
    exact isRankingOf_rank peers

/-! ## Statuses that are ranked and have no repeats -/

namespace PeerStatus

/-- Whether the peers stand in order of preference. -/
def IsRanked (status : PeerStatus) : Prop :=
  status.peers.Pairwise (Peer.ranksBefore · ·)

/-- The addresses of the peers in their order. -/
def urls (status : PeerStatus) : List String :=
  status.peers.map (·.url)

/-- Whether no two records have the same address. -/
def HasNoRepeats (status : PeerStatus) : Prop :=
  status.urls.Nodup

theorem mem_urls_iff {status : PeerStatus} {url : String} :
    url ∈ status.urls ↔ (status.get? url).isSome := by
  rw [get?, List.find?_isSome, urls, List.mem_map]
  simp

theorem not_mem_urls_firstsAfter {seen : List String} {peers : List Peer} {url : String}
    (h : url ∈ seen) : url ∉ (firstsAfter seen peers).map (·.url) := by
  induction peers generalizing seen with
  | nil => simp [firstsAfter]
  | cons peer rest ih =>
    rw [firstsAfter]
    split
    · exact ih h
    · next hpeer =>
      rw [List.map_cons, List.mem_cons, not_or]
      refine ⟨?_, ih (List.mem_cons_of_mem _ h)⟩
      rintro rfl
      exact hpeer (List.contains_iff_mem.2 h)

theorem nodup_urls_firstsAfter (seen : List String) (peers : List Peer) :
    ((firstsAfter seen peers).map (·.url)).Nodup := by
  induction peers generalizing seen with
  | nil => simp [firstsAfter]
  | cons peer rest ih =>
    rw [firstsAfter]
    split
    · exact ih seen
    · rw [List.map_cons, List.nodup_cons]
      exact ⟨not_mem_urls_firstsAfter (List.mem_cons_self ..), ih _⟩

theorem firstsAfter_of_nodup {seen : List String} {peers : List Peer}
    (hnodup : (peers.map (·.url)).Nodup) (hseen : ∀ peer ∈ peers, peer.url ∉ seen) :
    firstsAfter seen peers = peers := by
  induction peers generalizing seen with
  | nil => rfl
  | cons peer rest ih =>
    obtain ⟨hpeer, hrest⟩ := List.nodup_cons.1 (List.map_cons ▸ hnodup)
    have hnew : ¬ seen.contains peer.url = true := by
      simpa using hseen peer (List.mem_cons_self ..)
    rw [firstsAfter, if_neg hnew, ih hrest]
    intro other hother hmem
    rcases List.mem_cons.1 hmem with heq | hmem
    · exact hpeer (heq ▸ List.mem_map_of_mem hother)
    · exact hseen other (List.mem_cons_of_mem _ hother) hmem

theorem find?_firstsAfter {seen : List String} (peers : List Peer) {url : String}
    (h : url ∉ seen) :
    (firstsAfter seen peers).find? (·.url == url) = peers.find? (·.url == url) := by
  induction peers generalizing seen with
  | nil => rfl
  | cons peer rest ih =>
    rw [firstsAfter]
    by_cases hurl : peer.url = url
    · have hseen : ¬ seen.contains peer.url = true := by
        rw [hurl]
        simpa using h
      rw [if_neg hseen, List.find?_cons_of_pos (by simpa using hurl),
        List.find?_cons_of_pos (by simpa using hurl)]
    · rw [List.find?_cons_of_neg (by simpa using hurl)]
      split
      · exact ih h
      · rw [List.find?_cons_of_neg (by simpa using hurl)]
        refine ih ?_
        rw [List.mem_cons, not_or]
        exact ⟨fun heq => hurl heq.symm, h⟩

theorem isRanked_ofPeers (peers : List Peer) (lastUpdate : UInt64) :
    (ofPeers peers lastUpdate).IsRanked :=
  (isRankingOf_rank _).ordered

theorem hasNoRepeats_ofPeers (peers : List Peer) (lastUpdate : UInt64) :
    (ofPeers peers lastUpdate).HasNoRepeats :=
  ((isRankingOf_rank (firsts peers)).perm.map _).nodup_iff.2 (nodup_urls_firstsAfter [] peers)

/-- What stands ranked stays as it stands. -/
theorem IsRanked.rank_eq {status : PeerStatus} (h : status.IsRanked) :
    rank status.peers = status.peers :=
  (isRankingOf_iff.1 ⟨.refl _, h, fun _ _ => rfl⟩).symm

/-- What has no repeats is kept as it is. -/
theorem HasNoRepeats.firsts_eq {status : PeerStatus} (h : status.HasNoRepeats) :
    firsts status.peers = status.peers :=
  firstsAfter_of_nodup h fun _ _ => List.not_mem_nil

/-- Without repeats the record of an address is the one that has it. -/
theorem HasNoRepeats.get?_eq_some_iff {status : PeerStatus} (h : status.HasNoRepeats)
    {url : String} {peer : Peer} :
    status.get? url = some peer ↔ peer ∈ status.peers ∧ peer.url = url := by
  rw [get?]
  constructor
  · intro hget
    exact ⟨List.mem_of_find?_eq_some hget, by simpa using List.find?_some hget⟩
  · rintro ⟨hmem, rfl⟩
    obtain ⟨other, hother⟩ : ∃ other, status.peers.find? (·.url == peer.url) = some other := by
      rw [← Option.isSome_iff_exists, List.find?_isSome]
      exact ⟨peer, hmem, by simp⟩
    have hurl : other.url = peer.url := by simpa using List.find?_some hother
    rw [hother, List.inj_on_of_nodup_map h (List.mem_of_find?_eq_some hother) hmem hurl]

theorem get?_ofPeers (peers : List Peer) (lastUpdate : UInt64) (url : String) :
    (ofPeers peers lastUpdate).get? url = peers.find? (·.url == url) := by
  have hperm : (ofPeers peers lastUpdate).peers.Perm (firsts peers) :=
    (isRankingOf_rank (firsts peers)).perm
  have hfirsts : (PeerStatus.mk (firsts peers) lastUpdate).HasNoRepeats :=
    nodup_urls_firstsAfter [] peers
  rw [← find?_firstsAfter peers (List.not_mem_nil : url ∉ [])]
  refine Option.ext fun peer => ?_
  rw [(hasNoRepeats_ofPeers peers lastUpdate).get?_eq_some_iff, hperm.mem_iff]
  exact hfirsts.get?_eq_some_iff.symm

end PeerStatus

end FlowPeers
