import FlowPeers.PeerStatus
import FlowPeers.Proofs.JsonRoundTrip

/-!
# The text of a status

A status is read back from the text that is written for it, with its peers in their order, whatever
their addresses are and however often an address is there. A peer that is not said to have failed has
not: a status is also read back from a text that leaves this out of some of its peers, whichever they
are (`PeerStatus.written_status_is_read_back`).
-/

namespace FlowPeers

/-! ## Peers -/

namespace Peer

/-- The written form of a peer that, if it is to be brief, does not say of a healthy peer that it has
not failed. -/
def toJsonBriefly (isBrief : Bool) (peer : Peer) : Json :=
  .record ([("url", .text peer.url), ("flowFileCount", .nat peer.flowFiles.toNat)]
    ++ if isBrief && !peer.failed then [] else [("failed", .bool peer.failed)])

theorem isWellFormed_toJsonBriefly (isBrief : Bool) (peer : Peer) :
    (peer.toJsonBriefly isBrief).IsWellFormed := by
  refine Json.isWellFormed_record ?_
  rw [List.forall_mem_append]
  constructor
  · rw [List.forall_mem_cons, List.forall_mem_singleton]
    exact ⟨Json.isWellFormed_text _, Json.isWellFormed_nat _⟩
  · split
    · exact List.forall_mem_nil _
    · rw [List.forall_mem_singleton]
      exact .bool _

/-- A peer is read back, also if nothing is said of its health when it has not failed. -/
theorem ofJson?_toJsonBriefly (isBrief : Bool) (peer : Peer) :
    ofJson? (peer.toJsonBriefly isBrief) = some peer := by
  obtain ⟨url, flowFiles, failed⟩ := peer
  rw [ofJson?, toJsonBriefly]
  cases hbrief : isBrief && !failed with
  | false =>
    rw [if_neg Bool.false_ne_true, Json.fields?_record (by simp)]
    simp [List.lookup_cons, Json.required?, Json.optional?, Json.bool?]
  | true =>
    have hhealthy : failed = false := by simpa using (Bool.and_eq_true_iff.1 hbrief).2
    rw [if_pos rfl, Json.fields?_record (by simp), hhealthy]
    simp [List.lookup_cons, Json.required?, Json.optional?]

end Peer

/-! ## Statuses -/

namespace PeerStatus

/-- The written form of a status that is brief about some peers, which are given by their places. -/
def toJsonBriefly (isBrief : Nat → Bool) (status : PeerStatus) : Json :=
  .record [("peers", .list (status.peers.zipIdx.map fun (peer, place) =>
      peer.toJsonBriefly (isBrief place))),
    ("lastUpdateMs", .nat status.lastUpdate.toNat)]

/-- A status in writing that is brief about some peers. -/
def printBriefly (isBrief : Nat → Bool) (status : PeerStatus) : String :=
  String.ofList (status.toJsonBriefly isBrief).print

/-- A text that is brief about no peer leaves nothing out. -/
theorem printBriefly_false (status : PeerStatus) :
    status.printBriefly (fun _ => false) = status.print := by
  have hpeers : (status.peers.zipIdx.map fun (peer, _) => peer.toJsonBriefly false) =
      status.peers.map Peer.toJson := by
    conv_rhs => rw [← List.zipIdx_map_fst 0 status.peers, List.map_map]
    rfl
  rw [printBriefly, print, toJsonBriefly, toJson, hpeers]

theorem isWellFormed_toJsonBriefly (isBrief : Nat → Bool) (status : PeerStatus) :
    (status.toJsonBriefly isBrief).IsWellFormed := by
  refine Json.isWellFormed_record ?_
  rw [List.forall_mem_cons, List.forall_mem_singleton]
  refine ⟨?_, Json.isWellFormed_nat _⟩
  exact Json.isWellFormed_list_map (fun _ => Peer.isWellFormed_toJsonBriefly _ _) _

theorem ofJson?_toJsonBriefly (isBrief : Nat → Bool) (status : PeerStatus) :
    ofJson? (status.toJsonBriefly isBrief) = some status := by
  have hplaced : ∀ placed : Peer × Nat,
      Peer.ofJson? (placed.1.toJsonBriefly (isBrief placed.2)) = some placed.1 :=
    fun placed => Peer.ofJson?_toJsonBriefly (isBrief placed.2) placed.1
  have hpeers := Json.list?_map hplaced status.peers.zipIdx
  rw [List.zipIdx_map_fst] at hpeers
  rw [ofJson?, toJsonBriefly, Json.fields?_record (by simp)]
  simp [List.lookup_cons, Json.required?, hpeers]

/-- **A status that is written is read back** as it was, the order of its peers included, and also if
the text does not say of some of its healthy peers, whichever they are, that they have not failed. -/
theorem written_status_is_read_back (status : PeerStatus) :
    read? status.print = some status ∧
      ∀ isBrief : Nat → Bool, read? (status.printBriefly isBrief) = some status := by
  have hbrief : ∀ isBrief : Nat → Bool, read? (status.printBriefly isBrief) = some status := by
    intro isBrief
    rw [read?, printBriefly, String.toList_ofList,
      Json.read?_print (isWellFormed_toJsonBriefly isBrief status), Option.bind_some]
    exact ofJson?_toJsonBriefly isBrief status
  refine ⟨?_, hbrief⟩
  rw [← printBriefly_false]
  exact hbrief _

/-- What is left out of the text, with an address that needs escapes and that is there twice. -/
example : printBriefly (· == 1) ⟨[⟨"\"a\n", 18446744073709551615, true⟩, ⟨"\"a\n", 7, false⟩], 5⟩ =
    "\x7b\"peers\":[\x7b\"url\":\"\\\"a\\n\",\"flowFileCount\":18446744073709551615,\"failed\":true\x7d,"
      ++ "\x7b\"url\":\"\\\"a\\n\",\"flowFileCount\":7\x7d],\"lastUpdateMs\":5\x7d" := by
  decide +kernel

end PeerStatus

end FlowPeers
