import FlowPeers.Json.Record

/-!
# Peers

What is known of a member of a cluster: its address, how many flow files wait on it, and whether it
has failed.
-/

namespace FlowPeers

/-- A member of a cluster. -/
structure Peer where
  /-- Its canonical address. -/
  url : String
  /-- The number of flow files waiting on it, as last reported. -/
  flowFiles : UInt64
  /-- Whether an operation has failed on it. -/
  failed : Bool := false
  deriving DecidableEq, Repr

namespace Peer

/-- The peer after an operation has failed on it. -/
def markFailed (peer : Peer) : Peer :=
  { peer with failed := true }

/-- The peer with another number of waiting flow files. -/
def setFlowFiles (peer : Peer) (count : UInt64) : Peer :=
  { peer with flowFiles := count }

/-- Whether the first peer is at least as good a choice as the second: a healthy one before a
failed one, and then one with fewer flow files waiting. -/
def ranksBefore (a b : Peer) : Bool :=
  !a.failed && b.failed || a.failed == b.failed && a.flowFiles ≤ b.flowFiles

/-- The written form of a peer. -/
def toJson (peer : Peer) : Json :=
  .record [("url", .text peer.url), ("flowFileCount", .nat peer.flowFiles.toNat),
    ("failed", .bool peer.failed)]

/-- Reads a peer; one that is not said to have failed has not. -/
def ofJson? (value : Json) : Option Peer :=
  match value.fields? ["url", "flowFileCount", "failed"] with
  | some [url, count, failed] =>
    match Json.required? Json.text? url, Json.required? Json.uint64? count,
        Json.optional? false Json.bool? failed with
    | some url, some count, some failed => some ⟨url, count, failed⟩
    | _, _, _ => none
  | _ => none

end Peer

end FlowPeers
