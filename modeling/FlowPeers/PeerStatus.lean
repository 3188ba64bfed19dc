import FlowPeers.Duration
import FlowPeers.Json.Reader
import FlowPeers.Peer
import FlowPeers.Sorting

/-!
# The status of a cluster

A status is the list of the known peers, in the order in which they are preferred, and the time of
the last refresh. `ofPeers` makes one from any list: it keeps the first record of each address and
ranks the peers. A status is saved as JSON and read back as it was, in whatever order it stands.
-/

namespace FlowPeers

/-- The peers that are known, and since when. -/
structure PeerStatus where
  /-- The peers, the preferred ones first. -/
  peers : List Peer
  /-- When they were last refreshed, in milliseconds of the wall clock; zero for never. -/
  lastUpdate : UInt64
  deriving DecidableEq, Repr

namespace PeerStatus

/-- The peers in order of preference; peers of the same rank keep their order. -/
def rank (peers : List Peer) : List Peer :=
  sortBy Peer.ranksBefore peers

/-- The first peer of each address, addresses in `seen` left out. -/
def firstsAfter (seen : List String) : List Peer → List Peer
  | [] => []
  | peer :: rest =>
    if seen.contains peer.url then firstsAfter seen rest
    else peer :: firstsAfter (peer.url :: seen) rest

/-- The first peer of each address. -/
def firsts (peers : List Peer) : List Peer :=
  firstsAfter [] peers

/-- The status of a list of peers. -/
def ofPeers (peers : List Peer) (lastUpdate : UInt64) : PeerStatus :=
  ⟨rank (firsts peers), lastUpdate⟩

/-- The status with its peers in order of preference again. -/
def sort (status : PeerStatus) : PeerStatus :=
  { status with peers := rank status.peers }

/-- The peer of an address. -/
def get? (status : PeerStatus) (url : String) : Option Peer :=
  status.peers.find? (·.url == url)

/-- The status after an operation has failed on the peer at a place. -/
def markFailed (status : PeerStatus) (index : Nat) : PeerStatus :=
  { status with peers := status.peers.modify index Peer.markFailed }

/-- Whether more than the interval has passed since the last refresh. -/
def isStale (status : PeerStatus) (now : UInt64) (interval : Duration) : Bool :=
  interval.toMillis < now.toNat - status.lastUpdate.toNat

/-- The written form of a status. -/
def toJson (status : PeerStatus) : Json :=
  .record [("peers", .list (status.peers.map Peer.toJson)),
    ("lastUpdateMs", .nat status.lastUpdate.toNat)]

/-- Reads a status. -/
def ofJson? (value : Json) : Option PeerStatus :=
  match value.fields? ["peers", "lastUpdateMs"] with
  | some [peers, lastUpdate] =>
    match Json.required? (Json.list? Peer.ofJson?) peers,
        Json.required? Json.uint64? lastUpdate with
    | some peers, some lastUpdate => some ⟨peers, lastUpdate⟩
    | _, _ => none
  | _ => none

/-- Reads the written form of a status. -/
def read? (text : String) : Option PeerStatus :=
  (Json.read? text.toList).bind ofJson?

/-- A status in writing. -/
def print (status : PeerStatus) : String :=
  String.ofList status.toJson.print

end PeerStatus

end FlowPeers
