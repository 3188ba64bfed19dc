import FlowPeers.PeerList
import FlowPeers.PeerStatus
import FlowPeers.PortDirectory
import FlowPeers.Transaction

/-!
# The tracker of a cluster

A tracker knows the peers of a cluster, refreshes what it knows from the list that any of them
serves, and does every operation with the most preferred peer that accepts it. All of this is said
as dialogues from a tracker to the tracker afterwards, with the wall clock as it is when the
operation begins.

* `refresh` asks the peers in order for their list until one is usable, adopts that list and saves
  it; if none is usable nothing changes but the logins.
* `failover` tries an action on the peers in order until it succeeds, and marks every peer on which
  it did not.
* `connect` makes a tracker from the texts of its seed addresses and what was saved before; once
  these texts are read, `connectTo` does the rest.
-/

namespace FlowPeers

/-- What is known of a cluster. -/
structure Tracker where
  /-- The canonical addresses of the peers that the cluster was given by. -/
  seeds : List String
  /-- For how long a list of peers is used before it is refreshed. -/
  interval : Duration
  /-- The logins to peers. -/
  logins : Logins
  /-- The peers in order of preference. -/
  status : PeerStatus
  /-- What is saved. -/
  saved : Option PeerStatus
  deriving DecidableEq, Repr

namespace Tracker

/-- Where a peer serves the list of peers. -/
def peersPath : String := "/site-to-site/peers"

/-- Where a peer serves the description of its ports. -/
def portsPath : String := "/site-to-site"

/-! ## Refreshing -/

/-- A known peer after a refresh: with the reported number of flow files if it is reported, as it
was if it is a seed, and not at all otherwise. -/
def renew? (reported : List Peer) (seeds : List String) (peer : Peer) : Option Peer :=
  match reported.find? (·.url == peer.url) with
  | some fresh => some (peer.setFlowFiles fresh.flowFiles)
  | none => if seeds.contains peer.url then some peer else none

/-- The known peers that remain after a refresh. Of several records of one address only the first
takes what is reported; the others count as not reported. -/
def renewAll (seeds : List String) : List Peer → List Peer → List Peer
  | _, [] => []
  | reported, peer :: rest =>
    (renew? reported seeds peer).toList
      ++ renewAll seeds (reported.filter (·.url != peer.url)) rest

/-- The peers after a refresh: those that were known and remain, then the others that are reported,
in order of their addresses. -/
def merge (current reported : List Peer) (seeds : List String) : List Peer :=
  renewAll seeds reported current
    ++ reported.filter fun peer => !(current.any (·.url == peer.url))

/-- The tracker after a refresh that began at a time and gave a list. -/
def adopt (t : Tracker) (reported : List Peer) (now : UInt64) : Tracker :=
  let status := PeerStatus.ofPeers (merge t.status.peers reported t.seeds) now
  { t with status := status, saved := some status }

/-- The list of peers that a peer serves. -/
def fetchPeers (peer : String) (logins : Logins) : Exchange (List Peer) :=
  let url := peer ++ peersPath
  Exchange.andThen (logins.fetch peer url) fun body =>
    match PeerList.readPeers? body with
    | none => .fail (.invalidPeerList url)
    | some peers => .pure peers

/-- Asks the given peers in order for the list; `failure` is what to report if there is none. -/
def refreshFrom (now : UInt64) (t : Tracker) (failure : Failure) :
    List Peer → Dialogue (Tracker × Except Failure Unit)
  | [] => .done (t, .error failure)
  | peer :: rest =>
    (t.logins.visit peer.url (fetchPeers peer.url)).andThen fun (logins, result) =>
      match result with
      | .ok reported => .done ({ t with logins := logins }.adopt reported now, .ok ())
      | .error failure => refreshFrom now { t with logins := logins } failure rest

/-- Refreshes what is known of the cluster. -/
def refresh (now : UInt64) (t : Tracker) : Dialogue (Tracker × Except Failure Unit) :=
  refreshFrom now t .noPeers t.status.peers

/-- Refreshes what is known of the cluster if that is too old. One reading of the wall clock stands
for two, that for the age of the list and that for the time of the refresh: nothing is waited for
between them. -/
def refreshIfStale (now : UInt64) (t : Tracker) : Dialogue (Tracker × Except Failure Unit) :=
  if t.status.isStale now t.interval then refresh now t else .done (t, .ok ())

/-! ## Failover -/

/-- An action on a peer, which is given by its address. -/
abbrev Action (α : Type) : Type := String → Logins → Exchange α

/-- Tries an action on the given peers in order, the first of which stands at a place of the
status; `failure` is the last failure so far. Peers on which it fails are marked, and the ranking is
renewed if there were any, or if none is left. -/
def tryFrom {α : Type} (action : Action α) (t : Tracker) (place : Nat) (failure : Option Failure) :
    List Peer → Dialogue (Tracker × Except Failure α)
  | [] => .done ({ t with status := t.status.sort }, .error (failure.getD .noPeers))
  | peer :: rest =>
    (t.logins.visit peer.url (action peer.url)).andThen fun (logins, result) =>
      let t := { t with logins := logins }
      match result with
      | .ok value =>
        .done (if failure.isSome then { t with status := t.status.sort } else t, .ok value)
      | .error failure =>
        tryFrom action { t with status := t.status.markFailed place } (place + 1) (some failure)
          rest

/-- Does an action with the most preferred peer that accepts it, after a refresh if one is due. -/
def failover {α : Type} (action : Action α) (now : UInt64) (t : Tracker) :
    Dialogue (Tracker × Except Failure α) :=
  (refreshIfStale now t).andThen fun (t, result) =>
    match result with
    | .error failure => .done (t, .error failure)
    | .ok () => tryFrom action t 0 none t.status.peers

/-- Finds the identifier of a port by its name. -/
def resolvePort (name : String) : Action String := fun peer logins =>
  let url := peer ++ portsPath
  Exchange.andThen (logins.fetch peer url) fun body =>
    match PortDirectory.identifier? body name with
    | none => .fail (.portNotFound url name)
    | some id => .pure id

/-- Opens a transaction for a port. -/
def openTransaction (port : String) : Action Transaction := fun peer logins =>
  Transaction.create peer (logins.authorization? peer) port

/-! ## Connecting -/

/-- The canonical addresses of some texts in order, each once; fails at the first text that gives
none. `seen` are the addresses before, in order. -/
def readSeeds (seen : List String) : List String → Except Failure (List String)
  | [] => .ok seen
  | raw :: rest =>
    match PeerAddress.canonical raw with
    | .error failure => .error failure
    | .ok url => readSeeds (if seen.contains url then seen else seen ++ [url]) rest

/-- The tracker that begins with the seeds alone. -/
def ofSeeds (seeds : List String) (interval : Duration) (logins : Logins) : Tracker where
  seeds := seeds
  interval := interval
  logins := logins
  status := PeerStatus.ofPeers (seeds.map fun url => { url := url, flowFiles := 0 }) 0
  saved := none

/-- Makes a tracker with given seeds: what was saved is used as it is, and otherwise the seeds are
asked. -/
def connectTo (seeds : List String) (interval : Duration) (logins : Logins)
    (saved : Option PeerStatus) (now : UInt64) : Exchange Tracker :=
  match saved with
  | some status => .pure { ofSeeds seeds interval logins with status := status, saved := saved }
  | none =>
    Dialogue.map (fun (t, result) => result.map fun _ => t)
      (refresh now (ofSeeds seeds interval logins))

/-- Makes a tracker from the texts of its seeds, if they give addresses. -/
def connect (raw : List String) (interval : Duration) (logins : Logins)
    (saved : Option PeerStatus) (now : UInt64) : Exchange Tracker :=
  match readSeeds [] raw with
  | .error failure => .fail failure
  | .ok seeds => connectTo seeds interval logins saved now

end Tracker

end FlowPeers
