import FlowPeers.Json.Reader
import FlowPeers.Peer
import FlowPeers.PeerAddress
import FlowPeers.Text.Blank

/-!
# Lists of peers

A peer serves the list of the members of its cluster. Each entry gives a host, a port, whether the
connection is secure and how many flow files wait. `readPeers?` reads such a list into healthy
peers in order of their canonical addresses, the last entry of an address counting and entries
without a usable address left out. `print` writes a list of members that are not secure.
-/

namespace FlowPeers

open Text

namespace PeerList

/-- An entry of a list. -/
structure Entry where
  /-- The name or the address of the host. -/
  host : String
  /-- The port. -/
  port : UInt16
  /-- Whether the connection is secure. -/
  secure : Bool
  /-- The number of flow files waiting. -/
  flowFiles : UInt64
  deriving DecidableEq, Repr

/-- The host of an entry as an address has it: without blanks at its ends, and in brackets if it
is an address with colons. -/
def Entry.hostText (entry : Entry) : List Char :=
  let host := trim entry.host.toList
  if host.contains ':' && host.head? != some '[' then '[' :: host ++ [']'] else host

/-- The address of an entry before it is made canonical. -/
def Entry.address (entry : Entry) : String :=
  String.ofList ((if entry.secure then "https://" else "http://").toList ++ entry.hostText
    ++ ':' :: decimal entry.port.toNat)

/-- The peer of an entry, if the entry has a usable address. -/
def Entry.peer? (entry : Entry) : Option Peer :=
  match PeerAddress.canonical entry.address with
  | .ok url => some { url := url, flowFiles := entry.flowFiles }
  | .error _ => none

/-- Reads an entry. -/
def Entry.ofJson? (value : Json) : Option Entry :=
  match value.fields? ["hostname", "port", "secure", "flowFileCount"] with
  | some [host, port, secure, flowFiles] =>
    match Json.required? Json.text? host, Json.required? Json.uint16? port,
        Json.optional? false Json.bool? secure, Json.optional? 0 Json.uint64? flowFiles with
    | some host, some port, some secure, some flowFiles => some ⟨host, port, secure, flowFiles⟩
    | _, _, _, _ => none
  | _ => none

/-- The entries of a list. -/
def entries? (value : Json) : Option (List Entry) :=
  match value.fields? ["peers"] with
  | some [peers] => Json.required? (Json.list? Entry.ofJson?) peers
  | _ => none

/-- Puts a peer into a list in order of addresses, in the place of one with its address. -/
def insert (peer : Peer) : List Peer → List Peer
  | [] => [peer]
  | first :: rest =>
    if peer.url < first.url then peer :: first :: rest
    else if peer.url = first.url then peer :: rest
    else first :: insert peer rest

/-- The peers of the entries, in order of addresses. -/
def peersOf (entries : List Entry) : List Peer :=
  (entries.filterMap Entry.peer?).foldl (fun peers peer => insert peer peers) []

/-- Reads a list that a peer serves. -/
def readPeers? (body : List UInt8) : Option (List Peer) :=
  ((Json.readBytes? body).bind entries?).map peersOf

/-- Writes a list of members, each given by host, port and number of waiting flow files. -/
def print (members : List (String × UInt16 × UInt64)) : List Char :=
  Json.print (.record [("peers", .list (members.map fun (host, port, flowFiles) =>
    .record [("flowFileCount", .nat flowFiles.toNat), ("hostname", .text host),
      ("port", .nat port.toNat), ("secure", .bool false)]))])

end PeerList

end FlowPeers
