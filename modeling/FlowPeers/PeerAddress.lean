import FlowPeers.Failure
import FlowPeers.Url.Read

/-!
# Addresses of peers

A peer is known by one text, its canonical address: scheme, host and port of its URL, and the root
of its interface. Every writing of the same address gives the same text, so texts can be compared
instead of addresses.
-/

namespace FlowPeers

namespace PeerAddress

open Text

/-- The root of the interface, where every canonical address ends. -/
def apiRoot : String := "/nifi-api"

/-- The canonical address of a scheme, a host and a port. -/
def render (scheme : List Char) (host : Host) (port : Option UInt16) : String :=
  String.ofList (scheme ++ [':', '/', '/'] ++ host.print
    ++ (match port with
      | some port => ':' :: decimal port.toNat
      | none => [])
    ++ apiRoot.toList)

/-- The host of a URL, unless it is empty. -/
def host? (url : Url) : Option Host :=
  url.host?.filter fun host => !host.print.isEmpty

/-- The canonical address that a text gives. Path, query, fragment and user of the text are dropped,
and the usual port of the scheme stands in for a missing one. -/
def canonical (raw : String) : Except Failure String :=
  match Url.parse raw.toList with
  | .error cause => .error (.invalidUrl raw cause)
  | .ok url =>
    match host? url with
    | none => .error (.missingHost raw)
    | some host => .ok (render url.scheme host url.port?)

end PeerAddress

end FlowPeers
