import FlowPeers.Host.Ipv6
import FlowPeers.PeerAddress

/-!
# Socket addresses

An address with a port. One of version 6 stands in brackets, with the number of its scope after a
percent sign where that is not zero; if it holds a mapped address of version 4 it is written with
that one in decimal.
-/

namespace FlowPeers

open Text

/-- An address and a port. -/
inductive SocketAddress
  | v4 (ip : Ipv4) (port : UInt16)
  | v6 (ip : Ipv6) (scope : UInt32) (port : UInt16)
  deriving DecidableEq, Repr

namespace SocketAddress

/-- An address of version 6 as a socket address shows it. -/
def printIpv6 (ip : Ipv6) : List Char :=
  match ip.mapped? with
  | some mapped => "::ffff:".toList ++ mapped.print
  | none => ip.print

/-- The written form. -/
def print : SocketAddress → List Char
  | .v4 ip port => ip.print ++ ':' :: decimal port.toNat
  | .v6 ip scope port =>
    '[' :: printIpv6 ip ++ (if scope == 0 then [] else '%' :: decimal scope.toNat)
      ++ ']' :: ':' :: decimal port.toNat

/-- A port, leading zeros allowed. -/
def readPort? (s : List Char) : Option UInt16 :=
  match readDecimal? s with
  | some n => if n < 0x10000 then some (UInt16.ofNat n) else none
  | none => none

/-- A scope after its percent sign; none is the scope zero. -/
def readScope? : List Char → Option UInt32
  | [] => some 0
  | '%' :: digits =>
    match readDecimal? digits with
    | some n => if n < 0x100000000 then some (UInt32.ofNat n) else none
    | none => none
  | _ => none

/-- Reads an address of version 6 after its opening bracket. -/
def readV6? (s : List Char) : Option SocketAddress :=
  let inside := s.takeWhile (· != ']')
  match s.dropWhile (· != ']') with
  | ']' :: ':' :: port =>
    match Ipv6.read? (inside.takeWhile (· != '%')), readScope? (inside.dropWhile (· != '%')),
        readPort? port with
    | some ip, some scope, some port => some (.v6 ip scope port)
    | _, _, _ => none
  | _ => none

/-- Reads a written form. -/
def read? : List Char → Option SocketAddress
  | '[' :: rest => readV6? rest
  | s =>
    match s.dropWhile (· != ':') with
    | _ :: port =>
      match Ipv4.readDotted? (s.takeWhile (· != ':')), readPort? port with
      | some ip, some port => some (.v4 ip port)
      | _, _ => none
    | [] => none

/-- The address of the peer that listens on a socket. -/
def peerUrl (address : SocketAddress) : List Char :=
  "http://".toList ++ address.print ++ PeerAddress.apiRoot.toList

end SocketAddress

end FlowPeers
