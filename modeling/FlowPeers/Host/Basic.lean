import FlowPeers.Domain.Ascii
import FlowPeers.Host.Ipv6
import FlowPeers.Text.Percent

/-!
# Hosts

A host is a domain name in ASCII or an address. In a URL whose scheme is one of those for the web a
name is decoded and put into ASCII, and one that ends in a number must be an address of version 4;
in any other URL a name is kept, its controls and non-ASCII characters percent-encoded. Brackets
hold an address of version 6.
-/

namespace FlowPeers

open Text

/-- A host as a URL names it. -/
inductive Host
  | domain (name : List Char)
  | ipv4 (ip : Ipv4)
  | ipv6 (ip : Ipv6)
  deriving DecidableEq, Repr

namespace Host

/-- The written form. -/
def print : Host → List Char
  | .domain name => name
  | .ipv4 ip => ip.print
  | .ipv6 ip => '[' :: ip.print ++ [']']

/-- Whether a character cannot stand in a host that is kept as it is. -/
def isForbidden (c : Char) : Bool :=
  c == '\x00' || "\t\n\r #/:<>?@[\\]^|".toList.contains c

/-- Whether a character is a control of ASCII. -/
def isControl (c : Char) : Bool :=
  c.toNat < 0x20 || c.toNat == 0x7F

/-- Reads what stands in brackets, up to the closing one at the end. -/
def readBracketed (s : List Char) : Except UrlError Host :=
  if s.getLast? == some ']' then
    match Ipv6.read? s.dropLast with
    | some ip => .ok (.ipv6 ip)
    | none => .error .badIpv6
  else .error .badIpv6

/-- Reads a host of a scheme for the web. -/
def readWeb : List Char → Except UrlError Host
  | '[' :: rest => readBracketed rest
  | s =>
    match (decodeStrict? (percentDecode s)).bind Domain.toAscii? with
    | none => .error .badDomainName
    | some [] => .error .emptyHost
    | some name =>
      if Ipv4.endsInNumber name then (Ipv4.readLoose name).map .ipv4 else .ok (.domain name)

/-- Reads a host of any other scheme. -/
def readOpaque : List Char → Except UrlError Host
  | '[' :: rest => readBracketed rest
  | s =>
    if s.any isForbidden then .error .badHostCharacter
    else .ok (.domain (percentEncode isControl s))

end Host

end FlowPeers
