import FlowPeers.Text.Decimal
import FlowPeers.Text.Split
import FlowPeers.Url.Error

/-!
# Addresses of version 4

An address is four bytes and is written as their decimal values with dots between them. There are
two ways to read one: `readDotted?` takes that form alone, `readLoose` the forms that stand for an
address in a URL, whose numbers may be octal or hexadecimal and whose last number fills all the
bytes that remain.
-/

namespace FlowPeers

open Text

/-- An address of version 4. -/
structure Ipv4 where
  /-- The first byte. -/
  a : UInt8
  /-- The second byte. -/
  b : UInt8
  /-- The third byte. -/
  c : UInt8
  /-- The fourth byte. -/
  d : UInt8
  deriving DecidableEq, Repr

namespace Ipv4

/-- The address of a number. -/
def ofNat (n : Nat) : Ipv4 where
  a := UInt8.ofNat (n / 0x1000000)
  b := UInt8.ofNat (n / 0x10000)
  c := UInt8.ofNat (n / 0x100)
  d := UInt8.ofNat n

/-- The written form. -/
def print (ip : Ipv4) : List Char :=
  joinWith ['.'] ([ip.a, ip.b, ip.c, ip.d].map fun byte => decimal byte.toNat)

/-- A byte in decimal, without leading zeros. -/
def readByte? (s : List Char) : Option UInt8 :=
  match s, readDecimal? s with
  | '0' :: _ :: _, _ => none
  | _, some n => if n < 256 then some (UInt8.ofNat n) else none
  | _, none => none

/-- Reads the written form. -/
def readDotted? (s : List Char) : Option Ipv4 :=
  match (splitOn (· == '.') s).map readByte? with
  | [some a, some b, some c, some d] => some ⟨a, b, c, d⟩
  | _ => none

/-- A number in a URL: hexadecimal after `0x`, octal after another zero, and decimal otherwise. -/
def readPart? : List Char → Option Nat
  | '0' :: 'x' :: digits | '0' :: 'X' :: digits =>
    if digits.isEmpty then some 0 else readNumber? 16 digits
  | '0' :: c :: digits => readNumber? 8 (c :: digits)
  | s => readNumber? 10 s

/-- The pieces of a host between its dots, without the empty one after a dot at the end. -/
def parts (host : List Char) : List (List Char) :=
  let pieces := splitOn (· == '.') host
  if pieces.getLast? == some [] then pieces.dropLast else pieces

/-- Whether the last piece of a host is a number, so that the host can only be an address. -/
def endsInNumber (host : List Char) : Bool :=
  match (parts host).getLast? with
  | none => false
  | some last => !last.isEmpty && last.all (·.isDigit) || (readPart? last).isSome

/-- The number that the parts of an address stand for: all but the last give a byte each, and the
last gives the bytes that remain. -/
def combine? : Nat → List Nat → Option Nat
  | 0, _ | _, [] => none
  | room + 1, [last] => if last < Nat.pow 256 (room + 1) then some last else none
  | room + 1, n :: rest =>
    match combine? room rest with
    | some tail => if n < 256 then some (n * Nat.pow 256 room + tail) else none
    | none => none

/-- Reads a host that ends in a number. -/
def readLoose (host : List Char) : Except UrlError Ipv4 :=
  match (parts host).mapM readPart? with
  | none => .error .badIpv4
  | some numbers =>
    match combine? 4 numbers with
    | none => .error .badIpv4
    | some n => .ok (ofNat n)

end Ipv4

end FlowPeers
