import FlowPeers.Host.Ipv4

/-!
# Addresses of version 6

An address is eight groups of sixteen bits. It is written with colons between the groups in
hexadecimal, the first longest stretch of two or more zero groups being left out between two colons.
What is read may leave out any stretch of zero groups, once, and may give the last two groups as an
address of version 4.
-/

namespace FlowPeers

open Text

/-- An address of version 6. -/
structure Ipv6 where
  /-- The groups in order. -/
  groups : List UInt16
  /-- There are eight of them. -/
  length_groups : groups.length = 8
  deriving DecidableEq, Repr

namespace Ipv6

/-- A group of one to four hexadecimal digits. -/
def readGroup? (s : List Char) : Option UInt16 :=
  if s.length ≤ 4 then (readNumber? 16 s).map UInt16.ofNat else none

/-- The two groups that an address of version 4 stands for. -/
def groupsOf (ip : Ipv4) : List UInt16 :=
  [UInt16.ofNat (ip.a.toNat * 256 + ip.b.toNat), UInt16.ofNat (ip.c.toNat * 256 + ip.d.toNat)]

/-- The last groups of an address, an address of version 4 allowed. -/
def readLast? (s : List Char) : Option (List UInt16) :=
  match readGroup? s with
  | some group => some [group]
  | none => (Ipv4.readDotted? s).map groupsOf

/-- The groups that pieces spell, the last one as the last of an address if `isEnd` says so. -/
def readPieces? (isEnd : Bool) : List (List Char) → Option (List UInt16)
  | [] => some []
  | [piece] => if isEnd then readLast? piece else (readGroup? piece).map ([·])
  | piece :: rest =>
    match readGroup? piece, readPieces? isEnd rest with
    | some group, some groups => some (group :: groups)
    | _, _ => none

/-- The groups of a text between two colons or at the ends of an address; none if it is empty. -/
def readGroups? (isEnd : Bool) (s : List Char) : Option (List UInt16) :=
  if s.isEmpty then some [] else readPieces? isEnd (splitOn (· == ':') s)

/-- What stands before and after the first two colons in a row. -/
def splitGap? : List Char → Option (List Char × List Char)
  | ':' :: ':' :: rest => some ([], rest)
  | c :: rest => (splitGap? rest).map fun (before, after) => (c :: before, after)
  | [] => none

/-- The address of the groups on the two sides of a stretch of zero groups. -/
def fill? (before after : List UInt16) : Option Ipv6 :=
  if h : before.length + after.length < 8 then
    some ⟨before ++ List.replicate (8 - (before.length + after.length)) 0 ++ after, by
      simp; omega⟩
  else none

/-- Reads an address. -/
def read? (s : List Char) : Option Ipv6 :=
  match splitGap? s with
  | some (before, after) =>
    match readGroups? false before, readGroups? true after with
    | some before, some after => fill? before after
    | _, _ => none
  | none =>
    match readGroups? true s with
    | some groups => if h : groups.length = 8 then some ⟨groups, h⟩ else none
    | none => none

/-- The number of zero groups at the beginning. -/
def zerosAhead (groups : List UInt16) : Nat :=
  (groups.takeWhile (· == 0)).length

/-- Where the first longest stretch of zero groups begins, and its length. -/
def longestGap : List UInt16 → Nat × Nat
  | [] => (0, 0)
  | group :: rest =>
    let here := zerosAhead (group :: rest)
    let (start, length) := longestGap rest
    if length ≤ here then (0, here) else (start + 1, length)

/-- Groups in hexadecimal with colons between them. -/
def printGroups (groups : List UInt16) : List Char :=
  joinWith [':'] (groups.map fun group => hexadecimal group.toNat)

/-- The written form. -/
def print (ip : Ipv6) : List Char :=
  let (start, length) := longestGap ip.groups
  if length < 2 then printGroups ip.groups
  else printGroups (ip.groups.take start) ++ [':', ':']
    ++ printGroups (ip.groups.drop (start + length))

/-- The address of version 4 that is mapped into version 6. -/
def mapped? (ip : Ipv6) : Option Ipv4 :=
  match ip.groups with
  | [0, 0, 0, 0, 0, 0xFFFF, g, h] => some (Ipv4.ofNat (g.toNat * 0x10000 + h.toNat))
  | _ => none

end Ipv6

end FlowPeers
