import FlowPeers.Unicode.Mapping.Table

/-!
# The domain-name mapping

Before two domain names are compared their characters are mapped: letters to lower case, variants
to the letter they stand for. An ASCII character only changes its case; for the others the tables
decide, each of them naming characters that the others do not name.
-/

namespace FlowPeers.Unicode

/-- A capital letter of ASCII as the small one. -/
def lowerAscii (c : Char) : Char :=
  if 'A' ≤ c ∧ c ≤ 'Z' then Char.ofNat (c.toNat + 0x20) else c

/-- What becomes of a character of a domain name; `none` where no domain name may hold it. -/
def mapChar? (c : Char) : Option (List Char) :=
  if c.toNat < 0x80 then some [lowerAscii c]
  else if Mapping.refused.contains c then none
  else if Mapping.leftOut.contains c then some []
  else match Mapping.shifted.find? c.toNat with
    | some row => some [Char.ofNat (row.value + (c.toNat - row.first))]
    | none =>
      match Mapping.paired.find? c.toNat with
      | some row => some [Char.ofNat (c.toNat + 1 - (c.toNat - row.first) % 2)]
      | none =>
        match Mapping.replaced.find? c.toNat with
        | some row => some row.value
        | none => some [c]

/-- The mapped characters of a text, unless one of them is refused. -/
def mapText? : List Char → Option (List Char)
  | [] => some []
  | c :: rest =>
    match mapChar? c, mapText? rest with
    | some mapped, some rest => some (mapped ++ rest)
    | _, _ => none

/-- Whether a character of a domain name stands for itself. -/
def isMapped (c : Char) : Bool :=
  mapChar? c == some [c]

end FlowPeers.Unicode
