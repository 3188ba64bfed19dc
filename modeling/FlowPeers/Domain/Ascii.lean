import FlowPeers.Domain.Label
import FlowPeers.Text.Split

/-!
# Domain names in ASCII

The ASCII form of a domain name: its characters are mapped and composed, each label is checked and
put into ASCII, and no character with a meaning of its own in an address may remain.
-/

namespace FlowPeers.Domain

open Text Unicode

/-- Whether a character has no place in the ASCII form of a domain name: controls, the space and
the separators of an address. -/
def isForbidden (c : Char) : Bool :=
  c.toNat ≤ 0x20 || c.toNat == 0x7F
    || ['%', '#', '/', ':', '<', '>', '?', '@', '[', '\\', ']', '^', '|'].contains c

/-- The labels of a domain name, in the script that they are written in. -/
def labels? (name : List Char) : Option (List (List Char)) :=
  match mapText? name with
  | none => none
  | some mapped => (splitOn (· == '.') (compose mapped)).mapM readLabel?

/-- Whether every label keeps to one direction, if any of them holds a character that is written
from right to left. -/
def keepDirections (labels : List (List Char)) : Bool :=
  !labels.any isBidirectional || labels.all fun label => keepsDirection (label.map direction)

/-- The ASCII form of a domain name. -/
def toAscii? (name : List Char) : Option (List Char) :=
  match labels? name with
  | none => none
  | some labels =>
    let ascii := joinWith ['.'] (labels.map asciiLabel)
    if keepDirections labels && !ascii.any isForbidden then some ascii else none

end FlowPeers.Domain
