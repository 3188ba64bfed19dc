import FlowPeers.Unicode.Composition.Table

/-!
# Canonical composition

The composed form of a text: its characters are expanded canonically, the marks after each
character are put into the order of their classes, and then each character takes up the marks that
combine with it into one character. Syllables of Hangul are computed, everything else is looked up.
-/

namespace FlowPeers.Unicode

namespace Composition

/-- The first syllable of Hangul, and the first of its initial, medial and final letters, the
letter before the first final one being counted as the absence of one. -/
def firstSyllable : Nat := 0xAC00

@[inherit_doc firstSyllable] def firstInitial : Nat := 0x1100
@[inherit_doc firstSyllable] def firstMedial : Nat := 0x1161
@[inherit_doc firstSyllable] def firstFinal : Nat := 0x11A7

/-- The combining class of a character, zero for one that does not combine. -/
def combiningClass (c : Char) : Nat :=
  match classes.find? c.toNat with
  | some row => row.value
  | none => 0

/-- The canonical expansion of a character. -/
def expand (c : Char) : List Char :=
  let n := c.toNat - firstSyllable
  if firstSyllable ≤ c.toNat && n < 19 * 21 * 28 then
    let final := n % 28
    Char.ofNat (firstInitial + n / (21 * 28)) :: Char.ofNat (firstMedial + n / 28 % 21)
      :: if final == 0 then [] else [Char.ofNat (firstFinal + final)]
  else match expansions.find? c.toNat with
    | some row => row.value
    | none => [c]

/-- The number of a character among the `count` characters from `first` on. -/
def indexFrom? (first count : Nat) (c : Char) : Option Nat :=
  if first ≤ c.toNat && c.toNat < first + count then some (c.toNat - first) else none

/-- The syllable that two letters of Hangul, or a syllable and a final letter, make. -/
def syllable? (a b : Char) : Option Char :=
  match indexFrom? firstInitial 19 a, indexFrom? firstMedial 21 b with
  | some i, some m => some (Char.ofNat (firstSyllable + (i * 21 + m) * 28))
  | _, _ =>
    match indexFrom? firstSyllable (19 * 21 * 28) a, indexFrom? (firstFinal + 1) 27 b with
    | some s, some f => if s % 28 == 0 then some (Char.ofNat (a.toNat + f + 1)) else none
    | _, _ => none

/-- The one character that two make. -/
def pair? (a b : Char) : Option Char :=
  match syllable? a b with
  | some c => some c
  | none => (composites.rows.find? (·.value == [a, b])).map fun row => Char.ofNat row.first

/-- Puts a mark behind the marks of lower classes that follow it. -/
def settle (c : Char) : List Char → List Char
  | [] => [c]
  | d :: rest =>
    if combiningClass d != 0 && combiningClass d < combiningClass c then d :: settle c rest
    else c :: d :: rest

/-- The marks after each character in the order of their classes. -/
def order (s : List Char) : List Char :=
  s.foldr settle []

/-- Composes the characters after `base`, of which `held` are those that it did not take up: a
character is out of its reach if one before it has no lower class. -/
def composeFrom (base : Char) (held : List Char) : List Char → List Char
  | [] => base :: held
  | c :: rest =>
    let reached := match held.getLast? with
      | none => true
      | some last => combiningClass last < combiningClass c
    match (if reached then pair? base c else none) with
    | some composite => composeFrom composite held rest
    | none =>
      if combiningClass c == 0 then base :: held ++ composeFrom c [] rest
      else composeFrom base (held ++ [c]) rest

/-- Composes a text in canonical order. -/
def composeOrdered : List Char → List Char
  | [] => []
  | c :: rest => if combiningClass c == 0 then composeFrom c [] rest else c :: composeOrdered rest

end Composition

/-- The composed form of a text. -/
def compose (s : List Char) : List Char :=
  if s.all (·.toNat < 0x80) then s
  else Composition.composeOrdered (Composition.order (s.flatMap Composition.expand))

end FlowPeers.Unicode
