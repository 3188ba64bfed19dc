import FlowPeers.Sorting

/-!
# Punycode

Labels of a domain name in ASCII: the ASCII characters of the label in order, a hyphen if there are
any, and then for every other character, in ascending order, how far the insertion point moves
before it comes in. A distance is a number of base thirty-six whose digits end at a threshold that
adapts to the distances before it. `decode?` is a fold over the digits of these numbers.
-/

namespace FlowPeers.Domain.Punycode

/-- The digit of a value: the letters, then the decimal digits. -/
def digit (n : Nat) : Char :=
  if n < 26 then Char.ofNat ('a'.toNat + n) else Char.ofNat ('0'.toNat + (n - 26))

/-- The value of a digit, letters of either case. -/
def digitValue? (c : Char) : Option Nat :=
  if 'a' ≤ c ∧ c ≤ 'z' then some (c.toNat - 'a'.toNat)
  else if 'A' ≤ c ∧ c ≤ 'Z' then some (c.toNat - 'A'.toNat)
  else if '0' ≤ c ∧ c ≤ '9' then some (c.toNat - '0'.toNat + 26)
  else none

/-- The threshold of the digit at a place, the first place being thirty-six. -/
def threshold (bias place : Nat) : Nat :=
  if place ≤ bias then 1 else min (place - bias) 26

theorem threshold_pos (bias place : Nat) : 1 ≤ threshold bias place := by
  unfold threshold
  split <;> omega

theorem threshold_le (bias place : Nat) : threshold bias place ≤ 26 := by
  unfold threshold
  split <;> omega

/-- The bias that a scaled distance gives. -/
def biasOf (distance : Nat) : Nat :=
  if 455 < distance then 36 + biasOf (distance / 35)
  else 36 * distance / (distance + 38)
termination_by distance
decreasing_by omega

/-- The bias after a distance, with `count` characters in place then. -/
def adapt (distance count : Nat) (first : Bool) : Nat :=
  let scaled := if first then distance / 700 else distance / 2
  biasOf (scaled + scaled / count)

/-- The digits of a distance from a place on. -/
def digits (bias place distance : Nat) : List Char :=
  let t := threshold bias place
  if distance < t then [digit distance]
  else digit (t + (distance - t) % (36 - t))
    :: digits bias (place + 36) ((distance - t) / (36 - t))
termination_by distance
decreasing_by
  have := threshold_pos bias place
  have := Nat.div_le_self (distance - threshold bias place) (36 - threshold bias place)
  omega

/-- Where the writing of a label stands. -/
structure Writing where
  /-- The digits written. -/
  output : List Char
  /-- The distance since the last insertion. -/
  distance : Nat
  /-- The bias of the next distance. -/
  bias : Nat
  /-- The number of characters in place. -/
  placed : Nat

/-- Passes a character of the label while those with the code point `n` come in; `basic` is the
number of its ASCII characters. -/
def Writing.pass (basic n : Nat) (w : Writing) (c : Char) : Writing :=
  if c.toNat < n then { w with distance := w.distance + 1 }
  else if c.toNat == n then
    { output := w.output ++ digits w.bias 36 w.distance
      distance := 0
      bias := adapt w.distance (w.placed + 1) (w.placed == basic)
      placed := w.placed + 1 }
  else w

/-- Lets the characters of the listed code points come in, all those below `next` being placed. -/
def Writing.insertAll (label : List Char) (basic : Nat) : Nat → List Nat → Writing → Writing
  | _, [], w => w
  | next, n :: rest, w =>
    let start := { w with distance := w.distance + (n - next) * (w.placed + 1) }
    let done := label.foldl (Writing.pass basic n) start
    insertAll label basic (n + 1) rest { done with distance := done.distance + 1 }

/-- The code points beyond ASCII in a label, ascending and each once. -/
def extended (label : List Char) : List Nat :=
  (sortBy (· ≤ ·) ((label.map (·.toNat)).filter (0x80 ≤ ·))).eraseDups

/-- The ASCII form of a label. -/
def encode (label : List Char) : List Char :=
  let basic := label.filter (·.toNat < 0x80)
  let start : Writing := { output := [], distance := 0, bias := 72, placed := basic.length }
  basic ++ (if basic.isEmpty then [] else ['-'])
    ++ (start.insertAll label basic.length 0x80 (extended label)).output

/-- Where the reading of a label stands. -/
structure Reading where
  /-- The characters in place. -/
  label : List Char
  /-- The least code point that may come in next. -/
  next : Nat
  /-- The insertion point. -/
  point : Nat
  /-- The distance read so far. -/
  distance : Nat
  /-- What the next digit of it counts. -/
  weight : Nat
  /-- The place of the next digit. -/
  place : Nat
  /-- The bias of the distance. -/
  bias : Nat

/-- A character put in at a place. -/
def insertAt (c : Char) : Nat → List Char → List Char
  | 0, s => c :: s
  | _, [] => [c]
  | n + 1, d :: rest => d :: insertAt c n rest

/-- Reads one digit; the last digit of a distance lets a character come in. -/
def Reading.step? (r : Reading) (c : Char) : Option Reading :=
  match digitValue? c with
  | none => none
  | some value =>
    let distance := r.distance + value * r.weight
    let t := threshold r.bias r.place
    if value < t then
      let size := r.label.length + 1
      let target := r.point + distance
      let code := r.next + target / size
      if 0x110000 ≤ code ∨ (0xD800 ≤ code ∧ code < 0xE000) then none
      else some
        { label := insertAt (Char.ofNat code) (target % size) r.label
          next := code
          point := target % size + 1
          distance := 0
          weight := 1
          place := 36
          bias := adapt distance size (r.point == 0) }
    else some { r with
      distance := distance
      weight := r.weight * (36 - t)
      place := r.place + 36 }

/-- Reads the distances that the digits spell, each of them to its end. -/
def Reading.run? (r : Reading) : List Char → Option (List Char)
  | [] => if r.place == 36 then some r.label else none
  | c :: rest =>
    match r.step? c with
    | none => none
    | some next => next.run? rest

/-- The ASCII characters in front of the last hyphen and the digits after it. -/
def parts? (s : List Char) : Option (List Char × List Char) :=
  let digits := (s.reverse.takeWhile (· != '-')).reverse
  match s.take (s.length - digits.length) with
  | [] => some ([], digits)
  | ['-'] => none
  | basic => some (basic.dropLast, digits)

/-- The label that an ASCII form stands for. -/
def decode? (s : List Char) : Option (List Char) :=
  match parts? s with
  | none => none
  | some (basic, digits) =>
    if basic.all (·.toNat < 0x80) then
      Reading.run? { label := basic, next := 0x80, point := 0, distance := 0, weight := 1,
                     place := 36, bias := 72 } digits
    else none

end FlowPeers.Domain.Punycode
