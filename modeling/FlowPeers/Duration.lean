import FlowPeers.Text.Decimal

/-!
# Durations

A duration is a number of nanoseconds. It is shown in the largest unit of which it has one at least,
with as many decimal places as it needs.
-/

namespace FlowPeers

open Text

/-- A stretch of time. -/
structure Duration where
  /-- Its length in nanoseconds. -/
  nanos : Nat
  deriving DecidableEq, Repr

namespace Duration

/-- A number of seconds. -/
def ofSeconds (n : Nat) : Duration := ⟨n * 1000000000⟩

/-- A number of milliseconds. -/
def ofMillis (n : Nat) : Duration := ⟨n * 1000000⟩

/-- The number of whole milliseconds. -/
def toMillis (d : Duration) : Nat :=
  d.nanos / 1000000

/-- The decimal places of a fraction of a unit with that many places, without zeros at the end. -/
def places (count fraction : Nat) : List Char :=
  let digits := decimal fraction
  ((List.replicate (count - digits.length) '0' ++ digits).reverse.dropWhile (· == '0')).reverse

/-- A number of units of `10 ^ count` nanoseconds. -/
def inUnit (count : Nat) (symbol : String) (nanos : Nat) : String :=
  let unit := Nat.pow 10 count
  let fraction := places count (nanos % unit)
  String.ofList (decimal (nanos / unit) ++ if fraction.isEmpty then [] else '.' :: fraction)
    ++ symbol

/-- A duration as it is shown. -/
def text (d : Duration) : String :=
  if 1000000000 ≤ d.nanos then inUnit 9 "s" d.nanos
  else if 1000000 ≤ d.nanos then inUnit 6 "ms" d.nanos
  else if 1000 ≤ d.nanos then inUnit 3 "µs" d.nanos
  else inUnit 0 "ns" d.nanos

end Duration

end FlowPeers
