/-!
# Numbers as digits

Decimal and hexadecimal digits, read and written. A number is read only from a text that holds
nothing else: `readDecimal?` takes any number of digits, `readSigned?` a leading plus sign too.
-/

namespace FlowPeers.Text

/-- The value of a digit in a base of at most thirty-six, letters of either case. -/
def digitValue? (base : Nat) (c : Char) : Option Nat :=
  let value :=
    if '0' ≤ c ∧ c ≤ '9' then c.toNat - '0'.toNat
    else if 'a' ≤ c ∧ c ≤ 'z' then c.toNat - 'a'.toNat + 10
    else if 'A' ≤ c ∧ c ≤ 'Z' then c.toNat - 'A'.toNat + 10
    else base
  if value < base then some value else none

/-- The number that the digits of a text stand for, the value so far in front. -/
def readDigits? (base : Nat) : Nat → List Char → Option Nat
  | value, [] => some value
  | value, c :: rest =>
    match digitValue? base c with
    | none => none
    | some digit => readDigits? base (value * base + digit) rest

/-- The number in the given base that the whole text spells, if it spells one. -/
def readNumber? (base : Nat) (s : List Char) : Option Nat :=
  if s.isEmpty then none else readDigits? base 0 s

/-- The decimal number that the whole text spells. -/
def readDecimal? (s : List Char) : Option Nat :=
  readNumber? 10 s

/-- The decimal number that the whole text spells, one plus sign in front allowed. -/
def readSigned? : List Char → Option Nat
  | '+' :: rest => readDecimal? rest
  | s => readDecimal? s

/-- The decimal digits of a number, without leading zeros. -/
def decimal (n : Nat) : List Char :=
  Nat.toDigits 10 n

/-- The lower-case hexadecimal digits of a number, without leading zeros. -/
def hexadecimal (n : Nat) : List Char :=
  Nat.toDigits 16 n

/-- A digit of base sixteen in upper case. -/
def upperHexDigit (n : Nat) : Char :=
  if n < 10 then Char.ofNat ('0'.toNat + n) else Char.ofNat ('A'.toNat + (n - 10))

/-- A digit of base sixteen in lower case. -/
def lowerHexDigit (n : Nat) : Char :=
  if n < 10 then Char.ofNat ('0'.toNat + n) else Char.ofNat ('a'.toNat + (n - 10))

end FlowPeers.Text
