import FlowPeers.Text.Decimal
import FlowPeers.Text.Utf8

/-!
# Percent-encoding

A byte is written as a percent sign and two hexadecimal digits in upper case. Which ASCII
characters are written so is a set that the place in an address decides; a character beyond ASCII
always is, byte by byte of its UTF-8 form. Reading takes digits of either case and leaves a
percent sign that no two digits follow as it is.
-/

namespace FlowPeers.Text

/-- A percent sign and the two digits of a byte. -/
def percentByte (b : UInt8) : List Char :=
  ['%', upperHexDigit (b.toNat / 16), upperHexDigit (b.toNat % 16)]

/-- A character as it stands, or percent-encoded if it is in the set or beyond ASCII. -/
def percentChar (escaped : Char → Bool) (c : Char) : List Char :=
  if c.toNat < 0x80 && !escaped c then [c]
  else (String.utf8EncodeChar c).flatMap percentByte

/-- A text with the characters of the set percent-encoded. -/
def percentEncode (escaped : Char → Bool) (s : List Char) : List Char :=
  s.flatMap (percentChar escaped)

/-- What is percent-encoded holds characters that may stand as they are, percent signs and
digits. -/
theorem of_mem_percentEncode {escaped : Char → Bool} {text : List Char} {c : Char}
    (h : c ∈ percentEncode escaped text) :
    c ∈ text ∧ c.toNat < 0x80 ∧ escaped c = false ∨ c = '%' ∨ ∃ d < 16, c = upperHexDigit d := by
  obtain ⟨d, hd, hc⟩ := List.mem_flatMap.1 h
  rw [percentChar] at hc
  split at hc
  · next hplain =>
    rw [Bool.and_eq_true, decide_eq_true_eq, Bool.not_eq_true'] at hplain
    rw [List.mem_singleton.1 hc]
    exact .inl ⟨hd, hplain⟩
  · obtain ⟨b, -, hc⟩ := List.mem_flatMap.1 hc
    have hb : b.toNat < 256 := b.toNat_lt
    simp only [percentByte, List.mem_cons, List.not_mem_nil, or_false] at hc
    rcases hc with rfl | rfl | rfl
    · exact .inr (.inl rfl)
    · exact .inr (.inr ⟨_, by omega, rfl⟩)
    · exact .inr (.inr ⟨_, by omega, rfl⟩)

/-- The byte that two hexadecimal digits stand for. -/
def hexPair? (a b : Char) : Option UInt8 :=
  match digitValue? 16 a, digitValue? 16 b with
  | some x, some y => some (UInt8.ofNat (x * 16 + y))
  | _, _ => none

/-- The bytes of a text, each percent-encoded byte as that byte. -/
def percentDecode : List Char → List UInt8
  | [] => []
  | '%' :: a :: b :: rest =>
    match hexPair? a b with
    | some byte => byte :: percentDecode rest
    | none => 0x25 :: percentDecode (a :: b :: rest)
  | c :: rest => String.utf8EncodeChar c ++ percentDecode rest

end FlowPeers.Text
