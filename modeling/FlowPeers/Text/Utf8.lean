/-!
# UTF-8

`encode` writes the characters of a text as bytes. `decode` reads any bytes: a character where
one is well formed, and `none` for each ill-formed stretch, which is the longest beginning of a
character there or else a single byte. Its two readers are `decodeStrict?`, which refuses a text
with an ill-formed stretch, and `decodeLossy`, which puts U+FFFD in the place of each.
-/

namespace FlowPeers.Text

/-- The bytes of a text. -/
def encode (s : List Char) : List UInt8 :=
  s.flatMap String.utf8EncodeChar

/-- A byte that continues a character. -/
def isTail (b : UInt8) : Bool :=
  0x80 ≤ b && b ≤ 0xBF

/-- The second bytes that may follow a first byte of a character of three bytes. -/
def fitsAfter3 (a b : UInt8) : Bool :=
  (if a = 0xE0 then 0xA0 else 0x80) ≤ b && b ≤ (if a = 0xED then 0x9F else 0xBF)

/-- The second bytes that may follow a first byte of a character of four bytes. -/
def fitsAfter4 (a b : UInt8) : Bool :=
  (if a = 0xF0 then 0x90 else 0x80) ≤ b && b ≤ (if a = 0xF4 then 0x8F else 0xBF)

/-- The six low bits of a continuation byte. -/
def tailBits (b : UInt8) : Nat :=
  b.toNat % 64

/-- The characters that the bytes spell, with `none` for each ill-formed stretch. -/
def decode : List UInt8 → List (Option Char)
  | [] => []
  | a :: rest =>
    if a < 0x80 then some (Char.ofNat a.toNat) :: decode rest
    else if 0xC2 ≤ a && a ≤ 0xDF then
      match rest with
      | b :: rest₂ =>
        if isTail b then some (Char.ofNat ((a.toNat - 0xC0) * 64 + tailBits b)) :: decode rest₂
        else none :: decode (b :: rest₂)
      | [] => [none]
    else if 0xE0 ≤ a && a ≤ 0xEF then
      match rest with
      | b :: rest₂ =>
        if fitsAfter3 a b then
          match rest₂ with
          | c :: rest₃ =>
            if isTail c then
              some (Char.ofNat (((a.toNat - 0xE0) * 64 + tailBits b) * 64 + tailBits c))
                :: decode rest₃
            else none :: decode (c :: rest₃)
          | [] => [none]
        else none :: decode (b :: rest₂)
      | [] => [none]
    else if 0xF0 ≤ a && a ≤ 0xF4 then
      match rest with
      | b :: rest₂ =>
        if fitsAfter4 a b then
          match rest₂ with
          | c :: rest₃ =>
            if isTail c then
              match rest₃ with
              | d :: rest₄ =>
                if isTail d then
                  some (Char.ofNat ((((a.toNat - 0xF0) * 64 + tailBits b) * 64 + tailBits c) * 64
                    + tailBits d)) :: decode rest₄
                else none :: decode (d :: rest₄)
              | [] => [none]
            else none :: decode (c :: rest₃)
          | [] => [none]
        else none :: decode (b :: rest₂)
      | [] => [none]
    else none :: decode rest

/-- The text that the bytes spell, if all of them are well formed. -/
def decodeStrict? (bytes : List UInt8) : Option (List Char) :=
  (decode bytes).mapM id

/-- The text that the bytes spell, with U+FFFD for each ill-formed stretch. -/
def decodeLossy (bytes : List UInt8) : List Char :=
  (decode bytes).map (·.getD '\uFFFD')

end FlowPeers.Text
