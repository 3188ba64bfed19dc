import FlowPeers.Text.Utf8
import Mathlib.Tactic.Common

/-!
# Texts as bytes

The bytes of a text are read back as this text, whatever its characters are (`Text.decode_encode`). A
character has one to four bytes. How its first byte is read tells how many they are, and the numbers
of a character's bytes are the digits of its own (`Text.decode_utf8EncodeChar`).

The order of texts is the order of their bytes (`Text.encode_lt_encode_iff`).
-/

namespace FlowPeers.Text

/-! ## Well-formed stretches -/

section Stretches

variable {a b c d : UInt8} (rest : List UInt8)

theorem between_iff {low high : UInt8} :
    (low ≤ a && a ≤ high) = true ↔ low.toNat ≤ a.toNat ∧ a.toNat ≤ high.toNat := by
  simp [UInt8.le_iff_toNat_le]

theorem decode_one (ha : a.toNat < 0x80) :
    decode (a :: rest) = some (Char.ofNat a.toNat) :: decode rest := by
  have hone : a < 0x80 := UInt8.lt_iff_toNat_lt.2 ha
  rw [decode.eq_def]
  simp only [if_pos hone]

theorem decode_two (ha : 0xC2 ≤ a.toNat ∧ a.toNat ≤ 0xDF) (hb : isTail b) :
    decode (a :: b :: rest) =
      some (Char.ofNat ((a.toNat - 0xC0) * 64 + tailBits b)) :: decode rest := by
  have hone : ¬ a < 0x80 := by
    simp only [UInt8.lt_iff_toNat_lt, UInt8.reduceToNat]
    omega
  have htwo : (0xC2 ≤ a && a ≤ 0xDF) = true := between_iff.2 ha
  rw [decode.eq_def]
  simp only [if_neg hone, if_pos htwo, if_pos hb]

theorem decode_three (ha : 0xE0 ≤ a.toNat ∧ a.toNat ≤ 0xEF) (hb : fitsAfter3 a b)
    (hc : isTail c) : decode (a :: b :: c :: rest) =
      some (Char.ofNat (((a.toNat - 0xE0) * 64 + tailBits b) * 64 + tailBits c))
        :: decode rest := by
  have hone : ¬ a < 0x80 := by
    simp only [UInt8.lt_iff_toNat_lt, UInt8.reduceToNat]
    omega
  have htwo : ¬ (0xC2 ≤ a && a ≤ 0xDF) = true := by
    simp only [between_iff, UInt8.reduceToNat]
    omega
  have hthree : (0xE0 ≤ a && a ≤ 0xEF) = true := between_iff.2 ha
  rw [decode.eq_def]
  simp only [if_neg hone, if_neg htwo, if_pos hthree, if_pos hb, if_pos hc]

theorem decode_four (ha : 0xF0 ≤ a.toNat ∧ a.toNat ≤ 0xF4) (hb : fitsAfter4 a b)
    (hc : isTail c) (hd : isTail d) : decode (a :: b :: c :: d :: rest) =
      some (Char.ofNat ((((a.toNat - 0xF0) * 64 + tailBits b) * 64 + tailBits c) * 64
        + tailBits d)) :: decode rest := by
  have hone : ¬ a < 0x80 := by
    simp only [UInt8.lt_iff_toNat_lt, UInt8.reduceToNat]
    omega
  have htwo : ¬ (0xC2 ≤ a && a ≤ 0xDF) = true := by
    simp only [between_iff, UInt8.reduceToNat]
    omega
  have hthree : ¬ (0xE0 ≤ a && a ≤ 0xEF) = true := by
    simp only [between_iff, UInt8.reduceToNat]
    omega
  have hfour : (0xF0 ≤ a && a ≤ 0xF4) = true := between_iff.2 ha
  rw [decode.eq_def]
  simp only [if_neg hone, if_neg htwo, if_neg hthree, if_pos hfour, if_pos hb, if_pos hc, if_pos hd]

end Stretches

/-! ## Characters -/

/-- The byte of six bits of a character's number continues the character. -/
theorem isTail_ofNat (n : Nat) : isTail (UInt8.ofNat (n % 0x40 + 0x80)) := by
  simp only [isTail, between_iff, UInt8.toNat_ofNat', UInt8.reduceToNat]
  omega

theorem tailBits_ofNat (n : Nat) : tailBits (UInt8.ofNat (n % 0x40 + 0x80)) = n % 0x40 := by
  rw [tailBits, UInt8.toNat_ofNat']
  omega

/-- The four ways in which a character is written, by the number of its bytes. -/
theorem utf8EncodeChar_cases (c : Char) :
    (c.toNat < 0x80 ∧ String.utf8EncodeChar c = [UInt8.ofNat c.toNat]) ∨
    (0x80 ≤ c.toNat ∧ c.toNat < 0x800 ∧ String.utf8EncodeChar c =
      [UInt8.ofNat (c.toNat / 64 + 0xC0), UInt8.ofNat (c.toNat % 64 + 0x80)]) ∨
    (0x800 ≤ c.toNat ∧ c.toNat < 0x10000 ∧ String.utf8EncodeChar c =
      [UInt8.ofNat (c.toNat / 4096 + 0xE0), UInt8.ofNat (c.toNat / 64 % 64 + 0x80),
        UInt8.ofNat (c.toNat % 64 + 0x80)]) ∨
    (0x10000 ≤ c.toNat ∧ c.toNat < 0x110000 ∧ String.utf8EncodeChar c =
      [UInt8.ofNat (c.toNat / 262144 + 0xF0), UInt8.ofNat (c.toNat / 4096 % 64 + 0x80),
        UInt8.ofNat (c.toNat / 64 % 64 + 0x80), UInt8.ofNat (c.toNat % 64 + 0x80)]) := by
  have hvalid : c.toNat < 0xD800 ∨ (0xDFFF < c.toNat ∧ c.toNat < 0x110000) := c.valid
  simp only [String.utf8EncodeChar, Char.toNat_val]
  split
  · exact .inl ⟨by omega, rfl⟩
  split
  · next hone htwo =>
    rw [Nat.mod_eq_of_lt (by omega : c.toNat / 64 < 32)]
    exact .inr (.inl ⟨by omega, by omega, rfl⟩)
  split
  · next hone htwo hthree =>
    rw [Nat.mod_eq_of_lt (by omega : c.toNat / 4096 < 16)]
    exact .inr (.inr (.inl ⟨by omega, by omega, rfl⟩))
  · next hone htwo hthree =>
    rw [Nat.mod_eq_of_lt (by omega : c.toNat / 262144 < 8)]
    exact .inr (.inr (.inr ⟨by omega, by omega, rfl⟩))

/-- The second byte of three fits the first: the number of the character needs three bytes, and it
is not that of half a pair. -/
theorem fitsAfter3_ofNat {n : Nat} (h : 0x800 ≤ n) (hhalf : n < 0xD800 ∨ 0xDFFF < n)
    (hmax : n < 0x10000) :
    fitsAfter3 (UInt8.ofNat (n / 4096 + 0xE0)) (UInt8.ofNat (n / 64 % 0x40 + 0x80)) := by
  rw [fitsAfter3, between_iff]
  simp only [UInt8.toNat_ofNat', apply_ite UInt8.toNat, ← UInt8.toNat_inj, UInt8.reduceToNat]
  constructor
  · split <;> omega
  · split <;> omega

/-- The second byte of four fits the first: the number of the character needs four bytes, and there
are no greater ones than those of characters. -/
theorem fitsAfter4_ofNat {n : Nat} (h : 0x10000 ≤ n) (hmax : n < 0x110000) :
    fitsAfter4 (UInt8.ofNat (n / 262144 + 0xF0)) (UInt8.ofNat (n / 4096 % 0x40 + 0x80)) := by
  rw [fitsAfter4, between_iff]
  simp only [UInt8.toNat_ofNat', apply_ite UInt8.toNat, ← UInt8.toNat_inj, UInt8.reduceToNat]
  constructor
  · split <;> omega
  · split <;> omega

/-- The bytes of a character are read back as this character. -/
theorem decode_utf8EncodeChar (c : Char) (rest : List UInt8) :
    decode (String.utf8EncodeChar c ++ rest) = some c :: decode rest := by
  have hvalid : c.toNat < 0xD800 ∨ (0xDFFF < c.toNat ∧ c.toNat < 0x110000) := c.valid
  have hchar : ∀ {n}, n = c.toNat → Char.ofNat n = c := by
    rintro n rfl
    exact Char.ofNat_toNat c
  have hfirst : ∀ {n}, n < 256 → (UInt8.ofNat n).toNat = n := by
    intro n hn
    rw [UInt8.toNat_ofNat', Nat.mod_eq_of_lt hn]
  rcases utf8EncodeChar_cases c with ⟨hone, hbytes⟩ | ⟨hone, htwo, hbytes⟩ |
    ⟨htwo, hthree, hbytes⟩ | ⟨hthree, hfour, hbytes⟩
  · have hbyte : (UInt8.ofNat c.toNat).toNat = c.toNat := hfirst (by omega)
    rw [hbytes, List.singleton_append, decode_one _ (by omega), hchar hbyte]
  · have hbyte : (UInt8.ofNat (c.toNat / 64 + 0xC0)).toNat = c.toNat / 64 + 0xC0 :=
      hfirst (by omega)
    rw [hbytes, List.cons_append, List.singleton_append, decode_two _ (by omega) (isTail_ofNat _),
      hbyte, tailBits_ofNat, hchar (by omega)]
  · have hbyte : (UInt8.ofNat (c.toNat / 4096 + 0xE0)).toNat = c.toNat / 4096 + 0xE0 :=
      hfirst (by omega)
    have hfits := fitsAfter3_ofNat htwo (by omega) hthree
    rw [hbytes, List.cons_append, List.cons_append, List.singleton_append,
      decode_three _ (by omega) hfits (isTail_ofNat _), hbyte, tailBits_ofNat, tailBits_ofNat,
      hchar (by omega)]
  · have hbyte : (UInt8.ofNat (c.toNat / 262144 + 0xF0)).toNat = c.toNat / 262144 + 0xF0 :=
      hfirst (by omega)
    have hfits := fitsAfter4_ofNat hthree hfour
    rw [hbytes, List.cons_append, List.cons_append, List.cons_append, List.singleton_append,
      decode_four _ (by omega) hfits (isTail_ofNat _) (isTail_ofNat _), hbyte, tailBits_ofNat,
      tailBits_ofNat, tailBits_ofNat, hchar (by omega)]

/-- **A text is read back from its bytes.** -/
theorem decode_encode (s : List Char) : decode (encode s) = s.map some := by
  induction s with
  | nil => simp [encode, decode]
  | cons c rest ih =>
    rw [encode, List.flatMap_cons, decode_utf8EncodeChar, ← encode, ih, List.map_cons]

/-- Texts with the same bytes are the same. -/
theorem encode_inj {s t : List Char} (h : encode s = encode t) : s = t := by
  have hdecode := congrArg decode h
  rw [decode_encode, decode_encode] at hdecode
  exact (List.map_inj_right fun _ _ => Option.some.inj).1 hdecode

/-! ## The order of texts -/

theorem cons_ofNat_lt_iff {m n : Nat} (hm : m < 256) (hn : n < 256) (s t : List UInt8) :
    UInt8.ofNat m :: s < UInt8.ofNat n :: t ↔ m < n ∨ m = n ∧ s < t := by
  rw [List.cons_lt_cons_iff, UInt8.lt_iff_toNat_lt, ← UInt8.toNat_inj, UInt8.toNat_ofNat',
    UInt8.toNat_ofNat', Nat.mod_eq_of_lt hm, Nat.mod_eq_of_lt hn]

/-- The bytes of a greater character are greater, whatever follows them. -/
theorem utf8EncodeChar_append_lt {c d : Char} (h : c < d) (s t : List UInt8) :
    String.utf8EncodeChar c ++ s < String.utf8EncodeChar d ++ t := by
  have hlt : c.toNat < d.toNat := h
  -- the first byte tells how many there are; with equally many the numbers are compared digit by digit
  rcases utf8EncodeChar_cases c with ⟨hc, hcs⟩ | ⟨hc, hc', hcs⟩ | ⟨hc, hc', hcs⟩ | ⟨hc, hc', hcs⟩
  all_goals
    rcases utf8EncodeChar_cases d with ⟨hd, hds⟩ | ⟨hd, hd', hds⟩ | ⟨hd, hd', hds⟩ | ⟨hd, hd', hds⟩
  all_goals
    rw [hcs, hds]
    clear hcs hds
    simp (disch := omega) only [List.cons_append, List.nil_append, cons_ofNat_lt_iff]
    omega

/-- **Texts stand in the order of their bytes.** -/
theorem encode_lt_encode_iff {s t : List Char} : encode s < encode t ↔ s < t := by
  have hmono : ∀ {s t : List Char}, s < t → encode s < encode t := by
    intro s t h
    induction h with
    | @nil d t =>
      rcases utf8EncodeChar_cases d with ⟨-, hd⟩ | ⟨-, -, hd⟩ | ⟨-, -, hd⟩ | ⟨-, -, hd⟩
      all_goals
        rw [encode, encode, List.flatMap_cons, hd]
        exact List.nil_lt_cons ..
    | rel h =>
      rw [encode, encode, List.flatMap_cons, List.flatMap_cons]
      exact utf8EncodeChar_append_lt h _ _
    | cons _ ih =>
      rw [encode, encode, List.flatMap_cons, List.flatMap_cons]
      exact List.append_left_lt ih
  refine ⟨fun h => ?_, hmono⟩
  by_contra hnot
  by_cases hlt : t < s
  · exact List.lt_asymm h (hmono hlt)
  · have heq : t = s := List.le_antisymm (List.not_lt.1 hnot) (List.not_lt.1 hlt)
    exact List.lt_irrefl _ (heq ▸ h)

end FlowPeers.Text
