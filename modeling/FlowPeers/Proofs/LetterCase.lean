import FlowPeers.Proofs.Origin
import Mathlib.Tactic.IntervalCases

/-!
# Letters in upper and in lower case

The authority of a URL of the web names the same host and the same port in whatever case the letters
of ASCII in it are written (`Url.place?_lower`). Whatever takes a text apart does so at characters
that have no case (`IsCaseless`), digits have the same value in either case, percent-encoded letters
keep their case until the name is decoded (`Text.decodeStrict?_percentDecode_lower`), and the mapping
of domain names puts all of them into lower case (`Domain.toAscii?_lower`).
-/

namespace FlowPeers

open Text Unicode

/-- A text with the letters of ASCII in lower case. -/
def Text.lower (s : List Char) : List Char :=
  s.map lowerAscii

/-- Whether a test does not depend on the case of letters. -/
def IsCaseless (p : Char → Bool) : Prop :=
  ∀ c, p (lowerAscii c) = p c

namespace Text

/-! ## Texts -/

theorem lower_cons (c : Char) (s : List Char) : lower (c :: s) = lowerAscii c :: lower s := rfl

theorem lower_append (s t : List Char) : lower (s ++ t) = lower s ++ lower t :=
  List.map_append

/-- What holds of every character and itself, and of every capital letter and the small one, holds of
every character and what it is in lower case. -/
theorem lowerAscii_rec {motive : Char → Char → Prop} (same : ∀ c, motive c c)
    (letter : ∀ n < 91, 65 ≤ n → motive (Char.ofNat n) (Char.ofNat (n + 0x20))) (c : Char) :
    motive c (lowerAscii c) := by
  by_cases hc : 'A' ≤ c ∧ c ≤ 'Z'
  · have hlow : 65 ≤ c.toNat := hc.1
    have hhigh : c.toNat ≤ 90 := hc.2
    have hletter := letter c.toNat (by omega) hlow
    rw [lowerAscii, if_pos hc]
    rwa [Char.ofNat_toNat] at hletter
  · rw [lowerAscii, if_neg hc]
    exact same c

theorem isCaseless_beq {d : Char} (hd : d.isAlpha = false) : IsCaseless (· == d) := by
  have hletter : ∀ n < 91, 65 ≤ n →
      (Char.ofNat n).isAlpha ∧ (Char.ofNat (n + 0x20)).isAlpha := by decide
  have hmark : ∀ {c : Char}, c.isAlpha → (c == d) = false := by
    intro c hc
    rw [beq_eq_false_iff_ne]
    rintro rfl
    rw [hd] at hc
    contradiction
  refine lowerAscii_rec (motive := fun c low => (low == d) = (c == d)) (fun _ => rfl) ?_
  intro n hn hle
  rw [hmark (hletter n hn hle).1, hmark (hletter n hn hle).2]

/-- A mark is not mistaken for a letter in any case. -/
theorem lowerAscii_eq_iff {c d : Char} (hd : d.isAlpha = false) : lowerAscii c = d ↔ c = d := by
  have hsame : (lowerAscii c == d) = (c == d) := isCaseless_beq hd c
  rw [← beq_iff_eq, hsame, beq_iff_eq]

theorem isCaseless_not {p : Char → Bool} (h : IsCaseless p) : IsCaseless (!p ·) :=
  fun c => congrArg not (h c)

theorem isCaseless_or {p q : Char → Bool} (hp : IsCaseless p) (hq : IsCaseless q) :
    IsCaseless fun c => p c || q c :=
  fun c => congrArg₂ or (hp c) (hq c)

theorem isCaseless_isDigit : IsCaseless Char.isDigit :=
  lowerAscii_rec (motive := fun c low => low.isDigit = c.isDigit) (fun _ => rfl) (by decide)

theorem takeWhile_lower {p : Char → Bool} (h : IsCaseless p) (s : List Char) :
    (lower s).takeWhile p = lower (s.takeWhile p) := by
  rw [lower, List.takeWhile_map, lower]
  exact congrArg _ (congrArg (List.takeWhile · s) (funext h))

theorem dropWhile_lower {p : Char → Bool} (h : IsCaseless p) (s : List Char) :
    (lower s).dropWhile p = lower (s.dropWhile p) := by
  rw [lower, List.dropWhile_map, lower]
  exact congrArg _ (congrArg (List.dropWhile · s) (funext h))

theorem filter_lower {p : Char → Bool} (h : IsCaseless p) (s : List Char) :
    (lower s).filter p = lower (s.filter p) := by
  rw [lower, List.filter_map, lower]
  exact congrArg _ (congrArg (List.filter · s) (funext h))

theorem splitOn_lower {p : Char → Bool} (h : IsCaseless p) (s : List Char) :
    splitOn p (lower s) = (splitOn p s).map lower := by
  induction s with
  | nil => rfl
  | cons c s ih =>
    rw [lower_cons, splitOn, splitOn, h c, ih]
    split
    · rfl
    · cases splitOn p s <;> rfl

theorem contains_lower {d : Char} (hd : d.isAlpha = false) (s : List Char) :
    (lower s).contains d = s.contains d := by
  rw [Bool.eq_iff_iff, List.contains_iff_mem, List.contains_iff_mem, lower, List.mem_map]
  simp only [lowerAscii_eq_iff hd, exists_eq_right]

/-- A text begins with a mark in any case or in none. -/
theorem exists_lower_eq_cons_iff {d : Char} (hd : d.isAlpha = false) {s : List Char} :
    (∃ rest, lower s = d :: rest) ↔ ∃ rest, s = d :: rest := by
  cases s with
  | nil => rfl
  | cons c s =>
    simp only [lower_cons, List.cons.injEq, lowerAscii_eq_iff hd, exists_and_left, exists_eq',
      and_true]

/-! ## Digits -/

theorem digitValue?_lower (base : Nat) (c : Char) :
    digitValue? base (lowerAscii c) = digitValue? base c := by
  refine lowerAscii_rec (motive := fun c low => digitValue? base low = digitValue? base c)
    (fun _ => rfl) ?_ c
  intro n hn hle
  interval_cases n <;> rfl

theorem readDigits?_lower (base value : Nat) (s : List Char) :
    readDigits? base value (lower s) = readDigits? base value s := by
  induction s generalizing value with
  | nil => rfl
  | cons c s ih =>
    rw [lower_cons, readDigits?, readDigits?, digitValue?_lower]
    split
    · rfl
    · exact ih _

theorem readNumber?_lower (base : Nat) (s : List Char) :
    readNumber? base (lower s) = readNumber? base s := by
  rw [readNumber?, readNumber?, readDigits?_lower, lower, List.isEmpty_map]

theorem hexPair?_lower (a b : Char) : hexPair? (lowerAscii a) (lowerAscii b) = hexPair? a b := by
  rw [hexPair?, hexPair?, digitValue?_lower, digitValue?_lower]

/-! ## Names that are decoded -/

/-- A letter of ASCII in lower case, as a byte. -/
def lowerByte (b : UInt8) : UInt8 :=
  if 0x41 ≤ b && b ≤ 0x5A then b + 0x20 else b

theorem utf8EncodeChar_lower (c : Char) :
    (String.utf8EncodeChar (lowerAscii c)).map lowerByte =
      (String.utf8EncodeChar c).map lowerByte :=
  lowerAscii_rec (motive := fun c low =>
    (String.utf8EncodeChar low).map lowerByte = (String.utf8EncodeChar c).map lowerByte)
    (fun _ => rfl) (by decide) c

/-- The letters that stand as they are may differ in case once percent-encoded bytes are read. -/
theorem percentDecode_lower (s : List Char) :
    (percentDecode (lower s)).map lowerByte = (percentDecode s).map lowerByte := by
  have hpercent : lowerAscii '%' = '%' := by decide
  induction s using percentDecode.induct with
  | case1 => rfl
  | case2 a b rest byte hbyte ih =>
    rw [lower_cons, lower_cons, lower_cons, hpercent, percentDecode, percentDecode, hexPair?_lower,
      hbyte]
    exact congrArg (lowerByte byte :: ·) ih
  | case3 a b rest hnone ih =>
    rw [lower_cons, lower_cons, lower_cons, hpercent, percentDecode, percentDecode, hexPair?_lower,
      hnone]
    exact congrArg (lowerByte 0x25 :: ·) ih
  | case4 c rest hmatch ih =>
    rw [lower_cons, percentDecode, percentDecode, List.map_append, List.map_append,
      utf8EncodeChar_lower, ih]
    · exact hmatch
    · intro a b more hc hrest
      have hpercent' : c = '%' := (lowerAscii_eq_iff (by decide)).1 hc
      match rest, hrest with
      | a :: b :: more, _ => exact hmatch a b more hpercent' rfl

/-- A byte of ASCII becomes what its character does. -/
theorem ofNat_lowerByte {b : UInt8} (h : b < 0x80) :
    lowerByte b < 0x80 ∧ Char.ofNat (lowerByte b).toNat = lowerAscii (Char.ofNat b.toNat) := by
  have hbyte : ∀ n < 128, lowerByte (UInt8.ofNat n) < 0x80 ∧
      Char.ofNat (lowerByte (UInt8.ofNat n)).toNat = lowerAscii (Char.ofNat (UInt8.ofNat n).toNat) := by
    decide +kernel
  have hsame := hbyte b.toNat (UInt8.lt_iff_toNat_lt.1 h)
  rwa [UInt8.ofNat_toNat] at hsame

/-- A byte beyond ASCII stays as it is. -/
theorem lowerByte_of_not_lt {b : UInt8} (h : ¬ b < 0x80) : lowerByte b = b := by
  rw [lowerByte, if_neg]
  rw [Bool.and_eq_true, decide_eq_true_eq, decide_eq_true_eq]
  rintro ⟨-, hle⟩
  exact h (UInt8.lt_of_le_of_lt hle (by decide))

theorem lowerAscii_ofNat {n : Nat} (h : 0x80 ≤ n) : lowerAscii (Char.ofNat n) = Char.ofNat n := by
  by_cases hvalid : n.isValidChar
  · refine if_neg fun hc => ?_
    have hle : (Char.ofNat n).toNat ≤ 90 := hc.2
    have hvalue : (Char.ofNat n).toNat = n := by
      rw [Char.ofNat, dif_pos hvalid]
      rfl
    omega
  · rw [Char.ofNat, dif_neg hvalid]
    rfl

/-- A test of bytes that no byte of ASCII passes does not depend on case. -/
theorem lowerByte_test {p : UInt8 → Bool} (h : ∀ b, p b → ¬ b < 0x80) (b : UInt8) :
    p (lowerByte b) = p b ∧ (p b → lowerByte b = b) := by
  have hnot : ∀ {b : UInt8}, b < 0x80 → p b = false := fun hb =>
    Bool.eq_false_iff.2 fun hp => h _ hp hb
  by_cases hb : b < 0x80
  · rw [hnot hb, hnot (ofNat_lowerByte hb).1]
    exact ⟨rfl, fun hp => by contradiction⟩
  · rw [lowerByte_of_not_lt hb]
    exact ⟨rfl, fun _ => rfl⟩

theorem not_lt_of_isTail {b : UInt8} (h : isTail b) : ¬ b < 0x80 := by
  rw [isTail, Bool.and_eq_true, decide_eq_true_eq] at h
  exact UInt8.not_lt.2 h.1

theorem not_lt_of_fitsAfter3 {a b : UInt8} (h : fitsAfter3 a b) : ¬ b < 0x80 := by
  rw [fitsAfter3, Bool.and_eq_true, decide_eq_true_eq] at h
  have hle := h.1
  split at hle
  · exact UInt8.not_lt.2 (UInt8.le_trans (by decide) hle)
  · exact UInt8.not_lt.2 hle

theorem not_lt_of_fitsAfter4 {a b : UInt8} (h : fitsAfter4 a b) : ¬ b < 0x80 := by
  rw [fitsAfter4, Bool.and_eq_true, decide_eq_true_eq] at h
  have hle := h.1
  split at hle
  · exact UInt8.not_lt.2 (UInt8.le_trans (by decide) hle)
  · exact UInt8.not_lt.2 hle

/-- What three bytes spell is beyond ASCII. -/
theorem le_of_fitsAfter3 {a b : UInt8} (ha : 0xE0 ≤ a && a ≤ 0xEF) (hb : fitsAfter3 a b) (c : UInt8) :
    0x80 ≤ ((a.toNat - 0xE0) * 64 + tailBits b) * 64 + tailBits c := by
  have hfirst : 0xE0 ≤ a.toNat :=
    UInt8.le_iff_toNat_le.1 (of_decide_eq_true (Bool.and_eq_true_iff.1 ha).1)
  rw [fitsAfter3, Bool.and_eq_true, decide_eq_true_eq, decide_eq_true_eq] at hb
  obtain ⟨hlow, hhigh⟩ := hb
  by_cases heq : a = 0xE0
  · rw [if_pos heq] at hlow
    rw [heq, if_neg (by decide)] at hhigh
    have hlow' : 0xA0 ≤ b.toNat := UInt8.le_iff_toNat_le.1 hlow
    have hhigh' : b.toNat ≤ 0xBF := UInt8.le_iff_toNat_le.1 hhigh
    unfold tailBits
    omega
  · have hne : a.toNat ≠ 0xE0 := fun h => heq (UInt8.toNat_inj.1 h)
    omega

/-- What four bytes spell is beyond ASCII. -/
theorem le_of_fitsAfter4 {a b : UInt8} (ha : 0xF0 ≤ a && a ≤ 0xF4) (hb : fitsAfter4 a b)
    (c d : UInt8) :
    0x80 ≤ (((a.toNat - 0xF0) * 64 + tailBits b) * 64 + tailBits c) * 64 + tailBits d := by
  have hfirst : 0xF0 ≤ a.toNat :=
    UInt8.le_iff_toNat_le.1 (of_decide_eq_true (Bool.and_eq_true_iff.1 ha).1)
  rw [fitsAfter4, Bool.and_eq_true, decide_eq_true_eq, decide_eq_true_eq] at hb
  obtain ⟨hlow, hhigh⟩ := hb
  by_cases heq : a = 0xF0
  · rw [if_pos heq] at hlow
    rw [heq, if_neg (by decide)] at hhigh
    have hlow' : 0x90 ≤ b.toNat := UInt8.le_iff_toNat_le.1 hlow
    have hhigh' : b.toNat ≤ 0xBF := UInt8.le_iff_toNat_le.1 hhigh
    unfold tailBits
    omega
  · have hne : a.toNat ≠ 0xF0 := fun h => heq (UInt8.toNat_inj.1 h)
    omega

/-- Bytes are cut into characters without regard to the case of letters. -/
theorem decode_lower (bytes : List UInt8) :
    decode (bytes.map lowerByte) = (decode bytes).map (Option.map lowerAscii) := by
  have htail := lowerByte_test fun _ => not_lt_of_isTail
  have hthree := fun a => lowerByte_test fun _ => not_lt_of_fitsAfter3 (a := a)
  have hfour := fun a => lowerByte_test fun _ => not_lt_of_fitsAfter4 (a := a)
  -- what more than one byte spells stays as it is
  have hspelled₂ : ∀ a b : UInt8, (0xC2 ≤ a && a ≤ 0xDF) →
      lowerAscii (Char.ofNat ((a.toNat - 0xC0) * 64 + tailBits b)) =
        Char.ofNat ((a.toNat - 0xC0) * 64 + tailBits b) := by
    intro a b ha
    have hfirst : 0xC2 ≤ a.toNat :=
      UInt8.le_iff_toNat_le.1 (of_decide_eq_true (Bool.and_eq_true_iff.1 ha).1)
    exact lowerAscii_ofNat (by omega)
  have hspelled₃ := fun a b c ha hb => lowerAscii_ofNat (le_of_fitsAfter3 (a := a) (b := b) ha hb c)
  have hspelled₄ := fun a b c d ha hb =>
    lowerAscii_ofNat (le_of_fitsAfter4 (a := a) (b := b) ha hb c d)
  induction bytes using decode.induct
  case case1 => rfl
  case case2 a rest ha ih =>
    obtain ⟨hlow, hchar⟩ := ofNat_lowerByte ha
    rw [List.map_cons, decode.eq_def, decode.eq_def (a :: rest)]
    simp only [if_pos hlow, if_pos ha, ih, hchar, List.map_cons, Option.map_some]
  -- the other ways a text can go on after a byte beyond ASCII
  all_goals
    simp only [List.map_cons, List.map_nil] at *
    rw [decode.eq_def, decode.eq_def (_ :: _)]
    simp only [*, lowerByte_of_not_lt, if_false, if_true, Bool.false_eq_true, List.map_cons,
      List.map_nil, Option.map_some, Option.map_none, not_false_eq_true]
  · rw [(hthree _ _).2 ‹fitsAfter3 _ _ = true›]
  · rw [(hfour _ _).2 ‹fitsAfter4 _ _ = true›]

theorem decodeStrict?_lower (bytes : List UInt8) :
    decodeStrict? (bytes.map lowerByte) = (decodeStrict? bytes).map lower := by
  rw [decodeStrict?, decodeStrict?, decode_lower]
  induction decode bytes with
  | nil => rfl
  | cons c rest ih =>
    rw [List.map_cons, List.mapM_cons, List.mapM_cons, ih]
    cases c with
    | none => rfl
    | some c => cases rest.mapM id <;> rfl

/-- Names that differ in case alone are decoded as such names. -/
theorem decodeStrict?_percentDecode_lower (s : List Char) :
    (decodeStrict? (percentDecode (lower s))).map lower =
      (decodeStrict? (percentDecode s)).map lower := by
  rw [← decodeStrict?_lower, percentDecode_lower, decodeStrict?_lower]

end Text

/-! ## Hosts -/

namespace Domain

theorem mapChar?_lower (c : Char) : mapChar? (lowerAscii c) = mapChar? c := by
  by_cases hc : c.toNat < 0x80
  · have hlow : (lowerAscii c).toNat < 0x80 :=
      lowerAscii_rec (motive := fun c low => c.toNat < 0x80 → low.toNat < 0x80) (fun _ => id)
        (by decide) c hc
    rw [mapChar?, if_pos hlow, mapChar?, if_pos hc, Url.lowerAscii_lowerAscii]
  · have hsame := lowerAscii_ofNat (Nat.not_lt.1 hc)
    rw [Char.ofNat_toNat] at hsame
    rw [hsame]

theorem mapText?_lower (s : List Char) : mapText? (lower s) = mapText? s := by
  induction s with
  | nil => rfl
  | cons c s ih => rw [lower_cons, mapText?, mapText?, mapChar?_lower, ih]

/-- The ASCII form of a domain name does not depend on the case of letters. -/
theorem toAscii?_lower (name : List Char) : toAscii? (lower name) = toAscii? name := by
  rw [toAscii?, toAscii?, labels?, labels?, mapText?_lower]

/-- Neither does what is decoded first. -/
theorem toAscii?_percentDecode_lower (s : List Char) :
    (decodeStrict? (percentDecode (lower s))).bind toAscii? =
      (decodeStrict? (percentDecode s)).bind toAscii? := by
  have hbind : ∀ name? : Option (List Char),
      name?.bind toAscii? = (name?.map lower).bind toAscii? := by
    intro name?
    cases name? with
    | none => rfl
    | some name => exact (toAscii?_lower name).symm
  rw [hbind, decodeStrict?_percentDecode_lower, ← hbind]

end Domain

namespace Ipv4

theorem readByte?_lower (s : List Char) : readByte? (lower s) = readByte? s := by
  have hnumber : readDecimal? (lower s) = readDecimal? s := readNumber?_lower 10 s
  rw [readByte?.eq_def, readByte?.eq_def s, hnumber]
  match s with
  | [] => rfl
  | [c] => cases readDecimal? [c] <;> simp [lower]
  | c :: d :: rest =>
    by_cases hc : c = '0'
    · subst hc
      rfl
    · have hlow : lowerAscii c ≠ '0' := fun heq => hc ((lowerAscii_eq_iff (by decide)).1 heq)
      rw [lower_cons, lower_cons]
      cases readDecimal? (c :: d :: rest) <;> simp [hlow, hc]

theorem readDotted?_lower (s : List Char) : readDotted? (lower s) = readDotted? s := by
  have hbytes : readByte? ∘ lower = readByte? := funext readByte?_lower
  rw [readDotted?, readDotted?, splitOn_lower (isCaseless_beq (by decide)), List.map_map, hbytes]

end Ipv4

namespace Ipv6

theorem readGroup?_lower (s : List Char) : readGroup? (lower s) = readGroup? s := by
  rw [readGroup?, readGroup?, readNumber?_lower, lower, List.length_map]

theorem readLast?_lower (s : List Char) : readLast? (lower s) = readLast? s := by
  rw [readLast?, readLast?, readGroup?_lower, Ipv4.readDotted?_lower]

theorem readPieces?_lower (isEnd : Bool) (pieces : List (List Char)) :
    readPieces? isEnd (pieces.map lower) = readPieces? isEnd pieces := by
  have hstep : ∀ piece next pieces, readPieces? isEnd (piece :: next :: pieces) =
      (readGroup? piece).bind fun group =>
        (readPieces? isEnd (next :: pieces)).map (group :: ·) := by
    intro piece next pieces
    rw [readPieces?]
    · cases readGroup? piece <;> cases readPieces? isEnd (next :: pieces) <;> rfl
    · simp
  induction pieces with
  | nil => rfl
  | cons piece pieces ih =>
    cases pieces with
    | nil =>
      rw [List.map_cons, List.map_nil, readPieces?, readPieces?, readLast?_lower, readGroup?_lower]
    | cons next pieces =>
      rw [List.map_cons] at ih
      rw [List.map_cons, List.map_cons, hstep, hstep, readGroup?_lower, ih]

theorem readGroups?_lower (isEnd : Bool) (s : List Char) :
    readGroups? isEnd (lower s) = readGroups? isEnd s := by
  have hempty : (lower s).isEmpty = s.isEmpty := List.isEmpty_map
  rw [readGroups?, readGroups?, hempty, splitOn_lower (isCaseless_beq (by decide)),
    readPieces?_lower]

theorem splitGap?_lower (s : List Char) :
    splitGap? (lower s) = (splitGap? s).map fun (before, after) => (lower before, lower after) := by
  have hcolon : lowerAscii ':' = ':' := by decide
  induction s using splitGap?.induct with
  | case1 rest =>
    rw [lower_cons, lower_cons, hcolon, splitGap?, splitGap?]
    rfl
  | case2 c rest hmatch ih =>
    rw [lower_cons, splitGap?, splitGap?, ih, Option.map_map, Option.map_map]
    · rfl
    · exact hmatch
    · intro more hc hrest
      cases rest with
      | nil => cases hrest
      | cons d tail =>
        have hc' := (lowerAscii_eq_iff (by decide)).1 hc
        have hd := (lowerAscii_eq_iff (by decide)).1 (List.cons.inj hrest).1
        exact hmatch tail hc' (by rw [hd])
  | case3 => rfl

theorem read?_lower (s : List Char) : read? (lower s) = read? s := by
  rw [read?, read?, splitGap?_lower]
  cases splitGap? s with
  | none => simp only [Option.map_none, readGroups?_lower]
  | some parts => simp only [Option.map_some, readGroups?_lower]

end Ipv6

namespace Host

theorem readBracketed_lower (s : List Char) : readBracketed (lower s) = readBracketed s := by
  have hlast : ((lower s).getLast? == some ']') = (s.getLast? == some ']') := by
    rw [lower, List.getLast?_map]
    cases s.getLast? with
    | none => rfl
    | some c =>
      have hclose : (lowerAscii c == ']') = (c == ']') := isCaseless_beq (by decide) c
      exact hclose
  have hfront : (lower s).dropLast = lower s.dropLast := List.map_dropLast.symm
  rw [readBracketed, readBracketed, hlast, hfront, Ipv6.read?_lower]

/-- A host of the web does not depend on the case of letters. -/
theorem readWeb_lower (s : List Char) : readWeb (lower s) = readWeb s := by
  have hopen : lowerAscii '[' = '[' := by decide
  have hname : ∀ {s t : List Char}, (¬ ∃ rest, s = '[' :: rest) → (¬ ∃ rest, t = '[' :: rest) →
      (decodeStrict? (percentDecode s)).bind Domain.toAscii? =
        (decodeStrict? (percentDecode t)).bind Domain.toAscii? → readWeb s = readWeb t := by
    intro s t hs ht heq
    rw [readWeb, readWeb, heq]
    · exact fun rest hrest => ht ⟨rest, hrest⟩
    · exact fun rest hrest => hs ⟨rest, hrest⟩
  by_cases hs : ∃ rest, s = '[' :: rest
  · obtain ⟨rest, rfl⟩ := hs
    rw [lower_cons, hopen]
    exact readBracketed_lower rest
  · have hs' : ¬ ∃ rest, lower s = '[' :: rest := fun h =>
      hs ((exists_lower_eq_cons_iff (by decide)).1 h)
    exact hname hs' hs (Domain.toAscii?_percentDecode_lower s)

end Host

/-! ## Authorities -/

namespace Url

theorem splitHost_lower (inside : Bool) (text : List Char) :
    splitHost inside (lower text) =
      (lower (splitHost inside text).1, lower (splitHost inside text).2) := by
  have hcolon : IsCaseless (· == ':') := isCaseless_beq (by decide)
  have hopen : IsCaseless (· == '[') := isCaseless_beq (by decide)
  have hclose : IsCaseless (· == ']') := isCaseless_beq (by decide)
  induction text generalizing inside with
  | nil => rfl
  | cons c rest ih =>
    have hc : (lowerAscii c == ':') = (c == ':') := hcolon c
    have hc' : (lowerAscii c == '[') = (c == '[') := hopen c
    have hc'' : (lowerAscii c == ']') = (c == ']') := hclose c
    rw [lower_cons, splitHost, splitHost, hc, hc', hc'']
    split
    · rfl
    · rw [ih]
      rfl

/-- What follows the user, if there is one. -/
theorem splitUser?_lower (text : List Char) :
    ((splitUser? (lower text)).getD ([], lower text)).2 =
      lower ((splitUser? text).getD ([], text)).2 := by
  have hat : IsCaseless (· != '@') := isCaseless_not (isCaseless_beq (by decide))
  have hreverse : (lower text).reverse = lower text.reverse := List.map_reverse.symm
  rw [splitUser?, splitUser?, contains_lower (by decide), hreverse, takeWhile_lower hat]
  split
  · exact List.map_reverse.symm
  · rfl

/-- The port is in the digits after the colon, if nothing else follows them but a backslash. -/
theorem readPort_colon (scheme text : List Char) :
    (readPort scheme (':' :: text)).map Prod.fst =
      if (text.dropWhile (·.isDigit)).head?.all (· == '\\') then
        match readDecimal? (text.takeWhile (·.isDigit)) with
        | none => .ok none
        | some n =>
          if n < 0x10000 then
            .ok (if usualPort? scheme == some (UInt16.ofNat n) then none else some (UInt16.ofNat n))
          else .error .badPort
      else .error .badPort := by
  have hdigits : ∀ left, (match readDecimal? (text.takeWhile (·.isDigit)) with
      | none => (.ok (none, left) : Except UrlError (Option UInt16 × List Char))
      | some n =>
        if n < 0x10000 then
          .ok (if usualPort? scheme == some (UInt16.ofNat n) then none else some (UInt16.ofNat n),
            left)
        else .error .badPort).map Prod.fst =
      match readDecimal? (text.takeWhile (·.isDigit)) with
      | none => .ok none
      | some n =>
        if n < 0x10000 then
          .ok (if usualPort? scheme == some (UInt16.ofNat n) then none else some (UInt16.ofNat n))
        else .error .badPort := by
    intro left
    cases readDecimal? (text.takeWhile (·.isDigit)) with
    | none => rfl
    | some n =>
      dsimp only
      split <;> rfl
  rw [readPort]
  split
  · next hnil =>
    rw [hnil]
    exact hdigits _
  · next more hback =>
    rw [hback]
    exact hdigits _
  · next hnil hback =>
    rw [if_neg]
    · rfl
    · cases hrest : text.dropWhile (·.isDigit) with
      | nil => exact absurd hrest hnil
      | cons c more =>
        intro hc
        obtain rfl : c = '\\' := by simpa using hc
        exact hback more hrest

theorem readPort_lower (scheme text : List Char) :
    (readPort scheme (lower text)).map Prod.fst = (readPort scheme text).map Prod.fst := by
  have hcolon : lowerAscii ':' = ':' := by decide
  have hother : ∀ {text : List Char}, (¬ ∃ rest, text = ':' :: rest) →
      (readPort scheme text).map Prod.fst = .ok none := by
    intro text htext
    rw [readPort.eq_def]
    split
    · exact absurd ⟨_, rfl⟩ htext
    · rfl
  by_cases htext : ∃ rest, text = ':' :: rest
  · obtain ⟨rest, rfl⟩ := htext
    have hnumber : readDecimal? (lower (rest.takeWhile (·.isDigit))) =
        readDecimal? (rest.takeWhile (·.isDigit)) := readNumber?_lower 10 _
    have hback : (lower (rest.dropWhile (·.isDigit))).head?.all (· == '\\') =
        (rest.dropWhile (·.isDigit)).head?.all (· == '\\') := by
      cases rest.dropWhile (·.isDigit) with
      | nil => rfl
      | cons c more =>
        have hsame : (lowerAscii c == '\\') = (c == '\\') := isCaseless_beq (by decide) c
        exact hsame
    rw [lower_cons, hcolon, readPort_colon, readPort_colon, dropWhile_lower isCaseless_isDigit,
      takeWhile_lower isCaseless_isDigit, hnumber, hback]
  · have hlow : ¬ ∃ rest, lower text = ':' :: rest := fun h =>
      htext ((exists_lower_eq_cons_iff (by decide)).1 h)
    rw [hother hlow, hother htext]

/-- **The host and the port of the web do not depend on the case of letters.** -/
theorem place?_lower {scheme : List Char} (hweb : kind scheme = .web) (authority : List Char) :
    place? scheme (lower authority) = place? scheme authority := by
  have hhost : ∀ text, readHost .web (lower text) = readHost .web text := by
    intro text
    cases text with
    | nil => rfl
    | cons c rest => exact congrArg (Except.map some) (Host.readWeb_lower (c :: rest))
  rw [place?, place?, splitUser?_lower, splitHost_lower, hweb]
  simp only [hhost, readPort_lower]

theorem webAuthority_lower (text : List Char) : webAuthority (lower text) = lower (webAuthority text) := by
  have hslash : IsCaseless (isSlash .web) :=
    isCaseless_or (isCaseless_beq (by decide)) (isCaseless_beq (by decide))
  have hends : IsCaseless (endsAuthority .web) :=
    isCaseless_or hslash (isCaseless_or (isCaseless_beq (by decide)) (isCaseless_beq (by decide)))
  rw [webAuthority, webAuthority, dropWhile_lower hslash, takeWhile_lower (isCaseless_not hends)]

end Url

end FlowPeers
