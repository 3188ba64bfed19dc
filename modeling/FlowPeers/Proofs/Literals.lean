import FlowPeers.Host.Ipv6
import Mathlib.Data.Nat.Digits.Defs
import Mathlib.Tactic.Common

/-!
# Addresses read back

The written form of an address of version 4 or 6 is read as the address it was written from
(`Ipv4.readLoose_print`, `Ipv6.read?_print`). Both are pieces of digits with a separator between
them, and numbers are read back from their digits (`Text.readNumber?_toDigits`). The stretch of zero
groups that the form of version 6 leaves out is the only place where two colons meet
(`Ipv6.splitGap?_joinWith`), and it is filled up again with as many zeros
(`Ipv6.longestGap_zeros`).
-/

namespace FlowPeers

/-! ## Numbers -/

namespace Text

variable {base : Nat}

theorem exists_of_mem_toDigits (hbase : 1 < base) {n : Nat} {c : Char}
    (h : c ∈ Nat.toDigits base n) : ∃ d < base, c = d.digitChar := by
  induction n using Nat.strongRecOn with
  | ind n ih =>
    rw [Nat.toDigits_eq_if hbase] at h
    split at h
    · next hn => exact ⟨n, hn, List.mem_singleton.1 h⟩
    · rcases List.mem_append.1 h with h | h
      · exact ih _ (Nat.div_lt_self (by omega) hbase) h
      · exact ⟨n % base, Nat.mod_lt n (by omega), List.mem_singleton.1 h⟩

/-- What holds of every digit holds of the digits of every number. -/
theorem forall_mem_toDigits {P : Char → Prop} (hbase : 1 < base) (h : ∀ d < base, P d.digitChar)
    (n : Nat) : ∀ c ∈ Nat.toDigits base n, P c := by
  intro c hc
  obtain ⟨d, hd, rfl⟩ := exists_of_mem_toDigits hbase hc
  exact h d hd

theorem readDigits?_append (base value : Nat) (s rest : List Char) :
    readDigits? base value (s ++ rest) =
      (readDigits? base value s).bind fun value => readDigits? base value rest := by
  induction s generalizing value with
  | nil => rfl
  | cons c s ih =>
    simp only [List.cons_append, readDigits?]
    cases digitValue? base c with
    | none => rfl
    | some digit => exact ih _

/-- A number is read back from its digits. -/
theorem readNumber?_toDigits (hbase : 1 < base) (hle : base ≤ 16) (n : Nat) :
    readNumber? base (Nat.toDigits base n) = some n := by
  have hdigit : ∀ base ≤ 16, ∀ d < base, digitValue? base d.digitChar = some d := by decide
  have hread : readDigits? base 0 (Nat.toDigits base n) = some n := by
    induction n using Nat.strongRecOn with
    | ind n ih =>
      rw [Nat.toDigits_eq_if hbase]
      split
      · next hn => simp [readDigits?, hdigit base hle n hn]
      · have hmod : n % base < base := Nat.mod_lt n (by omega)
        rw [readDigits?_append, ih _ (Nat.div_lt_self (by omega) hbase), Option.bind_some,
          readDigits?, hdigit base hle _ hmod]
        exact congrArg some (Nat.div_add_mod' n base)
  have hne : (Nat.toDigits base n).isEmpty = false := by
    rw [Nat.toDigits_eq_if hbase]
    split <;> simp
  rw [readNumber?, hne]
  exact hread

theorem readDecimal?_decimal (n : Nat) : readDecimal? (decimal n) = some n :=
  readNumber?_toDigits (by decide) (by decide) n

theorem isDigit_of_mem_decimal {n : Nat} {c : Char} (h : c ∈ decimal n) : c.isDigit :=
  forall_mem_toDigits (P := (·.isDigit)) (by decide) (by decide) n c h

theorem decimal_ne_nil (n : Nat) : decimal n ≠ [] := by
  intro hnil
  have hread := readDecimal?_decimal n
  rw [hnil] at hread
  contradiction

theorem decimal_inj {m n : Nat} (h : decimal m = decimal n) : m = n := by
  have hread := readDecimal?_decimal m
  rw [h, readDecimal?_decimal] at hread
  exact (Option.some.inj hread).symm

end Text

open Text

/-! ## Version 4 -/

namespace Ipv4

/-- The written form has the bytes between its dots. -/
theorem splitOn_print (ip : Ipv4) :
    splitOn (· == '.') ip.print =
      [ip.a, ip.b, ip.c, ip.d].map fun byte => decimal byte.toNat := by
  refine splitOn_joinWith (by simp) ?_
  intro piece hpiece hdot
  obtain ⟨byte, -, rfl⟩ := List.mem_map.1 hpiece
  exact absurd (isDigit_of_mem_decimal hdot) (by decide)

theorem parts_print (ip : Ipv4) :
    parts ip.print = [ip.a, ip.b, ip.c, ip.d].map fun byte => decimal byte.toNat := by
  rw [parts, splitOn_print]
  simp [decimal_ne_nil]

theorem endsInNumber_print (ip : Ipv4) : endsInNumber ip.print := by
  have hdigits : (decimal ip.d.toNat).all (·.isDigit) :=
    List.all_eq_true.2 fun c hc => isDigit_of_mem_decimal hc
  rw [endsInNumber, parts_print]
  simp [decimal_ne_nil, hdigits]

/-- The number of four bytes has these bytes. -/
theorem ofNat_bytes (ip : Ipv4) :
    ofNat (ip.a.toNat * 0x1000000 + (ip.b.toNat * 0x10000 + (ip.c.toNat * 0x100 + ip.d.toNat))) =
      ip := by
  have ha := ip.a.toNat_lt
  have hb := ip.b.toNat_lt
  have hc := ip.c.toNat_lt
  have hd := ip.d.toNat_lt
  have hbyte : ∀ (byte : UInt8) {n : Nat}, n % 256 = byte.toNat → UInt8.ofNat n = byte := by
    intro byte n h
    rw [← UInt8.toNat_inj, UInt8.toNat_ofNat', h]
  rw [ofNat, hbyte ip.a (by omega), hbyte ip.b (by omega), hbyte ip.c (by omega),
    hbyte ip.d (by omega)]

/-- An address is read back from its written form. -/
theorem readLoose_print (ip : Ipv4) : readLoose ip.print = .ok ip := by
  have hpart : ∀ n < 256, readPart? (decimal n) = some n := by decide +kernel
  have hparts : (parts ip.print).mapM readPart? =
      some [ip.a.toNat, ip.b.toNat, ip.c.toNat, ip.d.toNat] := by
    rw [parts_print]
    simp [hpart _ ip.a.toNat_lt, hpart _ ip.b.toNat_lt, hpart _ ip.c.toNat_lt,
      hpart _ ip.d.toNat_lt]
  have hnumber : combine? 4 [ip.a.toNat, ip.b.toNat, ip.c.toNat, ip.d.toNat] =
      some (ip.a.toNat * 0x1000000 +
        (ip.b.toNat * 0x10000 + (ip.c.toNat * 0x100 + ip.d.toNat))) := by
    simp [combine?, ip.a.toNat_lt, ip.b.toNat_lt, ip.c.toNat_lt, ip.d.toNat_lt]
  rw [readLoose, hparts]
  simp only [hnumber, ofNat_bytes]

end Ipv4

/-! ## Version 6 -/

namespace Ipv6

theorem readGroup?_hexadecimal (group : UInt16) :
    readGroup? (hexadecimal group.toNat) = some group := by
  have hlength : (hexadecimal group.toNat).length ≤ 4 :=
    Nat.toDigits_length 16 _ 4 (by decide) group.toNat_lt
  rw [readGroup?, if_pos hlength, hexadecimal, readNumber?_toDigits (by decide) (by decide)]
  exact congrArg some (UInt16.ofNat_toNat)

theorem readPieces?_hexadecimal (isEnd : Bool) (groups : List UInt16) :
    readPieces? isEnd (groups.map fun group => hexadecimal group.toNat) = some groups := by
  induction groups with
  | nil => rfl
  | cons group rest ih =>
    cases rest with
    | nil => cases isEnd <;> simp [readPieces?, readLast?, readGroup?_hexadecimal]
    | cons next rest =>
      rw [List.map_cons] at ih
      rw [List.map_cons, List.map_cons, readPieces?, ih, readGroup?_hexadecimal]
      simp

/-- The pieces of the written form are neither empty nor hold a colon. -/
theorem of_mem_hexadecimal (groups : List UInt16) :
    ∀ piece ∈ groups.map fun group => hexadecimal group.toNat, piece ≠ [] ∧ ':' ∉ piece := by
  have hdigit : ∀ d < 16, d.digitChar ≠ ':' := by decide
  intro piece hpiece
  obtain ⟨group, -, rfl⟩ := List.mem_map.1 hpiece
  refine ⟨?_, ?_⟩
  · intro hnil
    have hread := readGroup?_hexadecimal group
    rw [hnil] at hread
    contradiction
  · intro hcolon
    exact forall_mem_toDigits (P := (· ≠ ':')) (by decide) hdigit _ ':' hcolon rfl

/-- Groups are read back from the text between two colons or at the ends of an address. -/
theorem readGroups?_printGroups (isEnd : Bool) (groups : List UInt16) :
    readGroups? isEnd (printGroups groups) = some groups := by
  cases groups with
  | nil => rfl
  | cons group rest =>
    have hpieces := of_mem_hexadecimal (group :: rest)
    have hne : printGroups (group :: rest) ≠ [] := by
      have hfirst := (hpieces (hexadecimal group.toNat) (by simp)).1
      rw [printGroups, List.map_cons]
      cases rest with
      | nil => exact hfirst
      | cons next rest =>
        rw [List.map_cons, joinWith]
        simp [hfirst]
    rw [readGroups?, if_neg (by simpa using hne), printGroups,
      splitOn_joinWith (by simp) fun piece hpiece => (hpieces piece hpiece).2]
    exact readPieces?_hexadecimal isEnd _

theorem splitGap?_append {piece : List Char} (h : ':' ∉ piece) (rest : List Char) :
    splitGap? (piece ++ rest) =
      (splitGap? rest).map fun (before, after) => (piece ++ before, after) := by
  induction piece with
  | nil => simp
  | cons c piece ih =>
    obtain ⟨hc, hpiece⟩ := List.ne_and_not_mem_of_not_mem_cons h
    rw [List.cons_append, splitGap?, ih hpiece, Option.map_map]
    · rfl
    · rintro _ rfl
      exact absurd rfl hc

/-- Two colons meet only behind pieces that a single colon separates. -/
theorem splitGap?_joinWith {pieces : List (List Char)}
    (h : ∀ piece ∈ pieces, piece ≠ [] ∧ ':' ∉ piece) (rest : List Char) :
    splitGap? (joinWith [':'] pieces ++ rest) =
      (splitGap? rest).map fun (before, after) => (joinWith [':'] pieces ++ before, after) := by
  induction pieces with
  | nil => simp [joinWith]
  | cons piece pieces ih =>
    obtain ⟨⟨-, hpiece⟩, hpieces⟩ := List.forall_mem_cons.1 h
    cases pieces with
    | nil => exact splitGap?_append hpiece rest
    | cons next pieces =>
      obtain ⟨hnext, hcolon⟩ := hpieces next (List.mem_cons_self ..)
      obtain ⟨c, more, rfl⟩ := List.exists_cons_of_ne_nil hnext
      have hc : c ≠ ':' := fun heq => hcolon (by simp [heq])
      have hstep : splitGap? (':' :: (joinWith [':'] ((c :: more) :: pieces) ++ rest)) =
          (splitGap? (joinWith [':'] ((c :: more) :: pieces) ++ rest)).map
            fun (before, after) => (':' :: before, after) := by
        rw [splitGap?]
        intro after _ heq
        cases pieces with
        | nil => exact hc (List.cons.inj heq).1
        | cons => exact hc (List.cons.inj heq).1
      rw [joinWith_cons _ _ (by simp), List.append_assoc, List.append_assoc,
        splitGap?_append hpiece, List.singleton_append, hstep, ih hpieces, Option.map_map,
        Option.map_map]
      simp [Function.comp_def]

/-- The groups that the written form leaves out are zero. -/
theorem longestGap_zeros (groups : List UInt16) :
    (longestGap groups).1 + (longestGap groups).2 ≤ groups.length ∧
      (groups.drop (longestGap groups).1).take (longestGap groups).2 =
        List.replicate (longestGap groups).2 0 := by
  have hahead : ∀ groups : List UInt16, zerosAhead groups ≤ groups.length ∧
      groups.take (zerosAhead groups) = List.replicate (zerosAhead groups) 0 := by
    intro groups
    induction groups with
    | nil => simp [zerosAhead]
    | cons group rest ih =>
      by_cases hgroup : group = 0
      · have hcount : zerosAhead (group :: rest) = zerosAhead rest + 1 := by
          simp [zerosAhead, hgroup]
        rw [hcount, List.take_succ_cons, ih.2, hgroup, List.replicate_succ]
        exact ⟨Nat.succ_le_succ ih.1, rfl⟩
      · simp [zerosAhead, hgroup]
  induction groups with
  | nil => simp [longestGap]
  | cons group rest ih =>
    rw [longestGap]
    dsimp only
    split
    · simpa using hahead (group :: rest)
    · simp only [List.length_cons, List.drop_succ_cons]
      exact ⟨by omega, ih.2⟩

/-- An address is read back from its written form. -/
theorem read?_print (ip : Ipv6) : read? ip.print = some ip := by
  obtain ⟨hle, hzeros⟩ := longestGap_zeros ip.groups
  rw [print]
  generalize longestGap ip.groups = gap at hle hzeros ⊢
  obtain ⟨start, length⟩ := gap
  dsimp only at hle hzeros ⊢
  by_cases hshort : length < 2
  · -- nothing is left out, so no two colons meet
    have hgap : splitGap? (printGroups ip.groups) = none := by
      simpa [splitGap?, printGroups] using
        splitGap?_joinWith (of_mem_hexadecimal ip.groups) []
    rw [if_pos hshort, read?, hgap]
    simp [readGroups?_printGroups, ip.length_groups]
  · have hgap : splitGap? (printGroups (ip.groups.take start) ++ [':', ':'] ++
        printGroups (ip.groups.drop (start + length))) =
        some (printGroups (ip.groups.take start),
          printGroups (ip.groups.drop (start + length))) := by
      have hjoin := splitGap?_joinWith (of_mem_hexadecimal (ip.groups.take start))
        (':' :: ':' :: printGroups (ip.groups.drop (start + length)))
      rw [List.append_assoc]
      simpa [splitGap?, printGroups] using hjoin
    have hwhole : ip.groups.take start ++ List.replicate length 0 ++
        ip.groups.drop (start + length) = ip.groups := by
      rw [← hzeros, ← List.take_add, List.take_append_drop]
    have hrest : 8 - ((ip.groups.take start).length +
        (ip.groups.drop (start + length)).length) = length := by
      have hlength := ip.length_groups
      simp only [List.length_take, List.length_drop]
      omega
    have hfits : (ip.groups.take start).length + (ip.groups.drop (start + length)).length < 8 := by
      omega
    rw [if_neg hshort, read?, hgap]
    simp only [readGroups?_printGroups, fill?, hrest, hwhole, dif_pos hfits]

end Ipv6

end FlowPeers
