import FlowPeers.Proofs.Literals
import FlowPeers.Proofs.Origin

/-!
# Hosts read back

A host that was read of a text is read again of its written form (`Url.IsHostOf.readHost_print`), and
nothing in that form is taken for anything else: it holds no blank and no separator
(`Host.IsSpelled`), and a port behind it is told from it (`Host.IsSpelled.splitHost_append`).
For addresses this is so because they are read back from what was written. For domain names of the
web it takes that the ASCII form of a name is the ASCII form of itself
(`Domain.IsSettled`), which holds in particular of names in lower case without labels that stand for
others (`Domain.isSettled_of_plain`).
-/

namespace FlowPeers

open Text

/-! ## Texts in ASCII -/

namespace Domain

theorem isAscii_append (s t : List Char) : isAscii (s ++ t) = (isAscii s && isAscii t) :=
  List.all_append

theorem isAscii_iff {s : List Char} : isAscii s ↔ ∀ c ∈ s, c.toNat < 0x80 := by
  simp [isAscii]

namespace Punycode

theorem isAscii_digits (bias place distance : Nat) : isAscii (digits bias place distance) := by
  have hdigit : ∀ n < 36, (digit n).toNat < 0x80 := by decide
  induction distance using Nat.strongRecOn generalizing place with
  | ind distance ih =>
    have hpos := threshold_pos bias place
    have hle := threshold_le bias place
    rw [digits]
    split
    · exact isAscii_iff.2 (List.forall_mem_singleton.2 (hdigit _ (by omega)))
    · have hmod := Nat.mod_lt (distance - threshold bias place)
        (show 0 < 36 - threshold bias place by omega)
      have hdiv := Nat.div_le_self (distance - threshold bias place) (36 - threshold bias place)
      exact isAscii_iff.2 (List.forall_mem_cons.2
        ⟨hdigit _ (by omega), isAscii_iff.1 (ih _ (by omega) _)⟩)

theorem isAscii_pass {basic n : Nat} {w : Writing} (h : isAscii w.output) (c : Char) :
    isAscii (w.pass basic n c).output := by
  rw [Writing.pass]
  split
  · exact h
  · split
    · simp [isAscii_append, h, isAscii_digits]
    · exact h

theorem isAscii_insertAll {label : List Char} {basic next : Nat} {points : List Nat} {w : Writing}
    (h : isAscii w.output) : isAscii (w.insertAll label basic next points).output := by
  have hfold : ∀ (n : Nat) (passed : List Char) {w : Writing}, isAscii w.output →
      isAscii (passed.foldl (Writing.pass basic n) w).output := by
    intro n passed
    induction passed with
    | nil => exact id
    | cons c passed ih => exact fun h => ih (isAscii_pass h c)
  induction points generalizing next w with
  | nil => exact h
  | cons n points ih => exact ih (hfold n label (w := { w with distance := _ }) h)

theorem isAscii_encode (label : List Char) : isAscii (encode label) := by
  have hbasic : isAscii (label.filter (·.toNat < 0x80)) :=
    isAscii_iff.2 fun c hc => of_decide_eq_true (List.mem_filter.1 hc).2
  have hhyphen : ∀ b : Bool, isAscii (if b then [] else ['-']) := by decide
  rw [encode, isAscii_append, isAscii_append, hbasic, hhyphen, isAscii_insertAll rfl]
  rfl

end Punycode

theorem isAscii_asciiLabel (label : List Char) : isAscii (asciiLabel label) := by
  rw [asciiLabel]
  split
  · assumption
  · rw [isAscii_append, Punycode.isAscii_encode]
    rfl

/-- The ASCII form of a domain name is in ASCII and holds nothing that is forbidden there. -/
theorem of_toAscii? {text name : List Char} (h : toAscii? text = some name) :
    isAscii name ∧ ∀ c ∈ name, isForbidden c = false := by
  rw [toAscii?] at h
  split at h
  · contradiction
  · dsimp only at h
    split at h
    · next labels _ hfits =>
      cases h
      refine ⟨isAscii_iff.2 ?_, by simpa using (Bool.and_eq_true_iff.1 hfits).2⟩
      intro c hc
      rcases exists_of_mem_joinWith hc with hdot | ⟨piece, hpiece, hc⟩
      · rw [List.mem_singleton.1 hdot]
        decide
      · obtain ⟨label, -, rfl⟩ := List.mem_map.1 hpiece
        exact isAscii_iff.1 (isAscii_asciiLabel label) c hc
    · contradiction

/-- Whether a text, if it is the ASCII form of some domain name, is its own ASCII form. -/
def IsSettled (name : List Char) : Prop :=
  ∀ text, toAscii? text = some name → toAscii? name = some name

/-- Whether a domain name holds nothing that is mapped to anything else, and no label that stands
for another one. -/
structure IsPlainName (name : List Char) : Prop where
  isAscii : isAscii name
  lower : name.map Unicode.lowerAscii = name
  allowed : ∀ c ∈ name, isForbidden c = false
  unmarked : ∀ label ∈ splitOn (· == '.') name, asciiMark.isPrefixOf label = false

theorem mapText?_ascii {s : List Char} (h : isAscii s) :
    Unicode.mapText? s = some (s.map Unicode.lowerAscii) := by
  induction s with
  | nil => rfl
  | cons c s ih =>
    obtain ⟨hc, hs⟩ := List.forall_mem_cons.1 (isAscii_iff.1 h)
    rw [Unicode.mapText?, ih (isAscii_iff.2 hs), Unicode.mapChar?, if_pos hc]
    rfl

theorem compose_ascii {s : List Char} (h : isAscii s) : Unicode.compose s = s :=
  if_pos h

theorem isAscii_of_mem_splitOn {p : Char → Bool} {s : List Char} (h : isAscii s) :
    ∀ piece ∈ splitOn p s, isAscii piece := by
  induction s with
  | nil => simp [splitOn, isAscii]
  | cons c s ih =>
    obtain ⟨hc, hs⟩ := List.forall_mem_cons.1 (isAscii_iff.1 h)
    have hpieces := ih (isAscii_iff.2 hs)
    rw [splitOn]
    split
    · exact List.forall_mem_cons.2 ⟨rfl, hpieces⟩
    · cases hsplit : splitOn p s with
      | nil => exact absurd hsplit (splitOn_ne_nil _ _)
      | cons piece pieces =>
        rw [hsplit] at hpieces
        obtain ⟨hpiece, hrest⟩ := List.forall_mem_cons.1 hpieces
        exact List.forall_mem_cons.2
          ⟨isAscii_iff.2 (List.forall_mem_cons.2 ⟨hc, isAscii_iff.1 hpiece⟩), hrest⟩

/-- A plain name is its own ASCII form. -/
theorem toAscii?_eq_self {name : List Char} (h : IsPlainName name) : toAscii? name = some name := by
  have hascii := isAscii_of_mem_splitOn (p := (· == '.')) h.isAscii
  have hlabels : labels? name = some (splitOn (· == '.') name) := by
    have hread : ∀ label ∈ splitOn (· == '.') name, readLabel? label = some label := by
      intro label hlabel
      rw [readLabel?, h.unmarked label hlabel, isLabel, hascii label hlabel]
      simp
    rw [labels?, mapText?_ascii h.isAscii, h.lower]
    simp only [compose_ascii h.isAscii]
    generalize splitOn (· == '.') name = labels at hread
    induction labels with
    | nil => rfl
    | cons label labels ih =>
      obtain ⟨hlabel, hrest⟩ := List.forall_mem_cons.1 hread
      simp [hlabel, ih hrest]
  have hsame : (splitOn (· == '.') name).map asciiLabel = splitOn (· == '.') name :=
    List.map_congr_left (fun label hlabel => if_pos (hascii label hlabel)) |>.trans (List.map_id _)
  have hleft : (splitOn (· == '.') name).any isBidirectional = false := by
    rw [List.any_eq_false]
    intro label hlabel
    simp [isBidirectional, hascii label hlabel]
  have hallowed : name.any isForbidden = false := by
    simpa using h.allowed
  rw [toAscii?, hlabels]
  dsimp only
  rw [hsame, joinWith_splitOn, keepDirections, hleft, hallowed]
  rfl

theorem isSettled_of_plain {name : List Char} (h : IsPlainName name) : IsSettled name :=
  fun _ _ => toAscii?_eq_self h

end Domain

namespace Text

theorem percentDecode_cons {c : Char} (h : c ≠ '%') (rest : List Char) :
    percentDecode (c :: rest) = String.utf8EncodeChar c ++ percentDecode rest := by
  rw [percentDecode]
  rintro a b more rfl
  exact absurd rfl h

theorem percentDecode_ascii {s : List Char} (hascii : Domain.isAscii s) (hpercent : '%' ∉ s) :
    percentDecode s = s.map fun c => UInt8.ofNat c.toNat := by
  induction s with
  | nil => rfl
  | cons c s ih =>
    obtain ⟨hc, hs⟩ := List.forall_mem_cons.1 (Domain.isAscii_iff.1 hascii)
    obtain ⟨hne, hrest⟩ := List.ne_and_not_mem_of_not_mem_cons hpercent
    have hbyte : String.utf8EncodeChar c = [UInt8.ofNat c.toNat] := by
      have hle : c.val.toNat ≤ 127 := Nat.le_of_lt_succ hc
      rw [String.utf8EncodeChar]
      exact if_pos hle
    rw [percentDecode_cons (Ne.symm hne), ih (Domain.isAscii_iff.2 hs) hrest, hbyte]
    rfl

theorem decodeStrict?_ascii {s : List Char} (hascii : Domain.isAscii s) :
    decodeStrict? (s.map fun c => UInt8.ofNat c.toNat) = some s := by
  induction s with
  | nil => rfl
  | cons c s ih =>
    obtain ⟨hc, hs⟩ := List.forall_mem_cons.1 (Domain.isAscii_iff.1 hascii)
    have hvalue : (UInt8.ofNat c.toNat).toNat = c.toNat := by
      rw [UInt8.toNat_ofNat']
      omega
    have hless : UInt8.ofNat c.toNat < 0x80 := by
      rw [UInt8.lt_iff_toNat_lt, hvalue]
      exact hc
    have hrest := ih (Domain.isAscii_iff.2 hs)
    rw [decodeStrict?] at hrest ⊢
    rw [List.map_cons, decode.eq_def]
    simp only [if_pos hless, hvalue, Char.ofNat_toNat, List.mapM_cons, hrest]
    rfl

end Text

/-! ## Written forms -/

namespace Host

/-- Whether a character neither separates the parts of a URL nor is a blank. -/
def isSpelled (c : Char) : Bool :=
  0x20 < c.toNat && !(['/', '?', '#', '\\', '@'].contains c)

/-- Whether a character does not separate the parts of an authority either, nor mark a drive. -/
def isNamed (c : Char) : Bool :=
  isSpelled c && !([':', '[', ']', '|'].contains c)

/-- Whether a host is an address, or a name without separators. -/
def IsSpelled : Host → Prop
  | .domain name => ∀ c ∈ name, isNamed c
  | _ => True

theorem isNamed_digitChar : ∀ d < 16, isNamed d.digitChar := by
  decide

theorem isNamed_of_isForbidden {c : Char} (h : Domain.isForbidden c = false) : isNamed c := by
  simp [Domain.isForbidden] at h
  simp [isNamed, isSpelled, h]

theorem exists_of_readBracketed {text : List Char} {host : Host}
    (h : readBracketed text = .ok host) : ∃ ip, host = .ipv6 ip := by
  rw [readBracketed] at h
  split at h
  · split at h
    · cases h
      exact ⟨_, rfl⟩
    · contradiction
  · contradiction

theorem readBracketed_print (ip : Ipv6) : readBracketed (ip.print ++ [']']) = .ok (.ipv6 ip) := by
  rw [readBracketed]
  simp [Ipv6.read?_print]

/-- The hosts of the web: addresses, and the ASCII forms of names that do not end in a number. -/
theorem cases_of_readWeb {text : List Char} {host : Host} (h : readWeb text = .ok host) :
    (∃ ip, host = .ipv6 ip) ∨ (∃ ip, host = .ipv4 ip) ∨
      ∃ name source, host = .domain name ∧ name ≠ [] ∧ Domain.toAscii? source = some name ∧
        Ipv4.endsInNumber name = false := by
  unfold readWeb at h
  split at h
  · exact .inl (exists_of_readBracketed h)
  · split at h
    · contradiction
    · contradiction
    · next name hne hname =>
      obtain ⟨source, -, hascii⟩ := Option.bind_eq_some_iff.1 hname
      split at h
      · cases hip : Ipv4.readLoose name with
        | error e =>
          rw [hip] at h
          contradiction
        | ok ip =>
          rw [hip] at h
          cases h
          exact .inr (.inl ⟨ip, rfl⟩)
      · next hnumber =>
        cases h
        exact .inr (.inr ⟨name, source, rfl, hne, hascii, Bool.eq_false_iff.2 hnumber⟩)

/-- A name in ASCII is decoded as it stands. -/
theorem readWeb_ascii {name ascii : List Char} (h : Domain.isAscii name) (hpercent : '%' ∉ name)
    (hbracket : '[' ∉ name) (hname : Domain.toAscii? name = some ascii) (hne : ascii ≠ []) :
    readWeb name =
      if Ipv4.endsInNumber ascii then (Ipv4.readLoose ascii).map .ipv4 else .ok (.domain ascii) := by
  have hdecoded : (decodeStrict? (percentDecode name)).bind Domain.toAscii? = some ascii := by
    rw [percentDecode_ascii h hpercent, decodeStrict?_ascii h]
    exact hname
  unfold readWeb
  split
  · simp at hbracket
  · rw [hdecoded]
    split
    · contradiction
    · next heq => exact absurd (Option.some.inj heq) hne
    · next heq => rw [Option.some.inj heq]

/-- The written form of an address of version 4 is a plain name. -/
theorem isPlainName_print_ipv4 (ip : Ipv4) : Domain.IsPlainName ip.print := by
  have hdigit : ∀ d < 10, d.digitChar.toNat < 0x80 ∧ Unicode.lowerAscii d.digitChar = d.digitChar ∧
      Domain.isForbidden d.digitChar = false := by decide
  have hchar : ∀ c ∈ ip.print, c.toNat < 0x80 ∧ Unicode.lowerAscii c = c ∧
      Domain.isForbidden c = false := by
    intro c hc
    rcases exists_of_mem_joinWith hc with hdot | ⟨piece, hpiece, hc⟩
    · rw [List.mem_singleton.1 hdot]
      decide
    · obtain ⟨byte, -, rfl⟩ := List.mem_map.1 hpiece
      obtain ⟨d, hd, rfl⟩ := exists_of_mem_toDigits (by decide) hc
      exact hdigit d hd
  refine ⟨Domain.isAscii_iff.2 fun c hc => (hchar c hc).1, ?_, fun c hc => (hchar c hc).2.2, ?_⟩
  · exact (List.map_congr_left fun c hc => (hchar c hc).2.1).trans (List.map_id _)
  · intro label hlabel
    rw [Ipv4.splitOn_print] at hlabel
    obtain ⟨byte, -, rfl⟩ := List.mem_map.1 hlabel
    rw [Bool.eq_false_iff]
    intro hmark
    obtain ⟨rest, hrest⟩ := List.isPrefixOf_iff_prefix.1 hmark
    have hx : 'x' ∈ decimal byte.toNat := by
      rw [← hrest]
      simp [Domain.asciiMark]
    exact absurd (isDigit_of_mem_decimal hx) (by decide)

theorem not_mem_of_isForbidden {name : List Char} {c : Char} (hc : Domain.isForbidden c)
    (hname : ∀ d ∈ name, Domain.isForbidden d = false) : c ∉ name := by
  intro hmem
  rw [hname c hmem] at hc
  contradiction

/-- An address of version 4 is read of its written form. -/
theorem readWeb_print_ipv4 (ip : Ipv4) : readWeb ip.print = .ok (.ipv4 ip) := by
  have hplain := isPlainName_print_ipv4 ip
  have hne : ip.print ≠ [] := by
    intro hnil
    have hread := Ipv4.readLoose_print ip
    rw [hnil] at hread
    contradiction
  rw [readWeb_ascii hplain.isAscii (not_mem_of_isForbidden (by decide) hplain.allowed)
    (not_mem_of_isForbidden (by decide) hplain.allowed) (Domain.toAscii?_eq_self hplain) hne,
    if_pos (Ipv4.endsInNumber_print ip), Ipv4.readLoose_print]
  rfl

/-- A host of the web is read again of its written form. -/
theorem readWeb_print {text : List Char} {host : Host} (h : readWeb text = .ok host)
    (hsettled : ∀ name, host = .domain name → Domain.IsSettled name) :
    readWeb host.print = .ok host := by
  rcases cases_of_readWeb h with ⟨ip, rfl⟩ | ⟨ip, rfl⟩ | ⟨name, source, rfl, hne, hname, hnumber⟩
  · exact readBracketed_print ip
  · exact readWeb_print_ipv4 ip
  · obtain ⟨hascii, hfree⟩ := Domain.of_toAscii? hname
    rw [print, readWeb_ascii hascii (not_mem_of_isForbidden (by decide) hfree)
      (not_mem_of_isForbidden (by decide) hfree) (hsettled name rfl source hname) hne,
      if_neg (by simp [hnumber])]

theorem isSpelled_of_readWeb {text : List Char} {host : Host} (h : readWeb text = .ok host) :
    host.IsSpelled := by
  rcases cases_of_readWeb h with ⟨ip, rfl⟩ | ⟨ip, rfl⟩ | ⟨name, source, rfl, -, hname, -⟩
  · trivial
  · trivial
  · exact fun c hc => isNamed_of_isForbidden ((Domain.of_toAscii? hname).2 c hc)

/-- A host that is kept as it is: an address, or a name in ASCII without controls and without what
is forbidden. -/
theorem cases_of_readOpaque {text : List Char} {host : Host} (h : readOpaque text = .ok host) :
    (∃ ip, host = .ipv6 ip) ∨ ∃ name, host = .domain name ∧
      ∀ c ∈ name, c.toNat < 0x80 ∧ isControl c = false ∧ isForbidden c = false := by
  have hdigit : ∀ d < 16, (upperHexDigit d).toNat < 0x80 ∧ isControl (upperHexDigit d) = false ∧
      isForbidden (upperHexDigit d) = false := by decide
  unfold readOpaque at h
  split at h
  · exact .inl (exists_of_readBracketed h)
  · split at h
    · contradiction
    · next hallowed =>
      cases h
      refine .inr ⟨_, rfl, fun c hc => ?_⟩
      rcases of_mem_percentEncode hc with ⟨hmem, hascii, hcontrol⟩ | rfl | ⟨d, hd, rfl⟩
      · refine ⟨hascii, hcontrol, Bool.eq_false_iff.2 fun hforbidden => hallowed ?_⟩
        exact List.any_eq_true.2 ⟨c, hmem, hforbidden⟩
      · decide
      · exact hdigit d hd

theorem isSpelled_of_readOpaque {text : List Char} {host : Host} (h : readOpaque text = .ok host) :
    host.IsSpelled := by
  rcases cases_of_readOpaque h with ⟨ip, rfl⟩ | ⟨name, rfl, hname⟩
  · trivial
  · intro c hc
    obtain ⟨-, hcontrol, hforbidden⟩ := hname c hc
    simp [isControl, isForbidden] at hcontrol hforbidden
    have hblank : c.toNat ≠ 0x20 := fun heq => by
      have hspace : c = ' ' := by rw [← Char.ofNat_toNat c, heq]
      simp_all
    have hbeyond : 0x20 < c.toNat := by omega
    simp [isNamed, isSpelled, hbeyond, hforbidden]

/-- A host that is kept as it is is read again of its written form. -/
theorem readOpaque_print {text : List Char} {host : Host} (h : readOpaque text = .ok host) :
    readOpaque host.print = .ok host := by
  rcases cases_of_readOpaque h with ⟨ip, rfl⟩ | ⟨name, rfl, hname⟩
  · exact readBracketed_print ip
  · have hkept : percentEncode isControl name = name := by
      have hchar : ∀ c ∈ name, percentChar isControl c = [c] := by
        intro c hc
        obtain ⟨hascii, hcontrol, -⟩ := hname c hc
        rw [percentChar, if_pos (by simp [hascii, hcontrol])]
      rw [percentEncode, List.flatMap_congr hchar, List.flatMap_singleton']
    have hallowed : name.any isForbidden = false :=
      List.any_eq_false.2 fun c hc => by simp [(hname c hc).2.2]
    rw [print]
    unfold readOpaque
    split
    · have hbracket := (hname '[' (by simp)).2.2
      contradiction
    · rw [hallowed, hkept]
      rfl

/-! ## What stands in a written form -/

theorem of_mem_print_ipv6 {ip : Ipv6} {c : Char} (h : c ∈ ip.print) :
    c = ':' ∨ ∃ d < 16, c = d.digitChar := by
  have hgroups : ∀ {groups : List UInt16}, c ∈ Ipv6.printGroups groups →
      c = ':' ∨ ∃ d < 16, c = d.digitChar := by
    intro groups hc
    rcases exists_of_mem_joinWith hc with hcolon | ⟨piece, hpiece, hc⟩
    · exact .inl (List.mem_singleton.1 hcolon)
    · obtain ⟨group, -, rfl⟩ := List.mem_map.1 hpiece
      exact .inr (exists_of_mem_toDigits (by decide) hc)
  rw [Ipv6.print] at h
  dsimp only at h
  split at h
  · exact hgroups h
  · rcases List.mem_append.1 h with h | h
    · rcases List.mem_append.1 h with h | h
      · exact hgroups h
      · exact .inl (by simpa using h)
    · exact hgroups h

/-- No separator stands in the written form of a host. -/
theorem IsSpelled.isSpelled {host : Host} (h : host.IsSpelled) : ∀ c ∈ host.print, isSpelled c := by
  have hnamed : ∀ {c : Char}, isNamed c → Host.isSpelled c := fun hc =>
    (Bool.and_eq_true_iff.1 hc).1
  intro c hc
  cases host with
  | domain name => exact hnamed (h c hc)
  | ipv4 ip =>
    exact hnamed (isNamed_of_isForbidden ((isPlainName_print_ipv4 ip).allowed c hc))
  | ipv6 ip =>
    simp only [print, List.cons_append, List.mem_cons, List.mem_append, List.not_mem_nil,
      or_false] at hc
    rcases hc with rfl | hc | rfl
    · decide
    · rcases of_mem_print_ipv6 hc with rfl | ⟨d, hd, rfl⟩
      · decide
      · exact hnamed (isNamed_digitChar d hd)
    · decide

end Host

/-- No host reads as the name of a drive. -/
theorem Host.IsSpelled.isDrive_print {host : Host} (h : host.IsSpelled) :
    Url.isDrive host.print = false := by
  have hname : ∀ {name : List Char}, (∀ c ∈ name, isNamed c) → Url.isDrive name = false := by
    intro name hname
    rw [Bool.eq_false_iff]
    intro hdrive
    match name, hdrive with
    | [letter, c], hdrive =>
      have hmarks := (Bool.and_eq_true_iff.1 (hname c (by simp))).2
      have hc := (Bool.and_eq_true_iff.1 hdrive).2
      rw [Bool.or_eq_true, beq_iff_eq, beq_iff_eq] at hc
      rcases hc with rfl | rfl <;> contradiction
  cases host with
  | domain name => exact hname h
  | ipv4 ip =>
    exact hname fun c hc => isNamed_of_isForbidden ((isPlainName_print_ipv4 ip).allowed c hc)
  | ipv6 ip =>
    have hletter : Char.isAlpha '[' = false := by decide
    rw [print, List.cons_append]
    unfold Url.isDrive
    split
    · next heq =>
      rw [← (List.cons.inj heq).1, hletter]
      rfl
    · rfl

namespace Url

/-- What neither opens or closes a bracket nor ends a host is passed over. -/
theorem splitHost_append {inside : Bool} {text : List Char}
    (h : ∀ c ∈ text, (c ≠ ':' ∨ inside) ∧ (c ≠ '[' ∨ inside) ∧ (c ≠ ']' ∨ !inside))
    (rest : List Char) :
    splitHost inside (text ++ rest) =
      (text ++ (splitHost inside rest).1, (splitHost inside rest).2) := by
  induction text with
  | nil => rfl
  | cons c text ih =>
    obtain ⟨⟨hcolon, hopen, hclose⟩, htext⟩ := List.forall_mem_cons.1 h
    have hinside : (if c == '[' then true else if c == ']' then false else inside) = inside := by
      split
      · next hc => exact ((or_iff_right (not_not_intro (eq_of_beq hc))).1 hopen).symm
      · split
        · next hc => simpa using ((or_iff_right (not_not_intro (eq_of_beq hc))).1 hclose).symm
        · rfl
    rw [List.cons_append, splitHost, if_neg (by simpa [or_iff_not_imp_left] using hcolon), hinside,
      ih htext]
    rfl

end Url

/-- A port behind a host is told from it. -/
theorem Host.IsSpelled.splitHost_append {host : Host} (h : host.IsSpelled) {rest : List Char}
    (hrest : rest = [] ∨ rest.head? = some ':') :
    Url.splitHost false (host.print ++ rest) = (host.print, rest) := by
  have hend : Url.splitHost false rest = ([], rest) := by
    rcases hrest with rfl | hcolon
    · rfl
    · cases rest with
      | nil => rfl
      | cons c rest =>
        obtain rfl : c = ':' := Option.some.inj hcolon
        simp [Url.splitHost]
  have hname : ∀ {name : List Char}, (∀ c ∈ name, isNamed c) →
      Url.splitHost false (name ++ rest) = (name, rest) := by
    intro name hname
    rw [Url.splitHost_append, hend, List.append_nil]
    intro c hc
    have hmarks := (Bool.and_eq_true_iff.1 (hname c hc)).2
    simp at hmarks
    exact ⟨.inl hmarks.1, .inl hmarks.2.1, .inl hmarks.2.2.1⟩
  cases host with
  | domain name => exact hname h
  | ipv4 ip =>
    exact hname fun c hc => isNamed_of_isForbidden ((isPlainName_print_ipv4 ip).allowed c hc)
  | ipv6 ip =>
    have hdigit : ∀ d < 16, d.digitChar ≠ ']' := by decide
    have hinside : ∀ c ∈ ip.print, (c ≠ ':' ∨ true) ∧ (c ≠ '[' ∨ true) ∧ (c ≠ ']' ∨ !true) := by
      intro c hc
      rcases of_mem_print_ipv6 hc with rfl | ⟨d, hd, rfl⟩
      · decide
      · exact ⟨.inr rfl, .inr rfl, .inl (hdigit d hd)⟩
    have hclosed : Url.splitHost true (']' :: rest) = ([']'], rest) := by
      simp [Url.splitHost, hend]
    have hopened : ∀ text, Url.splitHost false ('[' :: text) =
        ('[' :: (Url.splitHost true text).1, (Url.splitHost true text).2) := by
      intro text
      rw [Url.splitHost]
      rfl
    rw [print, List.cons_append, List.cons_append, List.append_assoc, List.singleton_append,
      hopened, Url.splitHost_append hinside, hclosed]

end FlowPeers
