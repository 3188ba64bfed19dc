import FlowPeers.Proofs.Canonical
import FlowPeers.Proofs.Encoded

/-!
# Targets for URLs

The written form of a URL is read again as the target of a request, by stricter rules. All that is
percent-encoded in a URL fits them, so it depends on little whether a request can be sent to a URL
(`Url.IsEncoded.exists_read_iff`): how long it is, and whether it has a host, in which a target has
no percent sign and neither quotation marks nor braces (`Host.IsBare`). An authority is read
character by character, and each of its parts leaves what has been seen as it must be for the next
one (`Target.foldlM_info`, `Target.foldlM_host`, `Target.foldlM_port`).
-/

namespace FlowPeers

open Text

/-- Whether no character stands in the written form of a host that a URL may have there and a target
may not. -/
def Host.IsBare (host : Host) : Prop :=
  ∀ c ∈ host.print, c ∉ ['"', '%', '\x60', '\x7b', '\x7d']

instance (host : Host) : Decidable host.IsBare :=
  decidable_of_iff (host.print.all (· ∉ ['"', '%', '\x60', '\x7b', '\x7d']) = true)
    (List.all_eq_true.trans (forall₂_congr fun _ _ => decide_eq_true_iff))

/-! ## Passing over an authority -/

namespace Target

variable {s s' : Scan} {text rest : List Char}

theorem eq_of_atSign (hat : s.atSign = false) : { s with atSign := false } = s := by
  rw [← hat]

theorem step_of_isBareChar {c : Char} (h : isBareChar c) (s : Scan) :
    s.step c = .ok { s with atSign := false } := by
  obtain ⟨hchar, hmarks⟩ := Bool.and_eq_true_iff.1 h
  have hpercent : c ≠ '%' := by
    rintro rfl
    contradiction
  simp only [Bool.not_eq_true', List.contains_eq_mem, decide_eq_false_iff_not, List.mem_cons,
    List.not_mem_nil, or_false, not_or] at hmarks
  obtain ⟨hcolon, hopen, hclose, hat⟩ := hmarks
  simp [Scan.step, hchar, hpercent, hcolon, hopen, hclose, hat]

theorem step_colon (h : s.colons < 8) :
    s.step ':' = .ok { s with atSign := false, colons := s.colons + 1 } := by
  have hfew : ¬ 8 ≤ s.colons := by omega
  simp [Scan.step, hfew]

/-- What can stand in the name of a host has no meaning of its own, strange characters apart. -/
theorem isBareChar_of_isNameChar {c : Char} (h : Host.isNameChar c)
    (hmarks : c ∉ ['"', '%', '\x60', '\x7b', '\x7d']) : isBareChar c :=
  forall_ascii (P := fun c => Host.isNameChar c → c ∉ ['"', '%', '\x60', '\x7b', '\x7d'] →
    isBareChar c) (by decide)
    (of_decide_eq_true (Bool.and_eq_true_iff.1 (Bool.and_eq_true_iff.1 h).1).1) h hmarks

theorem foldlM_append_of_ok (h : text.foldlM Scan.step s = .ok s') (rest : List Char) :
    (text ++ rest).foldlM Scan.step s = rest.foldlM Scan.step s' := by
  rw [List.foldlM_append, h]
  rfl

theorem foldlM_cons_of_ok {c : Char} (h : s.step c = .ok s') (rest : List Char) :
    (c :: rest).foldlM Scan.step s = rest.foldlM Scan.step s' := by
  rw [List.foldlM_cons, h]
  rfl

theorem foldlM_bare (h : ∀ c ∈ text, isBareChar c) (hat : s.atSign = false) :
    text.foldlM Scan.step s = .ok s := by
  induction text with
  | nil => rfl
  | cons c text ih =>
    obtain ⟨hc, htext⟩ := List.forall_mem_cons.1 h
    rw [foldlM_cons_of_ok (step_of_isBareChar hc s), eq_of_atSign hat, ih htext]

/-- The name or the password of a user leaves nothing behind but that it may have a percent sign. -/
theorem foldlM_user (h : ∀ c ∈ text, Url.isUserChar c) (hat : s.atSign = false) :
    ∃ percent, text.foldlM Scan.step s = .ok { s with percent := percent } := by
  induction text generalizing s with
  | nil => exact ⟨s.percent, rfl⟩
  | cons c text ih =>
    obtain ⟨hc, htext⟩ := List.forall_mem_cons.1 h
    rcases Bool.or_eq_true_iff.1 hc with hpercent | hbare
    · obtain rfl : c = '%' := eq_of_beq hpercent
      have hstep : s.step '%' = .ok { s with percent := true } := by
        rw [hat]
        rfl
      obtain ⟨percent, hrest⟩ := ih (s := { s with percent := true }) htext hat
      exact ⟨percent, by rw [foldlM_cons_of_ok hstep, hrest]⟩
    · obtain ⟨percent, hrest⟩ := ih htext hat
      refine ⟨percent, ?_⟩
      rw [foldlM_cons_of_ok (step_of_isBareChar hbare s), eq_of_atSign hat, hrest]

/-- What a user has in front of the host is over with the at sign. -/
theorem foldlM_info {user password : List Char} (huser : ∀ c ∈ user, Url.isUserChar c)
    (hpassword : ∀ c ∈ password, Url.isUserChar c) :
    (user ++ (if password.isEmpty then [] else ':' :: password) ++ ['@']).foldlM Scan.step {} =
      .ok { atSign := true } := by
  obtain ⟨percent, hfirst⟩ := foldlM_user (s := {}) huser rfl
  rw [List.append_assoc, foldlM_append_of_ok hfirst]
  split
  · rfl
  · have hcolon : Scan.step { percent := percent } ':' =
        .ok { colons := 1, percent := percent } := rfl
    obtain ⟨percent', hsecond⟩ :=
      foldlM_user (s := { colons := 1, percent := percent }) hpassword rfl
    rw [List.cons_append, foldlM_cons_of_ok hcolon, foldlM_append_of_ok hsecond]
    rfl

/-- Colons among other characters are counted. -/
theorem foldlM_colons (h : ∀ c ∈ text, c = ':' ∨ isBareChar c) (hat : s.atSign = false)
    (hfew : s.colons + text.count ':' ≤ 8) :
    text.foldlM Scan.step s = .ok { s with colons := s.colons + text.count ':' } := by
  induction text generalizing s with
  | nil => rfl
  | cons c text ih =>
    obtain ⟨hc, htext⟩ := List.forall_mem_cons.1 h
    rcases hc with rfl | hbare
    · rw [List.count_cons_self] at hfew
      rw [foldlM_cons_of_ok (step_colon (by omega)), ih htext rfl (by simp only; omega),
        List.count_cons_self, ← hat]
      simp only [Nat.add_assoc, Nat.add_comm 1]
    · have hne : c ≠ ':' := by
        rintro rfl
        contradiction
      rw [List.count_cons_of_ne hne] at hfew ⊢
      rw [foldlM_cons_of_ok (step_of_isBareChar hbare s), eq_of_atSign hat, ih htext hat hfew]

end Target

/-- There are at most seven colons in an address of version 6. -/
theorem Ipv6.count_colon_print_le (ip : Ipv6) : ip.print.count ':' ≤ 7 := by
  have hgroups : ∀ groups : List UInt16, (printGroups groups).count ':' ≤ groups.length - 1 := by
    intro groups
    have hpieces := of_mem_hexadecimal groups
    rw [printGroups]
    induction groups with
    | nil => simp [joinWith]
    | cons group rest ih =>
      rw [List.map_cons] at hpieces ⊢
      obtain ⟨⟨-, hfirst⟩, hrest⟩ := List.forall_mem_cons.1 hpieces
      cases rest with
      | nil => simp [joinWith, List.count_eq_zero.2 hfirst]
      | cons next rest =>
        have hle := ih hrest
        rw [joinWith_cons _ _ (by simp), List.count_append, List.count_append,
          List.count_eq_zero.2 hfirst]
        simp only [List.length_cons, Nat.add_sub_cancel, List.count_singleton_self] at hle ⊢
        omega
  obtain ⟨hle, -⟩ := longestGap_zeros ip.groups
  have hlength := ip.length_groups
  have hwhole := hgroups ip.groups
  rw [print]
  generalize longestGap ip.groups = gap at hle ⊢
  obtain ⟨start, length⟩ := gap
  have hbefore := hgroups (ip.groups.take start)
  have hafter := hgroups (ip.groups.drop (start + length))
  dsimp only at hle ⊢
  split
  · omega
  · rw [List.count_append, List.count_append]
    simp only [List.length_take, List.length_drop] at hbefore hafter
    have hgap : [':', ':'].count ':' = 2 := by decide
    omega

namespace Target

variable {s s' : Scan} {text rest : List Char}

/-- A host without strange characters leaves nothing behind but brackets that are closed. -/
theorem foldlM_host {host : Host} (h : host.IsEncoded) (hbare : host.IsBare) (atSign : Bool) :
    ∃ bracket, host.print.foldlM Scan.step { atSign := atSign } =
      .ok { opened := bracket, closed := bracket } := by
  have hdigit : ∀ d < 16, isBareChar d.digitChar := by decide
  -- the first character takes back that there was an at sign
  have hname : ∀ {name : List Char}, name ≠ [] → (∀ c ∈ name, isBareChar c) →
      name.foldlM Scan.step { atSign := atSign } = .ok {} := by
    intro name hne hname
    obtain ⟨c, rest, rfl⟩ := List.exists_cons_of_ne_nil hne
    obtain ⟨hc, hrest⟩ := List.forall_mem_cons.1 hname
    rw [foldlM_cons_of_ok (step_of_isBareChar hc _)]
    exact foldlM_bare hrest rfl
  cases host with
  | domain name =>
    obtain ⟨hne, hchars⟩ := h
    exact ⟨false, hname hne fun c hc => isBareChar_of_isNameChar (hchars c hc) (hbare c hc)⟩
  | ipv4 ip =>
    refine ⟨false, hname h.print_ne_nil fun c hc => ?_⟩
    rcases exists_of_mem_joinWith hc with hdot | ⟨piece, hpiece, hc⟩
    · rw [List.mem_singleton.1 hdot]
      decide
    · obtain ⟨byte, -, rfl⟩ := List.mem_map.1 hpiece
      obtain ⟨d, hd, rfl⟩ := exists_of_mem_toDigits (by decide) hc
      exact hdigit d (by omega)
  | ipv6 ip =>
    have hopen : Scan.step { atSign := atSign } '[' = .ok { opened := true } := rfl
    have hinside : ∀ c ∈ ip.print, c = ':' ∨ isBareChar c := fun c hc =>
      (Host.of_mem_print_ipv6 hc).imp_right fun ⟨d, hd, heq⟩ => heq ▸ hdigit d hd
    have hcolons := foldlM_colons (s := { opened := true }) hinside rfl
      (by have hle := ip.count_colon_print_le; simp only; omega)
    refine ⟨true, ?_⟩
    rw [Host.print, List.cons_append, foldlM_cons_of_ok hopen, foldlM_append_of_ok hcolons]
    rfl

theorem exists_of_foldlM_append (h : (text ++ rest).foldlM Scan.step s = .ok s') :
    ∃ mid, text.foldlM Scan.step s = .ok mid ∧ rest.foldlM Scan.step mid = .ok s' := by
  rw [List.foldlM_append] at h
  cases hmid : text.foldlM Scan.step s with
  | error e =>
    rw [hmid] at h
    contradiction
  | ok mid =>
    rw [hmid] at h
    exact ⟨mid, rfl, h⟩

theorem exists_of_foldlM_cons {c : Char} (h : (c :: text).foldlM Scan.step s = .ok s') :
    ∃ mid, s.step c = .ok mid ∧ text.foldlM Scan.step mid = .ok s' := by
  rw [List.foldlM_cons] at h
  cases hmid : s.step c with
  | error e =>
    rw [hmid] at h
    contradiction
  | ok mid =>
    rw [hmid] at h
    exact ⟨mid, rfl, h⟩

/-- A percent sign is accounted for only at the end of a user or of brackets. -/
theorem percent_of_foldlM (hmarks : ∀ c ∈ text, c ≠ '@' ∧ c ≠ ']') (hpercent : s.percent)
    (h : text.foldlM Scan.step s = .ok s') : s'.percent := by
  induction text generalizing s with
  | nil =>
    cases h
    exact hpercent
  | cons c text ih =>
    obtain ⟨⟨hat, hclose⟩, htext⟩ := List.forall_mem_cons.1 hmarks
    obtain ⟨mid, hstep, hrest⟩ := exists_of_foldlM_cons h
    refine ih htext ?_ hrest
    simp only [Scan.step, beq_eq_false_iff_ne.2 hat, beq_eq_false_iff_ne.2 hclose] at hstep
    split at hstep
    · split at hstep
      · contradiction
      · cases hstep
        exact hpercent
    · split at hstep
      · split at hstep
        · contradiction
        · cases hstep
          exact hpercent
      · simp only [Bool.false_eq_true, if_false] at hstep
        split at hstep
        · cases hstep
          rfl
        · split at hstep
          · cases hstep
            exact hpercent
          · contradiction

/-- A port is one colon and digits. -/
theorem foldlM_port (port : Option UInt16) (bracket : Bool) :
    ∃ colons ≤ 1, (PeerAddress.portText port).foldlM Scan.step
        { opened := bracket, closed := bracket } =
      .ok { colons := colons, opened := bracket, closed := bracket } := by
  have hdigit : ∀ d < 10, isBareChar d.digitChar := by decide
  cases port with
  | none => exact ⟨0, by omega, rfl⟩
  | some port =>
    have hcolon : Scan.step { opened := bracket, closed := bracket } ':' =
        .ok { colons := 1, opened := bracket, closed := bracket } := rfl
    refine ⟨1, by omega, ?_⟩
    rw [PeerAddress.portText, foldlM_cons_of_ok hcolon]
    exact foldlM_bare (forall_mem_toDigits (by decide) hdigit _) rfl

end Target

namespace Url

/-! ## Authorities -/

/-- What stands in front of the host in the written form of an authority. -/
def Authority.info (a : Authority) : List Char :=
  if a.user.isEmpty && a.password.isEmpty then []
  else a.user ++ (if a.password.isEmpty then [] else ':' :: a.password) ++ ['@']

theorem Authority.print_of_host {a : Authority} {host : Host} (h : a.host = some host) :
    a.print = a.info ++ host.print ++ PeerAddress.portText a.port := by
  rw [print, h]
  cases a.port <;> rfl

theorem foldlM_info {a : Authority} (h : a.IsEncoded) :
    ∃ atSign, a.info.foldlM Target.Scan.step {} = .ok { atSign := atSign } := by
  rw [Authority.info]
  split
  · exact ⟨false, rfl⟩
  · exact ⟨true, Target.foldlM_info h.user h.password⟩

variable {a : Authority} {host : Host}

/-- An authority whose host has no strange characters can stand in a target. -/
theorem Authority.IsEncoded.readAuthority_append (h : a.IsEncoded) (hhost : a.host = some host)
    (hbare : host.IsBare) (hwithin : IsWithin a.print) {beyond : List Char}
    (hbeyond : IsBeyond beyond) :
    Target.readAuthority (a.print ++ beyond) = .ok (a.print, beyond) := by
  obtain ⟨atSign, hinfo⟩ := foldlM_info h
  obtain ⟨bracket, hname⟩ := Target.foldlM_host (h.host host hhost) hbare atSign
  obtain ⟨colons, hfew, hport⟩ := Target.foldlM_port a.port bracket
  have hscan : a.print.foldlM Target.Scan.step {} =
      .ok { colons := colons, opened := bracket, closed := bracket } := by
    rw [print_of_host hhost, List.append_assoc, Target.foldlM_append_of_ok hinfo,
      Target.foldlM_append_of_ok hname, hport]
  have hfits : ¬ 1 < colons := by omega
  obtain ⟨htake, hdrop⟩ := takeWhile_within hwithin hbeyond
  rw [Target.readAuthority, htake, hscan, hdrop]
  simp [hfits]

/-- No percent sign stands in a host that is an address. -/
theorem exists_domain_of_percent (h : '%' ∈ host.print) : ∃ name, host = .domain name := by
  cases host with
  | domain name => exact ⟨name, rfl⟩
  | ipv4 ip => exact absurd ((Host.isPlainName_print_ipv4 ip).allowed '%' h) (by decide)
  | ipv6 ip =>
    have hdigit : ∀ d < 16, d.digitChar ≠ '%' := by decide
    simp only [Host.print, List.cons_append, List.mem_cons, List.mem_append, List.not_mem_nil,
      or_false] at h
    rcases h with heq | hmem | heq
    · contradiction
    · rcases Host.of_mem_print_ipv6 hmem with heq | ⟨d, hd, heq⟩
      · contradiction
      · exact absurd heq.symm (hdigit d hd)
    · contradiction

/-- An authority that is passed over without a percent sign left has a host without strange
characters. -/
theorem Authority.IsEncoded.isBare (h : a.IsEncoded) (hhost : a.host = some host)
    {scan : Target.Scan} (hscan : a.print.foldlM Target.Scan.step {} = .ok scan)
    (hpercent : scan.percent = false) : host.IsBare := by
  intro c hc hmark
  rw [print_of_host hhost] at hscan
  have hscanned := Target.isScanned_of_foldlM hscan c (by simp [hc])
  simp only [List.mem_cons, List.not_mem_nil, or_false] at hmark
  rcases hmark with rfl | rfl | rfl | rfl | rfl
  · contradiction
  · -- the percent sign in the name is still there at the end
    obtain ⟨name, rfl⟩ := exists_domain_of_percent hc
    have hmarks : ∀ {c : Char}, Host.isNameChar c → c ≠ '@' ∧ c ≠ ']' := by
      intro c hc
      refine ⟨?_, ?_⟩ <;>
      · rintro rfl
        contradiction
    have hport : ∀ c ∈ PeerAddress.portText a.port, c ≠ '@' ∧ c ≠ ']' := by
      cases a.port with
      | none => simp [PeerAddress.portText]
      | some port =>
        have hdigit : ∀ d < 10, d.digitChar ≠ '@' ∧ d.digitChar ≠ ']' := by decide
        exact List.forall_mem_cons.2 ⟨by decide, forall_mem_toDigits (by decide) hdigit _⟩
    obtain ⟨before, after, rfl⟩ := List.append_of_mem hc
    have hchars := (h.host _ hhost).2
    have hsplit : a.info ++ (Host.domain (before ++ '%' :: after)).print ++
        PeerAddress.portText a.port =
        (a.info ++ before) ++ '%' :: (after ++ PeerAddress.portText a.port) := by
      simp [Host.print]
    rw [hsplit] at hscan
    obtain ⟨mid, -, hscan⟩ := Target.exists_of_foldlM_append hscan
    obtain ⟨next, hstep, hscan⟩ := Target.exists_of_foldlM_cons hscan
    have hkept : scan.percent = true := by
      refine Target.percent_of_foldlM (List.forall_mem_append.2 ⟨fun c hc => ?_, hport⟩) ?_ hscan
      · exact hmarks (hchars c (by simp [hc]))
      · cases hstep
        rfl
    rw [hkept] at hpercent
    contradiction
  · contradiction
  · contradiction
  · contradiction

/-- What is read of an authority in front of something else is all of it, and its host has no
strange characters. -/
theorem Authority.IsEncoded.of_readAuthority (h : a.IsEncoded) (hwithin : IsWithin a.print)
    {beyond : List Char} (hbeyond : IsBeyond beyond) {parts : List Char × List Char}
    (hread : Target.readAuthority (a.print ++ beyond) = .ok parts) :
    parts = (a.print, beyond) ∧ ∀ host, a.host = some host → host.IsBare := by
  obtain ⟨htake, hdrop⟩ := takeWhile_within hwithin hbeyond
  rw [Target.readAuthority, htake, hdrop] at hread
  split at hread
  · contradiction
  · next scan hscan =>
    split at hread
    · contradiction
    · next hfits =>
      cases hread
      refine ⟨rfl, fun host hhost => h.isBare hhost hscan ?_⟩
      rw [Bool.not_eq_true, Bool.or_eq_false_iff] at hfits
      exact hfits.2

end Url

/-! ## Schemes and paths -/

namespace Target

/-- A scheme in front of two slashes is told from what follows, if it is not too long. -/
theorem splitScheme_append {scheme : List Char} (h : Url.IsScheme scheme) (rest : List Char) :
    splitScheme (scheme ++ ':' :: '/' :: '/' :: rest) =
      if 64 < scheme.length then .error .schemeTooLong else .ok (some scheme, rest) := by
  have hcolon : isSchemeChar ':' = false := by decide
  have htake : (scheme ++ ':' :: '/' :: '/' :: rest).takeWhile isSchemeChar = scheme := by
    simp [List.takeWhile_append_of_pos h.isSchemeChar, hcolon]
  have hdrop : (scheme ++ ':' :: '/' :: '/' :: rest).dropWhile isSchemeChar =
      ':' :: '/' :: '/' :: rest := by
    simp [List.dropWhile_append_of_pos h.isSchemeChar, hcolon]
  have hlong : 3 < (scheme ++ ':' :: '/' :: '/' :: rest).length := by
    have hpos := List.length_pos_iff.2 h.ne_nil
    simp only [List.length_append, List.length_cons]
    omega
  rw [splitScheme, htake, hdrop]
  simp only [h.lower, if_pos hlong]
  split
  · next hweb =>
    have hshort : ∀ s ∈ webSchemes, s.length ≤ 64 := by decide
    have hle := hshort scheme (List.contains_iff_mem.1 hweb)
    rw [if_neg (by omega)]
  · rfl

/-- A scheme in front of a colon alone is not told from the rest. -/
theorem splitScheme_of_ne {scheme rest : List Char} (h : Url.IsScheme scheme)
    (hne : ∀ more, rest ≠ '/' :: '/' :: more) :
    splitScheme (scheme ++ ':' :: rest) = .ok (none, scheme ++ ':' :: rest) := by
  have hcolon : isSchemeChar ':' = false := by decide
  have hdrop : (scheme ++ ':' :: rest).dropWhile isSchemeChar = ':' :: rest := by
    simp [List.dropWhile_append_of_pos h.isSchemeChar, hcolon]
  rw [splitScheme, hdrop]
  dsimp only
  split
  · next more heq => exact absurd (List.cons.inj heq).2 (hne more)
  · rfl

/-- A text that begins with a scheme and a colon is read in full, if it is not too long. -/
theorem read_scheme {scheme : List Char} (h : Url.IsScheme scheme) (rest : List Char) :
    read (scheme ++ ':' :: rest) =
      if 65534 < (encode (scheme ++ ':' :: rest)).length then .error .tooLong
      else readFull (scheme ++ ':' :: rest) := by
  obtain ⟨c, more, rfl⟩ := List.exists_cons_of_ne_nil h.ne_nil
  have hslash : c ≠ '/' := by
    rintro rfl
    exact absurd (h.isSchemeChar '/' (List.mem_cons_self ..)) (by decide)
  unfold read
  split
  · rfl
  · split
    · next heq => cases heq
    · next heq => simp at heq
    · next heq => exact absurd (List.cons.inj heq).1 hslash
    · rfl

/-- A path and a query are told from each other and from a fragment, which is dropped. -/
theorem readPath_append {path : List Char} {query : Option (List Char)}
    (hpath : ∀ c ∈ path, isPathChar c) (hquery : ∀ text, query = some text → ∀ c ∈ text, isQueryChar c)
    (fragment : Option (List Char)) :
    readPath (path ++ Url.suffixText '?' query ++ Url.suffixText '#' fragment) = .ok (path, query) := by
  have hpathMarks : ∀ c ∈ path, (c != '#') = true ∧ (c != '?') = true := by
    intro c hc
    have hchar := hpath c hc
    refine ⟨bne_iff_ne.2 ?_, bne_iff_ne.2 ?_⟩ <;>
    · rintro rfl
      contradiction
  have hqueryMarks : ∀ c ∈ Url.suffixText '?' query, (c != '#') = true := by
    cases query with
    | none => simp [Url.suffixText]
    | some text =>
      refine List.forall_mem_cons.2 ⟨by decide, fun c hc => bne_iff_ne.2 ?_⟩
      rintro rfl
      exact absurd (hquery text rfl '#' hc) (by decide)
  have hwhole : (path ++ Url.suffixText '?' query ++ Url.suffixText '#' fragment).takeWhile (· != '#') =
      path ++ Url.suffixText '?' query := by
    have hpos : ∀ c ∈ path ++ Url.suffixText '?' query, (c != '#') = true :=
      List.forall_mem_append.2 ⟨fun c hc => (hpathMarks c hc).1, hqueryMarks⟩
    rw [List.takeWhile_append_of_pos hpos]
    cases fragment <;> simp [Url.suffixText]
  have htake : (path ++ Url.suffixText '?' query).takeWhile (· != '?') = path := by
    rw [List.takeWhile_append_of_pos fun c hc => (hpathMarks c hc).2]
    cases query <;> simp [Url.suffixText]
  have hdrop : (path ++ Url.suffixText '?' query).dropWhile (· != '?') = Url.suffixText '?' query := by
    rw [List.dropWhile_append_of_pos fun c hc => (hpathMarks c hc).2]
    cases query <;> simp [Url.suffixText]
  rw [readPath, hwhole, htake, hdrop]
  cases query with
  | none => simp [Url.suffixText, List.all_eq_true.2 hpath]
  | some text =>
    simp [Url.suffixText, List.all_eq_true.2 hpath, List.all_eq_true.2 (hquery text rfl)]

end Target

/-! ## URLs -/

namespace Url

variable {url : Url}

theorem print_of_none (h : url.authority = none) :
    url.print = url.scheme ++ ':' :: (url.path.guard ++ url.beyond) := by
  rw [print, h, beyond]
  cases url.query <;> cases url.fragment <;> simp [Url.suffixText]

theorem IsEncoded.isPathChar (h : url.IsEncoded) (hsome : url.authority ≠ none) :
    ∀ c ∈ url.path.print, Target.isPathChar c := by
  obtain ⟨segments, hpath⟩ := h.rooted hsome
  have hsteps := h.isStep
  rw [hpath] at hsteps ⊢
  intro c hc
  obtain ⟨segment, hsegment, hc⟩ := List.mem_flatMap.1 hc
  rcases List.mem_cons.1 hc with rfl | hc
  · decide
  · exact (Bool.and_eq_true_iff.1 (hsteps segment hsegment c hc)).1

/-- A path without an authority in front does not begin as an authority does. -/
theorem IsEncoded.guard_ne (h : url.IsEncoded) :
    ∀ more, url.path.guard ++ url.beyond ≠ '/' :: '/' :: more := by
  -- what follows the path begins with neither
  have hsuffix : ∀ more, Url.suffixText '?' url.query ++ Url.suffixText '#' url.fragment ≠
      '/' :: more := by
    intro more
    cases url.query <;> cases url.fragment <;> simp [Url.suffixText]
  have hpath := h.path
  intro more
  rw [beyond, List.append_assoc]
  cases hcases : url.path with
  | flat text =>
    rw [hcases] at hpath
    cases text with
    | nil => exact hsuffix _
    | cons c text =>
      rintro heq
      exact hpath (congrArg some (List.cons.inj heq).1)
  | rooted segments =>
    rw [hcases] at hpath
    cases segments with
    | nil => exact hsuffix _
    | cons segment rest =>
      intro heq
      cases segment with
      | cons c segment =>
        obtain rfl : c = '/' := (List.cons.inj (List.cons.inj heq).2).1
        have hslash := hpath _ (List.mem_cons_self ..) '/' (List.mem_cons_self ..)
        contradiction
      | nil =>
        cases rest with
        | nil => exact hsuffix more (List.cons.inj heq).2
        | cons next rest =>
          have hdot := (List.cons.inj (List.cons.inj heq).2).1
          contradiction

/-- Whether a request can be sent to a URL: it is not too long, and it has a host without strange
characters and a scheme that is not too long, or else can stand as an authority itself. -/
def IsRequestable (url : Url) : Prop :=
  (encode url.print).length ≤ 65534 ∧
    match url.authority with
    | some a => (∃ host, a.host = some host ∧ host.IsBare) ∧ url.scheme.length ≤ 64
    | none => Target.readAuthority url.print = .ok (url.print, [])

theorem IsEncoded.exists_read_of_authority_iff (h : url.IsEncoded) {a : Authority}
    (ha : url.authority = some a) :
    (∃ target, Target.read url.print = .ok target) ↔ (encode url.print).length ≤ 65534 ∧
      (∃ host, a.host = some host ∧ host.IsBare) ∧ url.scheme.length ≤ 64 := by
  have hsome : url.authority ≠ none := by simp [ha]
  have hencoded := h.authority a ha
  have hwithin := h.isWithin a ha
  have hbeyond := h.isBeyond hsome
  have hpath := Target.readPath_append (h.isPathChar hsome) h.query url.fragment
  rw [print_of_authority ha, Target.read_scheme h.isScheme, Target.readFull,
    Target.splitScheme_append h.isScheme]
  constructor
  · rintro ⟨target, hread⟩
    split at hread
    · contradiction
    · next hlength =>
      by_cases hscheme : 64 < url.scheme.length
      · rw [if_pos hscheme] at hread
        contradiction
      · rw [if_neg hscheme] at hread
        dsimp only at hread
        split at hread
        · contradiction
        · next hparts =>
          obtain ⟨heq, hbare⟩ := hencoded.of_readAuthority hwithin hbeyond hparts
          cases heq
          split at hread
          · contradiction
          · next hne =>
            refine ⟨by omega, ?_, by omega⟩
            cases hhost : a.host with
            | none => exact absurd (List.isEmpty_iff.2 (hencoded.alone hhost)) hne
            | some host => exact ⟨host, rfl, hbare host hhost⟩
  · rintro ⟨hlength, ⟨host, hhost, hbare⟩, hscheme⟩
    have hne : a.print ≠ [] := by
      have hprint := (hencoded.host host hhost).print_ne_nil
      simp [Authority.print_of_host hhost, hprint]
    rw [if_neg (by omega), if_neg (by omega)]
    dsimp only
    rw [hencoded.readAuthority_append hhost hbare hwithin hbeyond]
    dsimp only
    rw [if_neg (by simpa using hne), beyond, hpath]
    exact ⟨_, rfl⟩

theorem IsEncoded.exists_read_of_none_iff (h : url.IsEncoded) (hnone : url.authority = none) :
    (∃ target, Target.read url.print = .ok target) ↔ (encode url.print).length ≤ 65534 ∧
      Target.readAuthority url.print = .ok (url.print, []) := by
  have hsplit := Target.splitScheme_of_ne h.isScheme h.guard_ne
  rw [print_of_none hnone, Target.read_scheme h.isScheme, Target.readFull, hsplit]
  dsimp only
  constructor
  · rintro ⟨target, hread⟩
    split at hread
    · contradiction
    · next hlength =>
      split at hread
      · contradiction
      · next authority rest hauthority =>
        split at hread
        · next hrest =>
          obtain ⟨hwhole, -⟩ := Target.of_readAuthority hauthority
          rw [List.isEmpty_iff.1 hrest, List.append_nil] at hwhole
          rw [List.isEmpty_iff.1 hrest, ← hwhole] at hauthority
          exact ⟨by omega, hauthority⟩
        · contradiction
  · rintro ⟨hlength, hauthority⟩
    rw [if_neg (by omega), hauthority]
    exact ⟨_, rfl⟩

/-- **A URL is a target if and only if a request can be sent to it.** -/
theorem IsEncoded.exists_read_iff (h : url.IsEncoded) :
    (∃ target, Target.read url.print = .ok target) ↔ url.IsRequestable := by
  rw [IsRequestable]
  cases ha : url.authority with
  | some a => exact h.exists_read_of_authority_iff ha
  | none => exact h.exists_read_of_none_iff ha

end Url

end FlowPeers
