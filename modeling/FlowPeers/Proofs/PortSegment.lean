import FlowPeers.Proofs.Canonical
import FlowPeers.Proofs.Utf8
import FlowPeers.Transaction

/-!
# Ports in addresses

A peer opens transactions for a port where a segment of the path names the port. What is
percent-encoded for a segment is read back as the bytes that it was
(`Text.percentDecode_percentEncode`), so that different ports have different segments. But not every
text is added as a segment (`Url.addSegment_web_cases`): the texts of one and of two dots are passed
over, and tabs and line ends are left out. The URL for a port names this port if and only if it is a
text that can be a segment (`Transaction.namesPort_iff`).
-/

namespace FlowPeers

open Text

/-! ## Percent-encoding undone -/

namespace Text

theorem digitValue?_upperHexDigit : ∀ d < 16, digitValue? 16 (upperHexDigit d) = some d := by
  decide

theorem hexPair?_upperHexDigit (b : UInt8) :
    hexPair? (upperHexDigit (b.toNat / 16)) (upperHexDigit (b.toNat % 16)) = some b := by
  have hb : b.toNat < 256 := b.toNat_lt
  have hsum : b.toNat / 16 * 16 + b.toNat % 16 = b.toNat := by omega
  rw [hexPair?, digitValue?_upperHexDigit _ (by omega), digitValue?_upperHexDigit _ (by omega)]
  simp only [hsum, UInt8.ofNat_toNat]

theorem percentDecode_flatMap_percentByte (bytes : List UInt8) (rest : List Char) :
    percentDecode (bytes.flatMap percentByte ++ rest) = bytes ++ percentDecode rest := by
  induction bytes with
  | nil => rfl
  | cons b bytes ih =>
    rw [List.flatMap_cons, percentByte, List.append_assoc, List.cons_append, List.cons_append,
      List.cons_append, List.nil_append, percentDecode, hexPair?_upperHexDigit]
    exact congrArg (b :: ·) ih

/-- A text is read back from its percent-encoding, as its bytes. -/
theorem percentDecode_percentEncode {escaped : Char → Bool} (h : escaped '%') (s : List Char) :
    percentDecode (percentEncode escaped s) = encode s := by
  induction s with
  | nil => rfl
  | cons c s ih =>
    rw [percentEncode] at ih ⊢
    rw [encode, List.flatMap_cons, List.flatMap_cons, percentChar]
    split
    · next hplain =>
      have hne : c ≠ '%' := by
        rintro rfl
        simp [h] at hplain
      rw [List.singleton_append, percentDecode_cons hne, ih, encode]
    · rw [percentDecode_flatMap_percentByte, ih, encode]

end Text

namespace Url

/-! ## Segments of dots -/

/-- A dot in front is read as a dot, however it is written. -/
theorem exists_of_bareDots_eq_cons {segment rest : List Char} (h : bareDots segment = '.' :: rest) :
    ∃ after, bareDots after = rest ∧ percentDecode segment = 0x2E :: percentDecode after := by
  unfold bareDots at h
  split at h
  · cases h
    exact ⟨_, rfl, rfl⟩
  · cases h
    exact ⟨_, rfl, rfl⟩
  · cases h
    exact ⟨_, rfl, percentDecode_cons (by decide) _⟩
  · contradiction

theorem eq_nil_of_bareDots {segment : List Char} (h : bareDots segment = []) : segment = [] := by
  unfold bareDots at h
  split at h
  · contradiction
  · contradiction
  · contradiction
  · rfl

/-- What is encoded stands for the place where it is only if it is a dot. -/
theorem eq_of_isHere {escaped : Char → Bool} (hescaped : escaped '%') {s : List Char}
    (h : isHere (percentEncode escaped s)) : s = ['.'] := by
  obtain ⟨after, hafter, hdecode⟩ := exists_of_bareDots_eq_cons (eq_of_beq h)
  rw [eq_nil_of_bareDots hafter, percentDecode_percentEncode hescaped] at hdecode
  exact encode_inj hdecode

/-- What is encoded stands for the place above only if it is two dots. -/
theorem eq_of_isAbove {escaped : Char → Bool} (hescaped : escaped '%') {s : List Char}
    (h : isAbove (percentEncode escaped s)) : s = ['.', '.'] := by
  obtain ⟨after, hafter, hdecode⟩ := exists_of_bareDots_eq_cons (eq_of_beq h)
  obtain ⟨after', hafter', hdecode'⟩ := exists_of_bareDots_eq_cons hafter
  rw [hdecode', eq_nil_of_bareDots hafter', percentDecode_percentEncode hescaped] at hdecode
  exact encode_inj hdecode

/-! ## Segments added -/

/-- Whether a text can be a segment: it does not stand for a place, and it holds no character that
is left out of URLs. -/
structure IsSegment (segment : List Char) : Prop where
  notHere : segment ≠ ['.']
  notAbove : segment ≠ ['.', '.']
  isKept : ∀ c ∈ segment, !isIgnored c

/-- What becomes of a text that is added to the segments of a path of the web. -/
theorem addSegment_web_cases {segments : List (List Char)} (h : segments ≠ [[]])
    (segment : List Char) :
    let kept := segment.filter (!isIgnored ·)
    (segment = ['.'] ∨ segment = ['.', '.']) ∧ addSegment .web segments segment = segments ∨
    segment ≠ ['.'] ∧ segment ≠ ['.', '.'] ∧
      (kept = ['.', '.'] ∧ addSegment .web segments segment = shorten segments ++ [[]] ∨
        kept = ['.'] ∧ addSegment .web segments segment = segments ++ [[]] ∨
        addSegment .web segments segment =
          segments ++ [percentEncode (escapedInSegment .web) kept]) := by
  have hsegments : (segments == [[]]) = false := by simpa using h
  have htrimmed : ∀ added, trimmed .web added = added := fun _ => rfl
  have hplaced : ∀ before piece, placed .web before piece = piece := by
    intro before piece
    cases piece <;> rfl
  have hescaped : escapedInSegment .web '%' := by decide
  intro kept
  rw [addSegment, hsegments, htrimmed, if_neg Bool.false_ne_true]
  split
  · next hdots =>
    simp only [Bool.or_eq_true, beq_iff_eq] at hdots
    exact .inl ⟨hdots, rfl⟩
  · next hdots =>
    simp only [Bool.or_eq_true, beq_iff_eq, not_or] at hdots
    refine .inr ⟨hdots.1, hdots.2, ?_⟩
    rw [addPieces, hplaced]
    split
    · next habove => exact .inl ⟨eq_of_isAbove hescaped habove, rfl⟩
    · split
      · next hhere => exact .inr (.inl ⟨eq_of_isHere hescaped hhere, rfl⟩)
      · exact .inr (.inr rfl)

/-- A text that can be a segment is added as one. -/
theorem addSegment_of_isSegment {segments : List (List Char)} (h : segments ≠ [[]])
    {segment : List Char} (hsegment : IsSegment segment) :
    addSegment .web segments segment =
      segments ++ [percentEncode (escapedInSegment .web) segment] := by
  have hkept : segment.filter (!isIgnored ·) = segment := List.filter_eq_self.2 hsegment.isKept
  rcases addSegment_web_cases h segment with ⟨hdots, -⟩ | ⟨-, -, ⟨habove, -⟩ | ⟨hhere, -⟩ | hadded⟩
  · exact absurd hdots (not_or.2 ⟨hsegment.notHere, hsegment.notAbove⟩)
  · exact absurd (hkept.symm.trans habove) hsegment.notAbove
  · exact absurd (hkept.symm.trans hhere) hsegment.notHere
  · rw [hadded, hkept]

/-- No separator is left in what is encoded for a segment. -/
theorem not_mem_of_mem_percentEncode {s : List Char} :
    ∀ c ∈ percentEncode (escapedInSegment .web) s, c ∉ ['/', '\\', '?', '#'] := by
  have hdigit : ∀ d < 16, upperHexDigit d ∉ ['/', '\\', '?', '#'] := by decide
  intro c hc
  rcases of_mem_percentEncode hc with ⟨-, -, hplain⟩ | rfl | ⟨d, hd, rfl⟩
  · intro hmark
    simp only [List.mem_cons, List.not_mem_nil, or_false] at hmark
    rcases hmark with rfl | rfl | rfl | rfl <;> contradiction
  · decide
  · exact hdigit d hd

end Url

namespace Transaction

open PeerAddress

/-- An address that begins with a scheme and two slashes is of this scheme. -/
theorem eq_of_prefix_render {scheme lead : List Char} {host : Host} {port : Option UInt16}
    (hscheme : Url.IsLead scheme) (hlead : ∀ c ∈ lead, Url.isSchemeChar c)
    (h : lead ++ [':', '/', '/'] <+: (render scheme host port).toList) : scheme = lead := by
  obtain ⟨rest, h⟩ := h
  rw [toList_render, List.append_assoc, List.append_assoc] at h
  exact (append_cons_inj hscheme.isSchemeChar hlead (by decide) (by decide) h.symm).1

/-- Whether one segment of a URL names the port, between those that lead from another URL to the
transactions of a port. -/
def NamesPort (base place : Url) (port : String) : Prop :=
  ∃ before segment, base.path = .rooted before ∧
    place =
      { base with
        path := .rooted (before ++
          ["data-transfer".toList, "input-ports".toList, segment, "transactions".toList]) } ∧
    (∀ c ∈ segment, c ∉ ['/', '\\', '?', '#']) ∧ percentDecode segment = encode port.toList

/-- The segments in front of the one for a port. -/
def portsRoot : List (List Char) :=
  ["nifi-api".toList, "data-transfer".toList, "input-ports".toList]

theorem shorten_portsRoot :
    Url.shorten portsRoot = ["nifi-api".toList, "data-transfer".toList] := by
  decide

theorem addSegment_portsRoot_ne (port : List Char) : Url.addSegment .web portsRoot port ≠ [[]] := by
  have hne : portsRoot ≠ [[]] := by decide
  rcases Url.addSegment_web_cases hne port with ⟨-, h⟩ | ⟨-, -, ⟨-, h⟩ | ⟨-, h⟩ | h⟩
  · rw [h]
    exact hne
  · rw [h, shorten_portsRoot]
    simp
  · rw [h]
    simp [portsRoot]
  · rw [h]
    simp [portsRoot]

/-- Only a text that can be a segment becomes one that stands for it. -/
theorem isSegment_of_addSegment {port segment : List Char}
    (h : Url.addSegment .web portsRoot port = portsRoot ++ [segment])
    (hdecode : percentDecode segment = encode port) : Url.IsSegment port := by
  have hescaped : Url.escapedInSegment .web '%' := by decide
  have hne : portsRoot ≠ [[]] := by decide
  rcases Url.addSegment_web_cases hne port with
    ⟨-, hadded⟩ | ⟨hhere, habove, ⟨-, hadded⟩ | ⟨hkept, hadded⟩ | hadded⟩
  · have hlength := congrArg List.length (hadded.symm.trans h)
    simp at hlength
  · have hlength := congrArg List.length (hadded.symm.trans h)
    rw [shorten_portsRoot] at hlength
    simp [portsRoot] at hlength
  · -- a dot is left of the port, but nothing is what the segment stands for
    rw [hadded] at h
    cases List.append_cancel_left h
    have hnil : [] = port := encode_inj hdecode
    rw [← hnil] at hkept
    contradiction
  · rw [hadded] at h
    cases List.append_cancel_left h
    rw [percentDecode_percentEncode hescaped] at hdecode
    exact ⟨hhere, habove, List.filter_eq_self.1 (encode_inj hdecode)⟩

/-- Where a peer opens transactions for a port, by what is added to its path. -/
theorem openUrl_of_parse {peer : String} {base : Url} (hparse : Url.parse peer.toList = .ok base)
    (hweb : Url.kind base.scheme = .web) (hpath : base.path = .rooted ["nifi-api".toList])
    (port : String) :
    openUrl peer port =
      .ok { base with path := .rooted (Url.addSegment .web portsRoot port.toList ++
        ["transactions".toList]) } := by
  have hroot : Url.addSegment .web (Url.addSegment .web ["nifi-api".toList] "data-transfer".toList)
      "input-ports".toList = portsRoot := by
    decide
  have htransactions : Url.IsSegment "transactions".toList :=
    ⟨by decide, by decide, List.all_eq_true.1 (by decide)⟩
  have hlast := Url.addSegment_of_isSegment (addSegment_portsRoot_ne port.toList) htransactions
  rw [openUrl, hparse]
  dsimp only
  rw [Url.extend?, hpath]
  simp only [hweb, Url.withoutEnd, List.foldl_cons, List.foldl_nil, hroot, hlast]
  rfl

/-- The URL for a port names it if and only if the port can be a segment. -/
theorem namesPort_iff {base : Url} (hpath : base.path = .rooted ["nifi-api".toList])
    (port : String) :
    NamesPort base
      { base with path := .rooted (Url.addSegment .web portsRoot port.toList ++
        ["transactions".toList]) } port ↔ Url.IsSegment port.toList := by
  constructor
  · rintro ⟨before, segment, hbefore, hplace, -, hdecode⟩
    rw [hpath] at hbefore
    cases hbefore
    have hsegments : Url.addSegment .web portsRoot port.toList ++ ["transactions".toList] =
        (portsRoot ++ [segment]) ++ ["transactions".toList] :=
      Url.Path.rooted.inj (congrArg Url.path hplace)
    exact isSegment_of_addSegment (List.append_cancel_right hsegments) hdecode
  · intro hport
    have hne : portsRoot ≠ [[]] := by decide
    rw [Url.addSegment_of_isSegment hne hport]
    exact ⟨_, _, hpath, rfl, Url.not_mem_of_mem_percentEncode,
      percentDecode_percentEncode (by decide) _⟩

/-- URLs that name ports are written alike only if the ports are the same. -/
theorem NamesPort.eq_of_print {base place place' : Url} {port port' : String}
    (h : NamesPort base place port) (h' : NamesPort base place' port')
    (hbase : base.authority ≠ none) (hprint : place.print = place'.print) : port = port' := by
  obtain ⟨before, segment, hbefore, rfl, -, hdecode⟩ := h
  obtain ⟨before', segment', hbefore', rfl, -, hdecode'⟩ := h'
  obtain rfl : before = before' := by simpa [hbefore] using hbefore'
  obtain ⟨authority, hauthority⟩ := Option.ne_none_iff_exists'.1 hbase
  have hsegment : segment = segment' := by
    simpa [Url.print, hauthority, Url.Path.print] using hprint
  rw [hsegment, hdecode'] at hdecode
  exact String.toList_inj.1 (encode_inj hdecode).symm

/-- **A port is one segment.** For a canonical address of the web and any port there is a URL. It is
that of the address with four segments added to the path, the third of which stands for the port, if
and only if the port is neither one dot nor two, and holds no tab and no end of a line. The URLs for
two such ports are written alike only if the ports are the same. As to putting names of the web into
ASCII, it is taken for granted that this leaves the name in the address as it is. -/
theorem port_is_one_segment {raw peer : String} (hpeer : canonical raw = .ok peer)
    (hsettled : IsSettled peer)
    (hweb : "http://".toList <+: peer.toList ∨ "https://".toList <+: peer.toList) :
    ∃ base, Url.parse peer.toList = .ok base ∧ base.path = .rooted ["nifi-api".toList] ∧
      (∀ port, ∃ place, openUrl peer port = .ok place ∧
        (NamesPort base place port ↔ Url.IsSegment port.toList)) ∧
      ∀ port port' place place', Url.IsSegment port.toList → Url.IsSegment port'.toList →
        openUrl peer port = .ok place → openUrl peer port' = .ok place' →
        place.print = place'.print → port = port' := by
  obtain ⟨scheme, host, port, rfl, hlead, hof, hne, hport, -⟩ := exists_of_canonical hpeer
  have hkind : Url.kind scheme = .web := by
    have hhttp : ∀ c ∈ "http".toList, Url.isSchemeChar c :=
      List.all_eq_true.1 (by decide)
    have hhttps : ∀ c ∈ "https".toList, Url.isSchemeChar c :=
      List.all_eq_true.1 (by decide)
    rcases hweb with hweb | hweb
    · rw [eq_of_prefix_render hlead hhttp hweb]
      decide
    · rw [eq_of_prefix_render hlead hhttps hweb]
      decide
  obtain ⟨named, hparse, -⟩ := parse_render_web hlead hkind hof hne hport fun name hname =>
    hsettled scheme name port hlead (by rw [hname])
  have hopen := openUrl_of_parse hparse hkind rfl
  refine ⟨_, hparse, rfl, fun port => ⟨_, hopen port, namesPort_iff rfl port⟩, ?_⟩
  intro port port' place place' hsegment hsegment' hplace hplace' hprint
  cases (hopen port).symm.trans hplace
  cases (hopen port').symm.trans hplace'
  exact ((namesPort_iff rfl port).2 hsegment).eq_of_print ((namesPort_iff rfl port').2 hsegment')
    (by simp) hprint

/-- A port with a slash, and one with the text in its place that stands for a slash. -/
theorem slash_and_its_encoding_differ : ∃ base place place',
    canonical "http://a:8080" = .ok "http://a:8080/nifi-api" ∧
    Url.parse "http://a:8080/nifi-api".toList = .ok base ∧
    openUrl "http://a:8080/nifi-api" "a/b" = .ok place ∧
    openUrl "http://a:8080/nifi-api" "a%2Fb" = .ok place' ∧
    NamesPort base place "a/b" ∧ NamesPort base place' "a%2Fb" ∧ place.print ≠ place'.print := by
  have hpeer : canonical "http://a:8080" = .ok "http://a:8080/nifi-api" := by
    decide +kernel
  have hsettled : IsSettled "http://a:8080/nifi-api" := by
    have hrender : render "http".toList (.domain ['a']) (some 8080) = "http://a:8080/nifi-api" := by
      decide +kernel
    rw [← hrender]
    exact isSettled_of_plain isLead_http isPlainName_letter
  have hslash : Url.IsSegment "a/b".toList :=
    ⟨by decide, by decide, List.all_eq_true.1 (by decide)⟩
  have hencoded : Url.IsSegment "a%2Fb".toList :=
    ⟨by decide, by decide, List.all_eq_true.1 (by decide)⟩
  obtain ⟨base, hbase, -, hopen, hinj⟩ :=
    port_is_one_segment hpeer hsettled (.inl (by decide))
  obtain ⟨place, hplace, hnames⟩ := hopen "a/b"
  obtain ⟨place', hplace', hnames'⟩ := hopen "a%2Fb"
  refine ⟨base, place, place', hpeer, hbase, hplace, hplace', hnames.2 hslash, hnames'.2 hencoded,
    fun hprint => ?_⟩
  exact absurd (hinj _ _ _ _ hslash hencoded hplace hplace' hprint) (by decide)

/-- A tab is left out of a port, so that the URL is that for another one, and two dots name no
port. -/
theorem tab_in_port_is_left_out :
    canonical "http://a:8080" = .ok "http://a:8080/nifi-api" ∧ "a\tb" ≠ "ab" ∧
    openUrl "http://a:8080/nifi-api" "a\tb" = openUrl "http://a:8080/nifi-api" "ab" ∧
    (openUrl "http://a:8080/nifi-api" "a\tb").map Url.path =
      .ok (.rooted ["nifi-api".toList, "data-transfer".toList, "input-ports".toList, "ab".toList,
        "transactions".toList]) ∧
    percentDecode "ab".toList ≠ encode "a\tb".toList ∧
    (openUrl "http://a:8080/nifi-api" "..").map Url.path =
      .ok (.rooted ["nifi-api".toList, "data-transfer".toList, "input-ports".toList,
        "transactions".toList]) := by
  decide +kernel

end Transaction

end FlowPeers
