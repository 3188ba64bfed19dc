import FlowPeers.Proofs.Seeds
import FlowPeers.Proofs.Spelling
import Mathlib.Data.List.TakeWhile

/-!
# Canonical addresses

A canonical address is the written form of a scheme, a host and a port, and these can be told from
it (`PeerAddress.render_inj`): two texts give the same address if and only if they agree in them. It
is also read again as what it was written from (`PeerAddress.exists_parse_render`), so that it gives
itself. For the domain names of the web this takes that a name is put into ASCII only once
(`PeerAddress.IsSettled`).

All that a tracker knows are such addresses (`Tracker.Chronicle.isGiven`): those of its seeds and
those of entries in lists of peers.
-/

namespace FlowPeers

open Text

namespace PeerAddress

/-- The written form of a port, with the colon in front. -/
def portText : Option UInt16 → List Char
  | some port => ':' :: decimal port.toNat
  | none => []

/-- What follows the slashes in the canonical address of a host and a port. -/
def remainder (host : Host) (port : Option UInt16) : List Char :=
  host.print ++ portText port ++ apiRoot.toList

theorem toList_render (scheme : List Char) (host : Host) (port : Option UInt16) :
    (render scheme host port).toList = scheme ++ [':', '/', '/'] ++ remainder host port := by
  cases port <;> simp [render, remainder, portText]

theorem portText_cases (port : Option UInt16) :
    portText port = [] ∨ (portText port).head? = some ':' := by
  cases port with
  | none => exact .inl rfl
  | some port => exact .inr rfl

theorem isSpelled_portText (port : Option UInt16) : ∀ c ∈ portText port, Host.isSpelled c := by
  cases port with
  | none => simp [portText]
  | some port =>
    refine List.forall_mem_cons.2 ⟨by decide, forall_mem_toDigits (by decide) (fun d hd => ?_) _⟩
    exact (Bool.and_eq_true_iff.1 (Host.isNamed_digitChar d (by omega))).1

theorem portText_inj {port port' : Option UInt16} (h : portText port = portText port') :
    port = port' := by
  cases port with
  | none =>
    cases port' with
    | none => rfl
    | some port' => cases h
  | some port =>
    cases port' with
    | none => cases h
    | some port' =>
      have hdigits := decimal_inj (List.cons.inj h).2
      rw [UInt16.toNat_inj.1 hdigits]

theorem isSpelled_authority {host : Host} (h : host.IsSpelled) (port : Option UInt16) :
    ∀ c ∈ host.print ++ portText port, Host.isSpelled c :=
  List.forall_mem_append.2 ⟨h.isSpelled, isSpelled_portText port⟩

theorem isPlain_of_isSpelled {c : Char} (h : Host.isSpelled c) : Url.isPlain c :=
  (Bool.and_eq_true_iff.1 h).1

theorem endsAuthority_eq_false {c : Char} (h : Host.isSpelled c) (kind : Url.Kind) :
    Url.endsAuthority kind c = false := by
  have hmarks := (Bool.and_eq_true_iff.1 h).2
  simp only [Bool.not_eq_true', List.contains_eq_mem, decide_eq_false_iff_not, List.mem_cons,
    List.not_mem_nil, or_false, not_or] at hmarks
  obtain ⟨hslash, hquestion, hsharp, hback, -⟩ := hmarks
  simp [Url.endsAuthority, Url.isSlash, Url.endsPath, hslash, hquestion, hsharp, hback]

theorem endsAuthority_apiRoot (kind : Url.Kind) :
    ∀ c, apiRoot.toList.head? = some c → Url.endsAuthority kind c := by
  intro c hc
  have hslash : apiRoot.toList.head? = some '/' := by decide
  rw [hslash] at hc
  cases hc
  cases kind <;> decide

/-- The authority of an address ends in front of the root. -/
theorem takeWhile_remainder {host : Host} (h : host.IsSpelled) (port : Option UInt16)
    (kind : Url.Kind) :
    (remainder host port).takeWhile (!Url.endsAuthority kind ·) = host.print ++ portText port ∧
      (remainder host port).dropWhile (!Url.endsAuthority kind ·) = apiRoot.toList :=
  takeWhile_within (fun c hc => endsAuthority_eq_false (isSpelled_authority h port c hc) kind)
    (endsAuthority_apiRoot kind)

/-! ## What an address says -/

/-- An address says which scheme, which host and which port it is for. -/
theorem render_inj {scheme scheme' : List Char} {host host' : Host} {port port' : Option UInt16}
    (hscheme : Url.IsLead scheme) (hscheme' : Url.IsLead scheme') (hhost : host.IsSpelled)
    (hhost' : host'.IsSpelled) (h : render scheme host port = render scheme' host' port') :
    scheme = scheme' ∧ host.print = host'.print ∧ port = port' := by
  have hchars : ∀ {scheme : List Char}, Url.IsLead scheme → ∀ c ∈ scheme, Url.isSchemeChar c :=
    fun hlead => hlead.isSchemeChar
  have htext := congrArg String.toList h
  rw [toList_render, toList_render, List.append_assoc, List.append_assoc] at htext
  obtain ⟨rfl, hrest⟩ := append_cons_inj (hchars hscheme) (hchars hscheme') (by decide) (by decide)
    htext
  have hremainder : remainder host port = remainder host' port' :=
    (List.cons.inj (List.cons.inj (List.cons.inj hrest).2).2).2
  have hauthority : host.print ++ portText port = host'.print ++ portText port' := by
    rw [← (takeWhile_remainder hhost port .web).1, hremainder,
      (takeWhile_remainder hhost' port' .web).1]
  have hsplit := hhost.splitHost_append (portText_cases port)
  rw [hauthority, hhost'.splitHost_append (portText_cases port')] at hsplit
  obtain ⟨hprint, hport⟩ := Prod.mk.inj hsplit
  exact ⟨rfl, hprint.symm, portText_inj hport.symm⟩

/-! ## An address read again -/

/-- A port is read again as the one that the scheme takes it for. -/
theorem readPort_portText {scheme : List Char} {port : Option UInt16}
    (h : port = none → Url.usualPort? scheme = none) :
    ∃ named, Url.readPort scheme (portText port) = .ok (named, []) ∧
      port = named.or (Url.usualPort? scheme) := by
  cases port with
  | none => exact ⟨none, rfl, (h rfl).symm⟩
  | some port =>
    have hdigits : ∀ c ∈ decimal port.toNat, c.isDigit = true := fun c hc => isDigit_of_mem_decimal hc
    have htake : (decimal port.toNat).takeWhile (·.isDigit) = decimal port.toNat :=
      List.takeWhile_eq_self_iff.2 hdigits
    have hdrop : (decimal port.toNat).dropWhile (·.isDigit) = [] :=
      List.dropWhile_eq_nil_iff.2 hdigits
    have hfits : port.toNat < 0x10000 := port.toNat_lt
    rw [portText, Url.readPort]
    simp only [htake, hdrop, readDecimal?_decimal, if_pos hfits, UInt16.ofNat_toNat, beq_iff_eq]
    split
    · next husual => exact ⟨_, rfl, by rw [husual]; rfl⟩
    · exact ⟨_, rfl, rfl⟩

/-- The authority of an address is read as the host and the port that it was written from. -/
theorem readAuthority_print {scheme : List Char} {host : Host} {port : Option UInt16}
    (hspelled : host.IsSpelled) (hread : Url.readHost (Url.kind scheme) host.print = .ok (some host))
    (hport : port = none → Url.usualPort? scheme = none) (atEnd : Bool) :
    ∃ named, Url.readAuthority scheme atEnd (host.print ++ portText port) =
      .ok (⟨[], [], some host, named⟩, []) ∧ port = named.or (Url.usualPort? scheme) := by
  have huser : Url.splitUser? (host.print ++ portText port) = none := by
    rw [Url.splitUser?, if_neg]
    intro hat
    have hspelled := isSpelled_authority hspelled port '@' (List.contains_iff_mem.1 hat)
    contradiction
  have haddress : (host.print ++ portText port).isEmpty = false := by
    rw [Bool.eq_false_iff]
    intro hnil
    rw [(List.append_eq_nil_iff.1 (List.isEmpty_iff.1 hnil)).1] at hread
    exact Url.readHost_nil_ne _ _ hread
  obtain ⟨named, hnamed, heq⟩ := readPort_portText hport
  refine ⟨named, ?_, heq⟩
  rw [Url.readAuthority, huser]
  simp [haddress, hspelled.splitHost_append (portText_cases port), hread, hnamed, percentEncode]

theorem place?_authority {scheme : List Char} {host : Host} {port : Option UInt16}
    (hspelled : host.IsSpelled) (hread : Url.readHost (Url.kind scheme) host.print = .ok (some host))
    (hport : port = none → Url.usualPort? scheme = none) :
    ∃ named, Url.place? scheme (host.print ++ portText port) = some (host, named) ∧
      port = named.or (Url.usualPort? scheme) := by
  obtain ⟨named, hauthority, heq⟩ := readAuthority_print hspelled hread hport true
  exact ⟨named, (Url.place?_eq_some_iff true).2 ⟨_, _, hauthority, rfl, rfl⟩, heq⟩

/-- A host that can be read in a URL that is not a file's is read again of its written form. -/
theorem readHost_print {scheme : List Char} {host : Host} (hof : Url.IsHostOf scheme host)
    (hfile : Url.kind scheme ≠ .file) (hne : host.print ≠ [])
    (hsettled : ∀ name, host = .domain name → Domain.IsSettled name) :
    Url.readHost (Url.kind scheme) host.print = .ok (some host) := by
  obtain ⟨c, rest, hprint⟩ := List.exists_cons_of_ne_nil hne
  rw [Url.IsHostOf] at hof
  cases hkind : Url.kind scheme with
  | file => exact absurd hkind hfile
  | web =>
    rw [hkind] at hof
    obtain ⟨text, hread⟩ := hof
    have hagain := Host.readWeb_print hread hsettled
    rw [hprint] at hagain ⊢
    exact congrArg (Except.map some) hagain
  | other =>
    rw [hkind] at hof
    obtain ⟨text, hread⟩ := hof
    have hagain := Host.readOpaque_print hread
    rw [hprint] at hagain ⊢
    exact congrArg (Except.map some) hagain

theorem isSpelled_of_isHostOf {scheme : List Char} {host : Host} (h : Url.IsHostOf scheme host) :
    host.IsSpelled := by
  rw [Url.IsHostOf] at h
  split at h
  · obtain ⟨text, hread⟩ := h
    exact Host.isSpelled_of_readWeb hread
  · obtain ⟨-, text, hread⟩ := h
    exact Host.isSpelled_of_readWeb hread
  · obtain ⟨text, hread⟩ := h
    exact Host.isSpelled_of_readOpaque hread

/-- A host of a file is read again in front of a path that names no drive. -/
theorem readFileFromHost_print {host : Host} (hof : Url.IsHostOf Url.fileScheme host)
    (hne : host.print ≠ []) (hsettled : ∀ name, host = .domain name → Domain.IsSettled name) :
    Url.readFileFromHost (remainder host none) =
      .ok (Url.fileUrl (some host) [] (Url.dropSlash apiRoot.toList)) := by
  have hspelled := isSpelled_of_isHostOf hof
  obtain ⟨hlocal, text, hread⟩ : host.print ≠ "localhost".toList ∧
      ∃ text, Host.readWeb text = .ok host := hof
  obtain ⟨htake, hdrop⟩ := takeWhile_remainder hspelled none .file
  rw [portText, List.append_nil] at htake
  have hpath : Url.leadsToDrive (Url.dropSlash apiRoot.toList) = false := by decide
  have hhost : Url.readFileHost host.print = .ok (some host) := by
    rw [Url.readFileHost, if_neg (by simpa using hne), Host.readWeb_print hread hsettled]
    exact congrArg Except.ok (if_neg (by simpa using hlocal))
  rw [Url.readFileFromHost]
  simp only [htake, hdrop, hspelled.isDrive_print, hhost, hpath]
  rfl

theorem cleanEnd_remainder {host : Host} (h : host.IsSpelled) (port : Option UInt16) :
    Url.cleanEnd (remainder host port) = remainder host port := by
  have hplain : ∀ c ∈ remainder host port, Url.isPlain c :=
    List.forall_mem_append.2 ⟨fun c hc => isPlain_of_isSpelled (isSpelled_authority h port c hc),
      List.all_eq_true.1 (by decide)⟩
  obtain ⟨c, rest, hcons⟩ : ∃ c rest, remainder host port = c :: rest := by
    refine List.exists_cons_of_ne_nil ?_
    simp [remainder, apiRoot]
  have hdrop := Url.dropEnd_append (fun c hc => hplain c (List.mem_of_getLast? hc)) []
  rw [List.append_nil] at hdrop
  rw [Url.cleanEnd, hdrop, dropEnd, List.reverse_nil, List.dropWhile_nil, List.reverse_nil,
    List.append_nil, List.filter_eq_self]
  exact fun c hc => by simp [Url.isIgnored_eq_false (hplain c hc)]

/-- An address of the web is read with nothing but its scheme, its host, its port and the root. -/
theorem parse_render_web {scheme : List Char} {host : Host} {port : Option UInt16}
    (hlead : Url.IsLead scheme) (hweb : Url.kind scheme = .web) (hof : Url.IsHostOf scheme host)
    (hne : host.print ≠ []) (hport : port = none → Url.usualPort? scheme = none)
    (hsettled : ∀ name, host = .domain name → Domain.IsSettled name) :
    ∃ named, Url.parse (render scheme host port).toList =
        .ok ⟨scheme, some ⟨[], [], some host, named⟩, .rooted ["nifi-api".toList], none, none⟩ ∧
      port = named.or (Url.usualPort? scheme) := by
  have hspelled := isSpelled_of_isHostOf hof
  have hread := readHost_print hof (by simp [hweb]) hne hsettled
  have hslashes : ('/' :: '/' :: remainder host port).dropWhile (Url.isSlash .web) =
      remainder host port := by
    obtain ⟨c, rest, hprint⟩ := List.exists_cons_of_ne_nil hne
    have hc : Url.isSlash .web c = false := (Bool.or_eq_false_iff.1
      (endsAuthority_eq_false (hspelled.isSpelled c (by simp [hprint])) .web)).1
    have hfirst : Url.isSlash .web '/' = true := by decide
    simp [remainder, hprint, hc, hfirst]
  obtain ⟨htake, hdrop⟩ := takeWhile_remainder hspelled port .web
  obtain ⟨named, hauthority, heq⟩ :=
    readAuthority_print hspelled hread hport apiRoot.toList.isEmpty
  refine ⟨named, ?_, heq⟩
  rw [toList_render, hlead.parse_append, cleanEnd_remainder hspelled, Url.readAfterScheme, hweb]
  simp only [Option.filter_none, hslashes]
  rw [Url.readFromAuthority, hweb]
  simp only [htake, hdrop, hauthority, Url.complete, hweb]
  rfl

/-- The written form of a scheme, a host and a port that can be read is read as them. -/
theorem exists_parse_render {scheme : List Char} {host : Host} {port : Option UInt16}
    (hlead : Url.IsLead scheme) (hof : Url.IsHostOf scheme host) (hne : host.print ≠ [])
    (hport : port = none → Url.usualPort? scheme = none)
    (hfile : Url.kind scheme = .file → port = none)
    (hsettled : ∀ name, host = .domain name → Domain.IsSettled name) :
    ∃ url, Url.parse (render scheme host port).toList = .ok url ∧ url.scheme = scheme ∧
      url.host? = some host ∧ url.port? = port := by
  have hspelled := isSpelled_of_isHostOf hof
  cases hkind : Url.kind scheme with
  | file =>
    rw [toList_render, hlead.parse_append, cleanEnd_remainder hspelled, Url.readAfterScheme, hkind]
    obtain rfl := Url.eq_fileScheme hkind
    obtain rfl := hfile hkind
    have hread := readFileFromHost_print hof hne hsettled
    exact ⟨_, hread, rfl, rfl, Url.port?_fileUrl _ _ _⟩
  | other =>
    rw [toList_render, hlead.parse_append, cleanEnd_remainder hspelled, Url.readAfterScheme, hkind]
    have hread := readHost_print hof (by simp [hkind]) hne hsettled
    refine Url.readFromAuthority_iff.2 ?_
    rw [(takeWhile_remainder hspelled port _).1]
    exact place?_authority hspelled hread hport
  | web =>
    obtain ⟨named, hurl, heq⟩ := parse_render_web hlead hkind hof hne hport hsettled
    refine ⟨_, hurl, rfl, rfl, ?_⟩
    rw [Url.port?_eq]
    exact heq.symm

/-- Whether the domain name of an address, if it is the ASCII form of a name, is its own ASCII
form. -/
def IsSettled (url : String) : Prop :=
  ∀ scheme name port, Url.IsLead scheme → url = render scheme (.domain name) port →
    Domain.IsSettled name

/-- The address of a host keeps its ASCII form if the host does, were it a name. -/
theorem isSettled_render {scheme : List Char} {host : Host} {port : Option UInt16}
    (hlead : Url.IsLead scheme) (hspelled : host.IsSpelled) (h : Domain.IsSettled host.print) :
    IsSettled (render scheme host port) := by
  intro scheme' name port' hlead' heq text hname
  have hnamed : (Host.domain name).IsSpelled := fun c hc =>
    Host.isNamed_of_isForbidden ((Domain.of_toAscii? hname).2 c hc)
  obtain ⟨-, hprint, -⟩ := render_inj hlead hlead' hspelled hnamed heq
  obtain rfl : host.print = name := hprint
  exact h text hname

/-- The address of a plain name keeps its ASCII form. -/
theorem isSettled_of_plain {scheme name : List Char} {port : Option UInt16}
    (hlead : Url.IsLead scheme) (h : Domain.IsPlainName name) :
    IsSettled (render scheme (.domain name) port) :=
  isSettled_render hlead (fun c hc => Host.isNamed_of_isForbidden (h.allowed c hc))
    (Domain.isSettled_of_plain h)

theorem isLead_http : Url.IsLead "http".toList :=
  ⟨by decide, List.all_eq_true.1 (by decide), by decide⟩

theorem isPlainName_letter : Domain.IsPlainName ['a'] :=
  ⟨by decide, by decide, List.forall_mem_singleton.2 (by decide),
    List.forall_mem_singleton.2 (by decide)⟩

/-- What a text gives is put together of a scheme, a host and a port that can be read again. -/
theorem exists_of_canonical {raw u : String} (h : canonical raw = .ok u) :
    ∃ scheme host port, u = render scheme host port ∧ Url.IsLead scheme ∧
      Url.IsHostOf scheme host ∧ host.print ≠ [] ∧
      (port = none → Url.usualPort? scheme = none) ∧ (Url.kind scheme = .file → port = none) := by
  obtain ⟨url, host, hurl, hhost, hne, rfl⟩ := canonical_eq_ok_iff.1 h
  obtain ⟨hlead, hof, hfile⟩ := Url.isHostOf_of_parse hurl hhost
  refine ⟨url.scheme, host, url.port?, rfl, hlead, hof, hne, fun hnone => ?_, hfile⟩
  rw [Url.port?_eq, Option.or_eq_none_iff] at hnone
  exact hnone.2

/-- The address of a scheme, a host and a port that can be read gives itself. -/
theorem canonical_render {scheme : List Char} {host : Host} {port : Option UInt16}
    (hlead : Url.IsLead scheme) (hof : Url.IsHostOf scheme host) (hne : host.print ≠ [])
    (hport : port = none → Url.usualPort? scheme = none)
    (hfile : Url.kind scheme = .file → port = none)
    (hsettled : ∀ name, host = .domain name → Domain.IsSettled name) :
    canonical (render scheme host port) = .ok (render scheme host port) := by
  obtain ⟨url, hurl, hscheme, hhost, hport⟩ :=
    exists_parse_render hlead hof hne hport hfile hsettled
  exact canonical_eq_ok_iff.2 ⟨url, host, hurl, hhost, hne, by rw [hscheme, hport]⟩

/-- **A canonical address gives itself.** -/
theorem canonical_canonical {raw u : String} (h : canonical raw = .ok u) (hsettled : IsSettled u) :
    canonical u = .ok u := by
  obtain ⟨scheme, host, port, rfl, hlead, hof, hne, hport, hfile⟩ := exists_of_canonical h
  exact canonical_render hlead hof hne hport hfile
    fun name hname => hsettled scheme name port hlead (by rw [hname])

/-- **Texts give the same address if they agree in scheme, host and port**, and only then. -/
theorem eq_iff_of_canonical {raw raw' u u' : String} {url url' : Url}
    (h : canonical raw = .ok u) (h' : canonical raw' = .ok u')
    (hurl : Url.parse raw.toList = .ok url) (hurl' : Url.parse raw'.toList = .ok url') :
    u = u' ↔ url.scheme = url'.scheme ∧ url.host?.map Host.print = url'.host?.map Host.print ∧
      url.port? = url'.port? := by
  have hgiven : ∀ {raw u : String} {url : Url}, canonical raw = .ok u →
      Url.parse raw.toList = .ok url → ∃ host, url.host? = some host ∧ Url.IsLead url.scheme ∧
        host.IsSpelled ∧ u = render url.scheme host url.port? := by
    intro raw u url h hurl
    obtain ⟨read, host, hread, hhost, -, rfl⟩ := canonical_eq_ok_iff.1 h
    rw [hurl] at hread
    cases hread
    obtain ⟨hlead, hof, -⟩ := Url.isHostOf_of_parse hurl hhost
    exact ⟨host, hhost, hlead, isSpelled_of_isHostOf hof, rfl⟩
  obtain ⟨host, hhost, hlead, hspelled, rfl⟩ := hgiven h hurl
  obtain ⟨host', hhost', hlead', hspelled', rfl⟩ := hgiven h' hurl'
  rw [hhost, hhost', Option.map_some, Option.map_some, Option.some_inj]
  constructor
  · exact render_inj hlead hlead' hspelled hspelled'
  · rintro ⟨hscheme, hprint, hport⟩
    unfold render
    rw [hscheme, hprint, hport]

/-- Whether some text gives the address. -/
def IsGiven (url : String) : Prop :=
  ∃ text, canonical text = .ok url

theorem IsGiven.canonical {url : String} (h : IsGiven url) (hsettled : IsSettled url) :
    canonical url = .ok url := by
  obtain ⟨text, htext⟩ := h
  exact canonical_canonical htext hsettled

end PeerAddress

open PeerAddress

/-! ## What a tracker knows -/

theorem PeerList.isGiven_readPeers? {body : List UInt8} {peers : List Peer}
    (h : readPeers? body = some peers) : ∀ url ∈ peers.map (·.url), IsGiven url := by
  obtain ⟨entries, rfl⟩ := readPeers?_eq_some h
  rw [List.forall_mem_map]
  refine forall_mem_peersOf fun entry _ peer hpeer => ?_
  exact ⟨_, (Entry.peer?_eq_some_iff.1 hpeer).1⟩

namespace Tracker

theorem isGiven_of_readSeeds {seen raw seeds : List String} (h : readSeeds seen raw = .ok seeds)
    (hseen : ∀ url ∈ seen, IsGiven url) : ∀ url ∈ seeds, IsGiven url := by
  induction raw generalizing seen with
  | nil =>
    cases h
    exact hseen
  | cons text rest ih =>
    rw [readSeeds] at h
    split at h
    · contradiction
    · next url hurl =>
      refine ih h ?_
      split
      · exact hseen
      · exact List.forall_mem_append.2 ⟨hseen, List.forall_mem_singleton.2 ⟨text, hurl⟩⟩

theorem urls_ofSeeds_subset {seeds : List String} {interval : Duration} {logins : Logins} :
    ∀ url ∈ (ofSeeds seeds interval logins).status.urls, url ∈ seeds := by
  intro url hurl
  rw [PeerStatus.mem_urls_iff, ofSeeds, PeerStatus.get?_ofPeers, List.find?_isSome] at hurl
  obtain ⟨peer, hpeer, heq⟩ := hurl
  obtain ⟨seed, hseed, rfl⟩ := List.mem_map.1 hpeer
  rwa [← eq_of_beq heq]

/-- Whether all that a tracker knows are addresses that some text gives. -/
def IsGiven (t : Tracker) : Prop :=
  ∀ url ∈ t.status.urls, PeerAddress.IsGiven url

end Tracker

/-- After the peers were asked only addresses are known that were known or are reported. -/
theorem Deed.Occurs.isGiven_refreshed {d : Deed} (h : d.Occurs) (hbefore : d.before.IsGiven) :
    d.refreshed.IsGiven := by
  intro url hurl
  rw [Deed.refreshed_status] at hurl
  split at hurl
  · next reported hreported =>
    obtain ⟨body, hbody⟩ := h.exists_readPeers? hreported
    rcases Tracker.mem_urls_adopt_iff.1 hurl with hurl | ⟨hurl, -⟩
    · exact PeerList.isGiven_readPeers? hbody url hurl
    · exact hbefore url hurl
  · exact hbefore url hurl

namespace Tracker

/-- Along a course that begins with seeds everything known is an address that some text gives. -/
theorem Chronicle.isGiven {start t : Tracker} {deeds : List Deed} (h : Chronicle start deeds t)
    (hstart : start.IsGiven) : t.IsGiven ∧ ∀ d ∈ deeds, d.before.IsGiven ∧ d.refreshed.IsGiven := by
  obtain ⟨ht, hall⟩ := h.forall_before (P := IsGiven) (fun d hd hbefore url hurl =>
    hd.isGiven_refreshed hbefore url (hd.urls_perm.mem_iff.1 hurl)) hstart
  exact ⟨ht, fun d hd => ⟨hall d hd, (h.occurs d hd).isGiven_refreshed (hall d hd)⟩⟩

/-- **Canonical addresses are canonical.** What a text gives gives itself, and two texts give the
same if and only if they are read with the same scheme, the same written form of the host and the
same port, the usual one standing in for a missing one. So if a tracker is connected without anything
saved, and then anything is done with it, all that it ever knows gives itself: after all that is
done, and before and between the steps of each operation. As to putting names of the web into ASCII,
it is taken for granted that this leaves the ASCII form of a name as it is, and this only for the
name in the address in question. -/
theorem known_addresses_are_canonical {raw : List String} {interval : Duration} {logins : Logins}
    {now : UInt64} {log : List Exchanged} {t₀ t : Tracker} {acts : List Act}
    (hconnect : (connect raw interval logins none now).Runs log (.ok t₀))
    (hcourse : Course t₀ acts t) :
    (∀ text url, canonical text = .ok url → IsSettled url → canonical url = .ok url) ∧
    (∀ text text' url url' place place', canonical text = .ok url → canonical text' = .ok url' →
      Url.parse text.toList = .ok place → Url.parse text'.toList = .ok place' →
      (url = url' ↔ place.scheme = place'.scheme ∧
        place.host?.map Host.print = place'.host?.map Host.print ∧ place.port? = place'.port?)) ∧
    (∀ url ∈ t.status.urls, IsSettled url → canonical url = .ok url) ∧
    ∃ seeds, readSeeds [] raw = .ok seeds ∧
      (∃ deeds, Chronicle (ofSeeds seeds interval logins) deeds t ∧
        deeds.map Deed.act = ⟨.refresh, now, log, .ok .done⟩ :: acts) ∧
      ∀ deeds, Chronicle (ofSeeds seeds interval logins) deeds t → ∀ d ∈ deeds,
        ∀ url ∈ d.before.status.urls ++ d.refreshed.status.urls,
          IsSettled url → canonical url = .ok url := by
  obtain ⟨seeds, hseeds, hfirst⟩ := course_of_runs_connect hconnect
  have hstart : (ofSeeds seeds interval logins).IsGiven := fun url hurl =>
    isGiven_of_readSeeds hseeds (by simp) url (urls_ofSeeds_subset url hurl)
  obtain ⟨deeds, hdeeds, hacts⟩ := exists_chronicle (hfirst.append hcourse)
  refine ⟨fun text url => canonical_canonical, ?_, ?_, seeds, hseeds, ⟨deeds, hdeeds, hacts⟩, ?_⟩
  · exact fun text text' url url' place place' h h' hplace hplace' =>
      eq_iff_of_canonical h h' hplace hplace'
  · exact fun url hurl => ((hdeeds.isGiven hstart).1 url hurl).canonical
  · intro deeds hdeeds d hd url hurl
    obtain ⟨hbefore, hrefreshed⟩ := (hdeeds.isGiven hstart).2 d hd
    rcases List.mem_append.1 hurl with hurl | hurl
    · exact (hbefore url hurl).canonical
    · exact (hrefreshed url hurl).canonical

/-- The address of a name in capitals with a user and a path, and that of a seed after a look for a
port in vain. -/
theorem address_canonical_after_port_lookup : ∃ log t₀ acts t,
    (connect ["http://[::1]:80"] (.ofSeconds 1) (.start none none) none 0).Runs log (.ok t₀) ∧
    Course t₀ acts t ∧ acts.map Act.operation = [.resolvePort "in"] ∧
    canonical "HTTP://user@A/b" = .ok "http://a:80/nifi-api" ∧
    canonical "http://a:80/nifi-api" = .ok "http://a:80/nifi-api" ∧
    "http://[::1]:80/nifi-api" ∈ t.status.urls ∧
    canonical "http://[::1]:80/nifi-api" = .ok "http://[::1]:80/nifi-api" := by
  have hname : IsSettled "http://a:80/nifi-api" := by
    have hrender : render "http".toList (.domain ['a']) (some 80) = "http://a:80/nifi-api" := by
      decide +kernel
    rw [← hrender]
    exact isSettled_of_plain isLead_http isPlainName_letter
  have hip : IsSettled "http://[::1]:80/nifi-api" := by
    have hrender : render "http".toList (.ipv6 ⟨[0, 0, 0, 0, 0, 0, 0, 1], rfl⟩) (some 80) =
        "http://[::1]:80/nifi-api" := by
      decide +kernel
    rw [← hrender]
    refine isSettled_render isLead_http trivial fun text hbrackets => ?_
    have hforbidden := (Domain.of_toAscii? hbrackets).2 '[' (by decide)
    contradiction
  have hcapitals : canonical "HTTP://user@A/b" = .ok "http://a:80/nifi-api" := by
    decide +kernel
  have hseed : canonical "http://[::1]:80" = .ok "http://[::1]:80/nifi-api" := by
    decide +kernel
  obtain ⟨log, t₀, acts, t, hconnect, hcourse, hoperations⟩ := exists_course
  obtain ⟨hfixed, -, hknown, seeds, hseeds, ⟨deeds, hdeeds, -⟩, -⟩ :=
    known_addresses_are_canonical hconnect hcourse
  obtain ⟨url, hurl, hmem⟩ :=
    (mem_of_readSeeds hseeds).2 "http://[::1]:80" (List.mem_singleton_self _)
  rw [hseed] at hurl
  cases hurl
  have hstays := (hdeeds.mem_urls hmem (mem_urls_ofSeeds hmem)).1
  exact ⟨log, t₀, acts, t, hconnect, hcourse, hoperations, hcapitals, hfixed _ _ hcapitals hname,
    hstays, hknown _ hstays hip⟩

end Tracker

end FlowPeers
