import FlowPeers.PeerAddress
import FlowPeers.Proofs.Address

/-!
# Scheme, host and port of what is read

A canonical address is made of the scheme, the host and the port of a URL and of nothing else
(`PeerAddress.canonical_eq_ok_iff`). The host and the port are those that its authority names
(`Url.place?`), also if there is a user in front of them and whatever follows them
(`Url.place?_eq_some_iff`). So what is read of a text of the web can be told from its scheme and its
authority (`Url.parse_web_iff`), and of any text it can be told which hosts it gives
(`Url.isHostOf_of_parse`).
-/

namespace FlowPeers

open Text

namespace Url

/-- The host and the port that the text of an authority names. -/
def place? (scheme authority : List Char) : Option (Host × Option UInt16) :=
  let (hostText, rest) := splitHost false ((splitUser? authority).getD ([], authority)).2
  match readHost (kind scheme) hostText, (readPort scheme rest).map Prod.fst with
  | .ok (some host), .ok port => some (host, port)
  | _, _ => none

theorem map_fst_readPort_iff {scheme text : List Char} {port : Option UInt16} :
    (readPort scheme text).map Prod.fst = .ok port ↔
      ∃ left, readPort scheme text = .ok (port, left) := by
  cases readPort scheme text with
  | error e => simp [Except.map]
  | ok parts =>
    obtain ⟨port', left⟩ := parts
    simp [Except.map]

theorem readHost_nil_ne (kind : Kind) (host : Host) : readHost kind [] ≠ .ok (some host) := by
  cases kind <;> simp [readHost]

/-- An authority is read as the host and the port that it names, wherever it ends. -/
theorem place?_eq_some_iff {scheme text : List Char} (atEnd : Bool) {host : Host}
    {port : Option UInt16} :
    place? scheme text = some (host, port) ↔ ∃ authority left,
      readAuthority scheme atEnd text = .ok (authority, left) ∧ authority.host = some host ∧
        authority.port = port := by
  rw [place?, readAuthority]
  generalize (splitUser? text).getD ([], text) = parts
  obtain ⟨info, address⟩ := parts
  dsimp only
  constructor
  · intro h
    split at h
    · next read port' hhost hport =>
      cases h
      obtain ⟨left, hport⟩ := map_fst_readPort_iff.1 hport
      -- nothing follows the user in an authority that is refused for that
      have haddress : address.isEmpty = false := by
        rw [Bool.eq_false_iff]
        intro hnil
        rw [List.isEmpty_iff.1 hnil] at hhost
        exact readHost_nil_ne _ _ hhost
      simp [haddress, hhost, hport]
    · contradiction
  · rintro ⟨authority, left, hread, hhost, hport⟩
    split at hread
    · contradiction
    · split at hread
      · contradiction
      · next read hread' =>
        split at hread
        · contradiction
        · split at hread
          · contradiction
          · next port' left' hport' =>
            split at hread
            · contradiction
            · cases hread
              dsimp only at hhost hport
              rw [hread', map_fst_readPort_iff.2 ⟨_, hport'⟩, hhost, hport]

/-! ## URLs of the web -/

/-- The text in which a URL of the web has its authority, given what follows its scheme. -/
def webAuthority (text : List Char) : List Char :=
  (text.dropWhile (isSlash .web)).takeWhile (!endsAuthority .web ·)

theorem port?_eq (url : Url) :
    url.port? = (url.authority.bind (·.port)).or (usualPort? url.scheme) := by
  rw [port?]
  split
  · next h => rw [h]; rfl
  · next h => rw [h]; rfl

/-- What follows the two slashes is read as the host and the port that the authority there names. -/
theorem readFromAuthority_iff {scheme text : List Char} {host : Host} {port : Option UInt16} :
    (∃ url, readFromAuthority scheme text = .ok url ∧ url.scheme = scheme ∧
      url.host? = some host ∧ url.port? = port) ↔
    ∃ named, place? scheme (text.takeWhile (!endsAuthority (kind scheme) ·)) = some (host, named) ∧
      port = named.or (usualPort? scheme) := by
  rw [readFromAuthority]
  generalize (text.dropWhile (!endsAuthority (kind scheme) ·)).isEmpty = atEnd
  constructor
  · rintro ⟨url, hread, -, hhost, hport⟩
    split at hread
    · contradiction
    · next authority left hauthority =>
      cases hread
      refine ⟨authority.port, (place?_eq_some_iff atEnd).2 ⟨_, _, hauthority, hhost, rfl⟩, ?_⟩
      rw [← hport, port?_eq]
      rfl
  · rintro ⟨named, hplace, rfl⟩
    obtain ⟨authority, left, hauthority, hhost, rfl⟩ := (place?_eq_some_iff atEnd).1 hplace
    rw [hauthority]
    exact ⟨_, rfl, rfl, hhost, port?_eq _⟩

/-- Whether a text is a scheme as a text of its own begins with it. -/
structure IsLead (scheme : List Char) : Prop where
  isAlpha : scheme.head?.any Char.isAlpha
  isSchemeChar : ∀ c ∈ scheme, isSchemeChar c
  lower : scheme.map Unicode.lowerAscii = scheme

theorem IsLead.ne_nil {scheme : List Char} (h : IsLead scheme) : scheme ≠ [] := by
  rintro rfl
  cases h.isAlpha

/-- A scheme and two slashes stand as they are in what is read. -/
theorem IsLead.isPlain {scheme : List Char} (h : IsLead scheme) :
    ∀ c ∈ scheme ++ [':', '/', '/'], isPlain c :=
  Target.isPlain_of_mem_scheme (fun c hc => isSchemeChar_target (h.isSchemeChar c hc))
    (List.all_eq_true.1 (by decide))

theorem IsLead.parse_append {scheme : List Char} (h : IsLead scheme) (text : List Char) :
    parse (scheme ++ [':', '/', '/'] ++ text) =
      readAfterScheme none scheme ('/' :: '/' :: cleanEnd text) := by
  have hclean := clean_append (by simp) h.isPlain text
  rw [List.append_assoc, List.append_assoc] at hclean
  rw [List.append_assoc, parse_of_clean_eq hclean h.isAlpha h.isSchemeChar, h.lower]
  rfl

/-- A text of the web is read as the host and the port that its authority names. -/
theorem parse_web_iff {scheme : List Char} (hlead : IsLead scheme) (hweb : kind scheme = .web)
    {text : List Char} {host : Host} {port : Option UInt16} :
    (∃ url, parse (scheme ++ [':', '/', '/'] ++ text) = .ok url ∧ url.scheme = scheme ∧
      url.host? = some host ∧ url.port? = port) ↔
    ∃ named, place? scheme (webAuthority (cleanEnd text)) = some (host, named) ∧
      port = named.or (usualPort? scheme) := by
  have hslashes : ('/' :: '/' :: cleanEnd text).dropWhile (isSlash .web) =
      (cleanEnd text).dropWhile (isSlash .web) := by
    have hslash : isSlash .web '/' = true := by decide
    simp [hslash]
  rw [hlead.parse_append, readAfterScheme, hweb]
  simp only [Option.filter_none, hslashes]
  have hiff := @readFromAuthority_iff scheme ((cleanEnd text).dropWhile (isSlash .web)) host port
  rw [hweb] at hiff
  exact hiff

/-! ## The hosts that texts give -/

/-- Whether a host can be read in a URL with the scheme. -/
def IsHostOf (scheme : List Char) (host : Host) : Prop :=
  match kind scheme with
  | .web => ∃ text, Host.readWeb text = .ok host
  | .file => host.print ≠ "localhost".toList ∧ ∃ text, Host.readWeb text = .ok host
  | .other => ∃ text, Host.readOpaque text = .ok host

theorem map_some_eq_ok_iff {result : Except UrlError Host} {host : Host} :
    result.map some = .ok (some host) ↔ result = .ok host := by
  cases result <;> simp [Except.map]

theorem isHostOf_of_readHost {scheme text : List Char} {host : Host} (hfile : kind scheme ≠ .file)
    (h : readHost (kind scheme) text = .ok (some host)) : IsHostOf scheme host := by
  rw [IsHostOf]
  unfold readHost at h
  cases hkind : kind scheme with
  | file => exact absurd hkind hfile
  | other =>
    rw [hkind] at h
    cases text with
    | nil => cases h
    | cons c rest => exact ⟨_, map_some_eq_ok_iff.1 h⟩
  | web =>
    rw [hkind] at h
    cases text with
    | nil => cases h
    | cons c rest => exact ⟨_, map_some_eq_ok_iff.1 h⟩

theorem isHostOf_of_readFromAuthority {scheme text : List Char} {url : Url} {host : Host}
    (hfile : kind scheme ≠ .file) (h : readFromAuthority scheme text = .ok url)
    (hhost : url.host? = some host) : url.scheme = scheme ∧ IsHostOf scheme host := by
  have hscheme : url.scheme = scheme := by
    rw [readFromAuthority] at h
    split at h
    · contradiction
    · cases h
      rfl
  obtain ⟨named, hplace, -⟩ := readFromAuthority_iff.1 ⟨url, h, hscheme, hhost, rfl⟩
  rw [place?] at hplace
  dsimp only at hplace
  split at hplace
  · next hread _ =>
    cases hplace
    exact ⟨hscheme, isHostOf_of_readHost hfile hread⟩
  · contradiction

theorem isHostOf_of_readFileHost {text : List Char} {host : Host}
    (h : readFileHost text = .ok (some host)) : IsHostOf fileScheme host := by
  rw [readFileHost] at h
  split at h
  · cases h
  · split at h
    · contradiction
    · next read hread =>
      split at h
      · cases h
      · next hlocal =>
        cases h
        exact ⟨by simpa using hlocal, _, hread⟩

theorem host?_fileUrl (host : Option Host) (before : List (List Char)) (text : List Char) :
    (fileUrl host before text).host? = host := rfl

theorem port?_fileUrl (host : Option Host) (before : List (List Char)) (text : List Char) :
    (fileUrl host before text).port? = none := by
  have husual : usualPort? fileScheme = none := by decide
  rw [port?_eq]
  exact husual

/-- A file is on a host of the kind that the web has, and at no port. -/
theorem isHostOf_of_readFile {text : List Char} {url : Url} {host : Host}
    (h : readFile none text = .ok url) (hhost : url.host? = some host) :
    url.scheme = fileScheme ∧ IsHostOf fileScheme host ∧ url.port? = none := by
  have hroot : ∀ {text : List Char}, (readFile.fromRoot none text).host? = none := rfl
  unfold readFile at h
  split at h
  · split at h
    · split at h
      · split at h
        · rw [readFileFromHost] at h
          dsimp only at h
          split at h
          · cases h
            cases hhost
          · split at h
            · contradiction
            · next read hread =>
              cases h
              rw [host?_fileUrl] at hhost
              split at hhost
              · cases hhost
              · exact ⟨rfl, isHostOf_of_readFileHost (hhost ▸ hread), port?_fileUrl _ _ _⟩
        · cases h
          rw [hroot] at hhost
          cases hhost
      · cases h
        rw [hroot] at hhost
        cases hhost
    · cases h
      cases hhost
  · cases h
    cases hhost

theorem eq_fileScheme {scheme : List Char} (h : kind scheme = .file) : scheme = fileScheme := by
  rw [kind] at h
  split at h
  · contradiction
  · split at h
    · next heq => exact eq_of_beq heq
    · contradiction

/-- A text gives a host that a URL with its scheme can have; a file is at no port. -/
theorem isHostOf_of_parse {text : List Char} {url : Url} {host : Host} (h : parse text = .ok url)
    (hhost : url.host? = some host) :
    IsLead url.scheme ∧ IsHostOf url.scheme host ∧ (kind url.scheme = .file → url.port? = none) := by
  obtain ⟨raw, rest, -, halpha, hraw, hread⟩ := exists_of_parse h
  have hlead : IsLead (raw.map Unicode.lowerAscii) := by
    refine ⟨?_, ?_, ?_⟩
    · cases raw with
      | nil => contradiction
      | cons c raw => exact isAlpha_lowerAscii halpha
    · intro c hc
      obtain ⟨d, hd, rfl⟩ := List.mem_map.1 hc
      exact isSchemeChar_lowerAscii (hraw d hd)
    · rw [List.map_map]
      exact List.map_congr_left fun c _ => lowerAscii_lowerAscii c
  rw [readAfterScheme] at hread
  cases hkind : kind (raw.map Unicode.lowerAscii) with
  | file =>
    rw [hkind] at hread
    rw [eq_fileScheme hkind] at hlead
    obtain ⟨hscheme, hof, hport⟩ := isHostOf_of_readFile hread hhost
    rw [hscheme]
    exact ⟨hlead, hof, fun _ => hport⟩
  | other =>
    rw [hkind] at hread
    replace hread : readOther _ rest = .ok url := hread
    unfold readOther at hread
    split at hread
    · obtain ⟨hscheme, hof⟩ := isHostOf_of_readFromAuthority (by simp [hkind]) hread hhost
      rw [hscheme]
      exact ⟨hlead, hof, by simp [hkind]⟩
    · cases hread
      cases hhost
    · cases hread
      cases hhost
  | web =>
    rw [hkind] at hread
    obtain ⟨hscheme, hof⟩ := isHostOf_of_readFromAuthority (by simp [hkind]) hread hhost
    rw [hscheme]
    exact ⟨hlead, hof, by simp [hkind]⟩

end Url

/-! ## Canonical addresses -/

namespace PeerAddress

/-- A text gives the address of the scheme, the host and the port that are read of it. -/
theorem canonical_eq_ok_iff {raw u : String} :
    canonical raw = .ok u ↔ ∃ url host, Url.parse raw.toList = .ok url ∧ url.host? = some host ∧
      host.print ≠ [] ∧ u = render url.scheme host url.port? := by
  rw [canonical]
  constructor
  · intro h
    split at h
    · contradiction
    · next url hurl =>
      split at h
      · contradiction
      · next host hhost =>
        cases h
        rw [host?, Option.filter_eq_some_iff] at hhost
        exact ⟨url, host, hurl, hhost.1, by simpa using hhost.2, rfl⟩
  · rintro ⟨url, host, hurl, hhost, hne, rfl⟩
    have hsome : host? url = some host := by
      rw [host?, Option.filter_eq_some_iff]
      exact ⟨hhost, by simpa using hne⟩
    rw [hurl]
    simp only [hsome]

/-- A text of the web gives the address of the host and the port that its authority names. -/
theorem canonical_web_iff {scheme : List Char} (hlead : Url.IsLead scheme)
    (hweb : Url.kind scheme = .web) {text : List Char} {u : String} :
    canonical (String.ofList (scheme ++ [':', '/', '/'] ++ text)) = .ok u ↔
      ∃ host named, Url.place? scheme (Url.webAuthority (Url.cleanEnd text)) = some (host, named) ∧
        host.print ≠ [] ∧ u = render scheme host (named.or (Url.usualPort? scheme)) := by
  rw [canonical_eq_ok_iff, String.toList_ofList]
  constructor
  · rintro ⟨url, host, hurl, hhost, hne, rfl⟩
    have hscheme : url.scheme = scheme := by
      rw [hlead.parse_append, Url.readAfterScheme, hweb] at hurl
      exact (Url.isHostOf_of_readFromAuthority (by simp [hweb]) hurl hhost).1
    obtain ⟨named, hplace, hport⟩ :=
      (Url.parse_web_iff hlead hweb).1 ⟨url, hurl, hscheme, hhost, rfl⟩
    exact ⟨host, named, hplace, hne, by rw [hscheme, hport]⟩
  · rintro ⟨host, named, hplace, hne, rfl⟩
    obtain ⟨url, hurl, hscheme, hhost, hport⟩ := (Url.parse_web_iff hlead hweb).2 ⟨named, hplace, rfl⟩
    exact ⟨url, host, hurl, hhost, hne, by rw [hscheme, hport]⟩

end PeerAddress

end FlowPeers
