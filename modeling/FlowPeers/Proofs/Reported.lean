import FlowPeers.Proofs.Canonical
import FlowPeers.Proofs.LetterCase

/-!
# Peers that are reported

The address of an entry in a list of peers is pasted together of a scheme, the text of a host and a
port, and read as that of a seed. How it is read depends on its authority alone, neither on the case
of letters in the host nor on what a seed may have behind the port
(`PeerList.Entry.canonical_written_iff`). So a seed and an entry that name the same host and port are
one peer, and are known once (`Tracker.reported_seeds_are_known_once`).

The text of a host is read as one host, with the port behind it, if nothing in it ends or divides an
authority (`Url.IsHostText.of_place?`) and nothing is left out of it (`Url.IsHostText.filter_eq`);
otherwise a part of it is taken for something else (`PeerList.slash_in_host_begins_path`) or dropped.
-/

namespace FlowPeers

open Text

namespace Url

/-! ## Where an authority is pasted together -/

theorem isPlain_of_mem_decimal {n : Nat} : ∀ c ∈ ':' :: decimal n, isPlain c := by
  exact List.forall_mem_cons.2 ⟨by decide, forall_mem_toDigits (by decide) (by decide) n⟩

/-- What is read of a host, a port and what follows it. -/
theorem cleanEnd_written (host rest : List Char) (port : Nat) :
    cleanEnd (host ++ ':' :: decimal port ++ rest) =
      host.filter (!isIgnored ·) ++ ':' :: decimal port ++ cleanEnd rest := by
  have hplain := isPlain_of_mem_decimal (n := port)
  have hlast : ∀ c, (host ++ ':' :: decimal port).getLast? = some c → isPlain c := by
    intro c hc
    rw [List.getLast?_append_of_ne_nil _ (by simp)] at hc
    exact hplain c (List.mem_of_getLast? hc)
  have hfilter : (':' :: decimal port).filter (!isIgnored ·) = ':' :: decimal port :=
    List.filter_eq_self.2 fun c hc => by simp [isIgnored_eq_false (hplain c hc)]
  rw [cleanEnd, dropEnd_append hlast, List.filter_append, List.filter_append, hfilter, cleanEnd]

/-- What is beyond an authority is not read as part of it. -/
theorem webAuthority_append {text rest : List Char} (htext : text.dropWhile (isSlash .web) ≠ [])
    (hrest : IsBeyond rest) : webAuthority (text ++ rest) = webAuthority text := by
  have hends : rest.takeWhile (!endsAuthority .web ·) = [] := by
    cases rest with
    | nil => rfl
    | cons c rest =>
      have hc : endsAuthority .web c = true := by
        rcases endsAuthority_iff.1 (hrest c rfl) with rfl | rfl | rfl <;> decide
      simp [hc]
  rw [webAuthority, webAuthority, List.dropWhile_append, if_neg (by simpa using htext),
    List.takeWhile_append, hends, List.append_nil]
  split
  · next hlength => exact ((List.takeWhile_prefix _).eq_of_length hlength).symm
  · rfl

/-- The authority of a host, a port and something beyond. -/
theorem webAuthority_written (host : List Char) {rest : List Char} (hrest : IsBeyond rest)
    (port : Nat) :
    webAuthority (cleanEnd (host ++ ':' :: decimal port ++ rest)) =
      webAuthority (host.filter (!isIgnored ·) ++ ':' :: decimal port) := by
  have hcolon : isSlash .web ':' = false := by decide
  have hbeyond : IsBeyond (cleanEnd rest) := by
    intro c hc
    have hplain : ∀ c, rest.head? = some c → isPlain c := by
      intro c hc
      rcases endsAuthority_iff.1 (hrest c hc) with rfl | rfl | rfl <;> decide
    exact hrest c (head?_cleanEnd hplain ▸ hc)
  rw [cleanEnd_written]
  refine webAuthority_append ?_ hbeyond
  rw [List.dropWhile_append]
  split
  · simp [hcolon]
  · simp

/-- In whatever case a host is written, a port behind it and something beyond, it is read the
same. -/
theorem place?_written_lower {scheme host host' rest : List Char} (hweb : kind scheme = .web)
    (hhost : lower host' = lower host) (hrest : IsBeyond rest) (port : Nat) :
    place? scheme (webAuthority (cleanEnd (host' ++ ':' :: decimal port ++ rest))) =
      place? scheme (webAuthority (host.filter (!isIgnored ·) ++ ':' :: decimal port)) := by
  have hignored : IsCaseless isIgnored :=
    isCaseless_or (isCaseless_or (isCaseless_beq (by decide)) (isCaseless_beq (by decide)))
      (isCaseless_beq (by decide))
  rw [webAuthority_written host' hrest, ← place?_lower hweb, ← webAuthority_lower, lower_append,
    ← filter_lower (isCaseless_not hignored), hhost, filter_lower (isCaseless_not hignored),
    ← lower_append, webAuthority_lower, place?_lower hweb]

/-! ## Where an authority is taken apart -/

/-- A host is cut off in front of a colon or at the end. -/
theorem of_splitHost {inside : Bool} {text host rest : List Char}
    (h : splitHost inside text = (host, rest)) :
    text = host ++ rest ∧ (rest = [] ∨ rest.head? = some ':') := by
  induction text generalizing inside host with
  | nil =>
    cases h
    exact ⟨rfl, .inl rfl⟩
  | cons c text ih =>
    rw [splitHost] at h
    split at h
    · next hcolon =>
      cases h
      have hc := eq_of_beq (Bool.and_eq_true_iff.1 hcolon).1
      exact ⟨rfl, .inr (congrArg some hc)⟩
    · obtain ⟨rfl, rfl⟩ := Prod.mk.inj h
      obtain ⟨htext, hrest⟩ := ih rfl
      exact ⟨congrArg (c :: ·) htext, hrest⟩

/-- What is in brackets at the beginning of a host is all of the host. -/
theorem getLast?_of_readWeb {text : List Char} {host : Host}
    (h : Host.readWeb ('[' :: text) = .ok host) : text.getLast? = some ']' := by
  rw [Host.readWeb, Host.readBracketed] at h
  split at h
  · next hlast => exact eq_of_beq hlast
  · contradiction

/-- Digits are not all that stands in front of a colon and more. -/
theorem exists_dropWhile_isDigit (text rest : List Char) :
    ∃ c more, (text ++ ':' :: rest).dropWhile (·.isDigit) = c :: more ∧ (c ∈ text ∨ c = ':') := by
  have hcolon : Char.isDigit ':' = false := by decide
  rw [List.dropWhile_append]
  cases hdrop : text.dropWhile (·.isDigit) with
  | nil => exact ⟨':', rest, by simp [hcolon], .inr rfl⟩
  | cons c more =>
    have hmem : c ∈ text := (List.dropWhile_suffix _).mem (hdrop ▸ List.mem_cons_self ..)
    exact ⟨c, more ++ ':' :: rest, by simp, .inl hmem⟩

/-- Whether nothing in the text of a host is taken for another part of an address or left out: no
mark that ends or divides an authority, neither a tab nor a line end, and a colon or an opening
bracket only if a bracket is opened in front. -/
structure IsHostText (host : List Char) : Prop where
  unmarked : ∀ c ∈ host, c ∉ ['/', '\\', '?', '#', '@', '\t', '\n', '\r']
  colon : ':' ∈ host → host.head? = some '['
  bracket : '[' ∈ host → host.head? = some '['

variable {host : List Char}

theorem IsHostText.webAuthority_eq (h : IsHostText host) (port : Nat) :
    webAuthority (host ++ ':' :: decimal port) = host ++ ':' :: decimal port := by
  have hends : ∀ c ∈ host ++ ':' :: decimal port, endsAuthority .web c = false := by
    refine List.forall_mem_append.2 ⟨fun c hc => ?_, List.forall_mem_cons.2 ⟨by decide, ?_⟩⟩
    · have hmarks := h.unmarked c hc
      simp only [List.mem_cons, not_or] at hmarks
      obtain ⟨hslash, hback, hquestion, hsharp, -⟩ := hmarks
      simp [endsAuthority, isSlash, endsPath, hslash, hback, hquestion, hsharp]
    · exact forall_mem_toDigits (by decide) (by decide) port
  have hfirst : (host ++ ':' :: decimal port).dropWhile (isSlash .web) =
      host ++ ':' :: decimal port := by
    cases hcons : host ++ ':' :: decimal port with
    | nil => rfl
    | cons c rest =>
      rw [hcons] at hends
      have hc : isSlash .web c = false := (Bool.or_eq_false_iff.1 (hends c (by simp))).1
      rw [List.dropWhile_cons, hc, if_neg Bool.false_ne_true]
  rw [webAuthority, hfirst, (takeWhile_within_self hends).1]

/-- A bracket that is still open where the port begins is never closed. -/
theorem readHost_ne_of_open {text : List Char} {port : Nat} {read : Host} :
    readHost .web ('[' :: (text ++ ':' :: decimal port)) ≠ .ok (some read) := by
  intro hread
  have hlast := getLast?_of_readWeb (map_some_eq_ok_iff.1 hread)
  rw [List.getLast?_append_of_ne_nil _ (by simp), List.getLast?_cons_of_ne_nil (decimal_ne_nil port)]
    at hlast
  exact absurd (isDigit_of_mem_decimal (List.mem_of_getLast? hlast)) (by decide)

/-- There is no port in front of a colon. -/
theorem readPort_ne_of_colon {scheme text : List Char} (h : '\\' ∉ text) {port : Nat}
    {named : Option UInt16} :
    (readPort scheme (':' :: (text ++ ':' :: decimal port))).map Prod.fst ≠ .ok named := by
  intro hport
  obtain ⟨c, more, hdrop, hc⟩ := exists_dropWhile_isDigit text (decimal port)
  have hne : c ≠ '\\' := by
    rintro rfl
    rcases hc with hc | hc
    · exact h hc
    · contradiction
  rw [readPort_colon, hdrop] at hport
  simp [hne] at hport

/-- The text of a host is not cut at a colon inside. -/
theorem IsHostText.splitHost_eq (h : IsHostText host) {port : Nat} {hostText rest : List Char}
    {read : Host} {named : Option UInt16}
    (hsplit : splitHost false (host ++ ':' :: decimal port) = (hostText, rest))
    (hread : readHost .web hostText = .ok (some read)) {scheme : List Char}
    (hport : (readPort scheme rest).map Prod.fst = .ok named) :
    hostText = host ∧ rest = ':' :: decimal port := by
  by_cases hopen : '[' ∈ host
  · obtain ⟨more, rfl⟩ := List.head?_eq_some_iff.1 (h.bracket hopen)
    obtain ⟨htext, hrest⟩ := of_splitHost hsplit
    rcases hrest with rfl | hcolon
    · rw [List.append_nil] at htext
      rw [← htext] at hread
      exact absurd hread readHost_ne_of_open
    · obtain ⟨digits, rfl⟩ := List.head?_eq_some_iff.1 hcolon
      rcases List.append_eq_append_iff.1 htext with ⟨as, has, hdigits⟩ | ⟨bs, hbs, hdigits⟩
      · cases as with
        | nil => exact ⟨by rw [has, List.append_nil], hdigits.symm⟩
        | cons c as =>
          have hcolon' : ':' ∈ decimal port := by
            rw [(List.cons.inj hdigits).2]
            simp
          exact absurd (isDigit_of_mem_decimal hcolon') (by decide)
      · cases bs with
        | nil => exact ⟨by rw [hbs, List.append_nil], hdigits⟩
        | cons c bs =>
          obtain rfl : digits = bs ++ ':' :: decimal port := (List.cons.inj hdigits).2
          have hback : '\\' ∉ bs := fun hmem =>
            h.unmarked '\\' (by rw [hbs]; simp [hmem]) (by decide)
          exact absurd hport (readPort_ne_of_colon hback)
  · have hcolon : ':' ∉ host := fun hmem => hopen (List.mem_of_mem_head? (h.colon hmem))
    have hpassed : ∀ c ∈ host, (c ≠ ':' ∨ false) ∧ (c ≠ '[' ∨ false) ∧ (c ≠ ']' ∨ !false) :=
      fun c hc => ⟨.inl fun heq => hcolon (heq ▸ hc), .inl fun heq => hopen (heq ▸ hc), .inr rfl⟩
    rw [splitHost_append hpassed] at hsplit
    obtain ⟨rfl, rfl⟩ := Prod.mk.inj hsplit
    simp [splitHost]

/-- **The text of a host is read as one host**, with the port that was put behind it. -/
theorem IsHostText.of_place? (h : IsHostText host) {scheme : List Char} (hweb : kind scheme = .web)
    {port : UInt16} {read : Host} {named : Option UInt16}
    (hplace : place? scheme (webAuthority (host ++ ':' :: decimal port.toNat)) =
      some (read, named)) :
    Host.readWeb host = .ok read ∧ named.or (usualPort? scheme) = some port := by
  have huser : splitUser? (host ++ ':' :: decimal port.toNat) = none := by
    rw [splitUser?, if_neg]
    intro hat
    rcases List.mem_append.1 (List.contains_iff_mem.1 hat) with hat | hat
    · exact h.unmarked '@' hat (by decide)
    · rcases List.mem_cons.1 hat with heq | hat
      · contradiction
      · exact absurd (isDigit_of_mem_decimal hat) (by decide)
  rw [h.webAuthority_eq, place?, huser, Option.getD_none, hweb] at hplace
  dsimp only at hplace
  split at hplace
  · next read' named' hread hport =>
    cases hplace
    obtain ⟨hhost, hrest⟩ := h.splitHost_eq rfl hread hport
    rw [hhost] at hread
    rw [hrest] at hport
    have hsome : some port = none → usualPort? scheme = none := by simp
    obtain ⟨named', hnamed, heq⟩ := PeerAddress.readPort_portText hsome
    rw [PeerAddress.portText] at hnamed
    obtain ⟨left, hleft⟩ := map_fst_readPort_iff.1 hport
    rw [hleft] at hnamed
    cases hnamed
    refine ⟨?_, heq.symm⟩
    cases host with
    | nil => exact absurd hread (readHost_nil_ne _ _)
    | cons c more => exact map_some_eq_ok_iff.1 hread
  · contradiction

/-- Nothing is left out of the text of a host. -/
theorem IsHostText.filter_eq (h : IsHostText host) : host.filter (!isIgnored ·) = host := by
  refine List.filter_eq_self.2 fun c hc => ?_
  have hmarks := h.unmarked c hc
  simp only [List.mem_cons, List.not_mem_nil, or_false, not_or] at hmarks
  obtain ⟨-, -, -, -, -, htab, hline, hreturn⟩ := hmarks
  simp [isIgnored, htab, hline, hreturn]

end Url

namespace PeerList

/-- The scheme of the address of an entry. -/
def Entry.scheme (entry : Entry) : List Char :=
  if entry.secure then "https".toList else "http".toList

namespace Entry

variable {entry : Entry}

theorem isLead_scheme (entry : Entry) : Url.IsLead entry.scheme := by
  cases hsecure : entry.secure
  · rw [scheme, hsecure]
    exact ⟨by decide, List.all_eq_true.1 (by decide), by decide⟩
  · rw [scheme, hsecure]
    exact ⟨by decide, List.all_eq_true.1 (by decide), by decide⟩

theorem kind_scheme (entry : Entry) : Url.kind entry.scheme = .web := by
  cases hsecure : entry.secure
  · rw [scheme, hsecure]
    decide
  · rw [scheme, hsecure]
    decide

/-- The text of a host is bracketed if it holds a colon. -/
theorem head?_hostText (h : ':' ∈ entry.hostText) : entry.hostText.head? = some '[' := by
  rw [hostText] at h ⊢
  split
  · rfl
  · next hplain =>
    rw [if_neg hplain] at h
    simpa [List.contains_iff_mem, h] using hplain

theorem address_eq (entry : Entry) : entry.address = String.ofList
    (entry.scheme ++ [':', '/', '/'] ++ (entry.hostText ++ ':' :: decimal entry.port.toNat)) := by
  rw [address, scheme]
  cases entry.secure <;> simp

/-- The address of an entry is that of the host and the port that its authority names. -/
theorem canonical_address_iff {url : String} :
    PeerAddress.canonical entry.address = .ok url ↔ ∃ host named,
      Url.place? entry.scheme (Url.webAuthority
        (entry.hostText.filter (!Url.isIgnored ·) ++ ':' :: decimal entry.port.toNat)) =
          some (host, named) ∧ host.print ≠ [] ∧
      url = PeerAddress.render entry.scheme host (named.or (Url.usualPort? entry.scheme)) := by
  have hnothing : IsBeyond [] := by simp [IsBeyond]
  have hauthority := Url.webAuthority_written entry.hostText hnothing entry.port.toNat
  rw [List.append_nil] at hauthority
  rw [address_eq, PeerAddress.canonical_web_iff entry.isLead_scheme entry.kind_scheme, hauthority]

theorem exists_peer?_iff {url : String} :
    (∃ peer, entry.peer? = some peer ∧ peer.url = url) ↔
      PeerAddress.canonical entry.address = .ok url := by
  constructor
  · rintro ⟨peer, hpeer, rfl⟩
    exact (peer?_eq_some_iff.1 hpeer).1
  · intro hurl
    exact ⟨⟨url, entry.flowFiles, false⟩, peer?_eq_some_iff.2 ⟨hurl, rfl, rfl⟩, rfl⟩

end Entry

/-- Putting a peer into a list adds its address and loses none. -/
theorem mem_urls_insert_iff {peer : Peer} {peers : List Peer} {url : String} :
    url ∈ (insert peer peers).map (·.url) ↔ url = peer.url ∨ url ∈ peers.map (·.url) := by
  induction peers with
  | nil => simp [insert]
  | cons first rest ih =>
    rw [insert]
    split
    · simp
    · split
      · next heq => simp [heq]
      · rw [List.map_cons, List.mem_cons, ih, List.map_cons, List.mem_cons, or_left_comm]

/-- The addresses that are read of a list are those of its entries. -/
theorem mem_urls_peersOf_iff {entries : List Entry} {url : String} :
    url ∈ (peersOf entries).map (·.url) ↔
      ∃ entry ∈ entries, PeerAddress.canonical entry.address = .ok url := by
  have hfold : ∀ read peers : List Peer,
      url ∈ (read.foldl (fun peers peer => insert peer peers) peers).map (·.url) ↔
        url ∈ read.map (·.url) ∨ url ∈ peers.map (·.url) := by
    intro read peers
    induction read generalizing peers with
    | nil => simp
    | cons first read ih =>
      rw [List.foldl_cons, ih, mem_urls_insert_iff, List.map_cons, List.mem_cons, or_left_comm,
        or_assoc]
  rw [peersOf, hfold, List.map_nil]
  simp only [List.not_mem_nil, or_false, List.mem_map, List.mem_filterMap]
  constructor
  · rintro ⟨peer, ⟨entry, hentry, hpeer⟩, hurl⟩
    exact ⟨entry, hentry, Entry.exists_peer?_iff.1 ⟨peer, hpeer, hurl⟩⟩
  · rintro ⟨entry, hentry, hcanonical⟩
    obtain ⟨peer, hpeer, hurl⟩ := Entry.exists_peer?_iff.2 hcanonical
    exact ⟨peer, ⟨entry, hentry, hpeer⟩, hurl⟩

/-! ## The address of an entry -/

/-- Whether an entry is left out, or gives a peer with its own scheme, its own port and the host that
is read of the text of its host as it stands, nothing of it left out or taken for anything else. -/
def Entry.KeepsAddress (entry : Entry) : Prop :=
  entry.peer? = none ∨ ∃ host peer,
    Host.readWeb entry.hostText = .ok host ∧ entry.peer? = some peer ∧
    peer.url = PeerAddress.render entry.scheme host (some entry.port)

/-- An entry keeps its address if nothing in its host is taken for another part of an address or left
out. -/
theorem Entry.keepsAddress_of_isHostText {entry : Entry} (h : Url.IsHostText entry.hostText) :
    entry.KeepsAddress := by
  cases hpeer : entry.peer? with
  | none => exact .inl hpeer
  | some peer =>
    obtain ⟨host, named, hplace, -, hurl⟩ :=
      canonical_address_iff.1 (exists_peer?_iff.1 ⟨peer, hpeer, rfl⟩)
    rw [h.filter_eq] at hplace
    obtain ⟨hread, hport⟩ := h.of_place? entry.kind_scheme hplace
    rw [hport] at hurl
    exact .inr ⟨host, peer, hread, hpeer, hurl⟩

/-- **Entries keep their addresses** if their hosts have no slash, backslash, question mark, number
sign or at sign, no tab and no line end, and an opening bracket only in front: each of them is left
out, or is a peer whose host is that of the whole text, with the port of the entry, be it the usual
one or not, and the scheme that says whether the connection is secure. -/
theorem reported_entries_keep_their_addresses {body : List UInt8} {entries : List Entry}
    (hbody : (Json.readBytes? body).bind entries? = some entries) {entry : Entry}
    (hentry : entry ∈ entries)
    (hmarks : ∀ c ∈ entry.hostText, c ∉ ['/', '\\', '?', '#', '@', '\t', '\n', '\r'])
    (hbracket : '[' ∈ entry.hostText → entry.hostText.head? = some '[') :
    ∃ peers, readPeers? body = some peers ∧ entry.KeepsAddress ∧
      ∀ peer, entry.peer? = some peer → peer.url ∈ peers.map (·.url) := by
  refine ⟨peersOf entries, by rw [readPeers?, hbody, Option.map_some], ?_, ?_⟩
  · exact Entry.keepsAddress_of_isHostText ⟨hmarks, Entry.head?_hostText, hbracket⟩
  · intro peer hpeer
    exact mem_urls_peersOf_iff.2 ⟨entry, hentry, Entry.exists_peer?_iff.1 ⟨peer, hpeer, rfl⟩⟩

/-- An address with colons among blanks, at the usual port. -/
theorem address_with_colons_is_kept : ∃ (body : List UInt8) (entry : Entry),
    (Json.readBytes? body).bind entries? = some [entry] ∧ entry.host = " ::1 " ∧ entry.KeepsAddress ∧
    ∃ peer, entry.peer? = some peer ∧ peer.url = "http://[::1]:80/nifi-api" := by
  have hbody : (Json.readBytes? (encode (print [(" ::1 ", 80, 7)]))).bind entries? =
      some [⟨" ::1 ", 80, false, 7⟩] := by
    decide +kernel
  obtain ⟨-, -, hkeeps, -⟩ := reported_entries_keep_their_addresses hbody
    (List.mem_singleton_self _) (List.forall_mem_iff_forall_getElem.2 (by decide +kernel))
    (fun _ => by decide +kernel)
  have hcanonical : PeerAddress.canonical (Entry.address ⟨" ::1 ", 80, false, 7⟩) =
      .ok "http://[::1]:80/nifi-api" := by
    decide +kernel
  obtain ⟨peer, hpeer, hurl⟩ := Entry.exists_peer?_iff.2 hcanonical
  exact ⟨_, _, hbody, rfl, hkeeps, peer, hpeer, hurl⟩

/-- A slash in the host of an entry begins a path, which is dropped together with the port. -/
theorem slash_in_host_begins_path :
    (Json.readBytes? (encode (print [("a/b", 8080, 0)]))).bind entries? =
      some [⟨"a/b", 8080, false, 0⟩] ∧
    readPeers? (encode (print [("a/b", 8080, 0)])) =
      some [⟨"http://a:80/nifi-api", 0, false⟩] ∧
    ¬ Entry.KeepsAddress ⟨"a/b", 8080, false, 0⟩ := by
  have hpeer : Entry.peer? ⟨"a/b", 8080, false, 0⟩ = some ⟨"http://a:80/nifi-api", 0, false⟩ := by
    decide +kernel
  refine ⟨by decide +kernel, by decide +kernel, ?_⟩
  rintro (hnone | ⟨host, -, hread, -⟩)
  · rw [hpeer] at hnone
    cases hnone
  · have hfails : (Host.readWeb (Entry.hostText ⟨"a/b", 8080, false, 0⟩)).toOption = none := by
      decide +kernel
    rw [hread] at hfails
    cases hfails

/-- A tab in the host of an entry is left out, so that the peer is on another host. -/
example : Entry.peer? ⟨"a\tb", 8080, false, 0⟩ = some ⟨"http://ab:8080/nifi-api", 0, false⟩ ∧
    (Host.readWeb (Entry.hostText ⟨"a\tb", 8080, false, 0⟩)).toOption = none := by
  decide +kernel

end PeerList

/-! ## Seeds and entries -/

/-- A seed with the host of an entry in any case, its port and anything beyond has the address of the
entry. -/
theorem PeerList.Entry.canonical_written_iff {entry : Entry} {host rest : List Char}
    (hhost : lower host = lower entry.hostText) (hrest : IsBeyond rest) {url : String} :
    PeerAddress.canonical (String.ofList (entry.scheme ++ [':', '/', '/'] ++
        (host ++ ':' :: decimal entry.port.toNat ++ rest))) = .ok url ↔
      PeerAddress.canonical entry.address = .ok url := by
  rw [PeerAddress.canonical_web_iff entry.isLead_scheme entry.kind_scheme,
    Url.place?_written_lower entry.kind_scheme hhost hrest, canonical_address_iff]

/-- An address of a list that was adopted is known once, also after everything that is tried then. -/
theorem Deed.Occurs.count_urls_of_reported {d : Deed} (h : d.Occurs) {reported : List Peer}
    (hreported : d.reported? = some reported) {url : String} (hurl : url ∈ reported.map (·.url)) :
    d.refreshed.status.urls.count url = 1 ∧ d.after.status.urls.count url = 1 := by
  have hone : d.refreshed.status.urls.count url = 1 := by
    rw [d.refreshed_status, hreported]
    exact List.count_eq_one_of_mem (d.before.hasNoRepeats_adopt reported d.now)
      (Tracker.mem_urls_adopt_iff.2 (.inl hurl))
  exact ⟨hone, by rwa [h.urls_perm.count_eq]⟩

namespace Tracker

/-- **A seed and an entry that names it are one peer.** A text with the scheme of an entry, its host
with letters in any case, its port and, beyond them, anything that begins with a slash, a question
mark or a number sign is a seed if and only if the entry has a usable address, and then their
addresses are the same. The address is once in every list with the entry; and after an operation
that has adopted such a list, whatever else was known and done, the tracker knows it once. -/
theorem reported_seeds_are_known_once {entry : PeerList.Entry} {host rest : List Char}
    {seed : String} (hhost : lower host = lower entry.hostText)
    (hrest : ∀ c, rest.head? = some c → c ∈ ['/', '?', '#'])
    (hseed : seed = String.ofList (entry.scheme ++ [':', '/', '/'] ++
      (host ++ ':' :: decimal entry.port.toNat ++ rest))) :
    entry.peer?.map (·.url) = (PeerAddress.canonical seed).toOption ∧
    (∀ body entries url, (Json.readBytes? body).bind PeerList.entries? = some entries →
      entry ∈ entries → PeerAddress.canonical seed = .ok url →
      ∃ peers, PeerList.readPeers? body = some peers ∧ (peers.map (·.url)).count url = 1 ∧
        ∀ d : Deed, d.Occurs → d.reported? = some peers →
          d.refreshed.status.urls.count url = 1 ∧ d.after.status.urls.count url = 1) ∧
    ∀ (t t' : Tracker) (act : Act),
      (t.operate act.operation act.now).Runs act.log (t', act.result) →
      ∃ d : Deed, d.Occurs ∧ d.before = t ∧ d.after = t' ∧ d.act = act := by
  have hbeyond : IsBeyond rest := fun c hc =>
    endsAuthority_iff.2 (by simpa using hrest c hc)
  have hcanonical : ∀ url, PeerAddress.canonical seed = .ok url ↔
      PeerAddress.canonical entry.address = .ok url := by
    intro url
    rw [hseed]
    exact PeerList.Entry.canonical_written_iff hhost hbeyond
  refine ⟨?_, ?_, fun t t' act hrun => runs_operate_iff.1 hrun⟩
  · refine Option.ext fun url => ?_
    rw [Option.map_eq_some_iff, PeerList.Entry.exists_peer?_iff, ← hcanonical]
    cases PeerAddress.canonical seed <;> simp [Except.toOption]
  · intro body entries url hbody hentry hurl
    have hmem : url ∈ (PeerList.peersOf entries).map (·.url) :=
      PeerList.mem_urls_peersOf_iff.2 ⟨entry, hentry, (hcanonical url).1 hurl⟩
    exact ⟨PeerList.peersOf entries, by rw [PeerList.readPeers?, hbody, Option.map_some],
      List.count_eq_one_of_mem (PeerList.isOrdered_peersOf entries).nodup_urls hmem,
      fun d hd hreported => hd.count_urls_of_reported hreported hmem⟩

/-- A seed with a path, whose peer serves a list with an entry that names the seed in capitals. -/
theorem seed_reported_in_capitals_is_known_once : ∃ (entry : PeerList.Entry) (d : Deed),
    entry.host = "A" ∧ entry.port = 80 ∧ d.Occurs ∧ d.before.seeds = ["http://a:80/nifi-api"] ∧
    PeerAddress.canonical "http://a:80/x" = .ok "http://a:80/nifi-api" ∧
    entry.peer?.map (·.url) = some "http://a:80/nifi-api" ∧
    d.after.status.urls.count "http://a:80/nifi-api" = 1 := by
  let served : List Char := PeerList.print [("A", 80, 7)]
  let script : Script := [{ replies := [(0, .response ⟨.ok, [], .ofText served⟩)] }]
  let t : Tracker := ofSeeds ["http://a:80/nifi-api"] (.ofSeconds 1) (.start none none)
  have hbody : (Json.readBytes? (encode served)).bind PeerList.entries? =
      some [⟨"A", 80, false, 7⟩] := by
    decide +kernel
  have hcanonical : PeerAddress.canonical "http://a:80/x" = .ok "http://a:80/nifi-api" := by
    decide +kernel
  have hhost : lower ['a'] = lower (PeerList.Entry.hostText ⟨"A", 80, false, 7⟩) := by
    decide +kernel
  have hrest : ∀ c, ['/', 'x'].head? = some c → c ∈ ['/', '?', '#'] := by simp
  have hseed : "http://a:80/x" = String.ofList (PeerList.Entry.scheme ⟨"A", 80, false, 7⟩ ++
      [':', '/', '/'] ++ (['a'] ++ ':' :: decimal (80 : UInt16).toNat ++ ['/', 'x'])) := by
    decide +kernel
  obtain ⟨hsame, hlists, -⟩ := reported_seeds_are_known_once hhost hrest hseed
  obtain ⟨peers, hpeers, -, hknown⟩ := hlists _ _ _ hbody (List.mem_singleton_self _) hcanonical
  obtain ⟨log, hrun⟩ := Dialogue.exists_runs_perform Script.responder 0 ⟨script, []⟩
    (t.logins.visit "http://a:80/nifi-api" (fetchPeers "http://a:80/nifi-api"))
  have hserved : ((t.logins.visit "http://a:80/nifi-api"
      (fetchPeers "http://a:80/nifi-api")).perform Script.responder 0
        ⟨script, []⟩).2.2.2.toOption = PeerList.readPeers? (encode served) := by
    decide +kernel
  generalize (Dialogue.perform _ _ _ _).2.2 = outcome at hrun hserved
  rw [hpeers] at hserved
  obtain ⟨after, result⟩ := outcome
  cases result with
  | error failure => cases hserved
  | ok reported =>
    let v : Visit (List Peer) := ⟨"http://a:80/nifi-api", t.logins, log, after, .ok reported⟩
    have hasked : Visits fetchPeers t.logins t.status.urls [v] := .success hrun rfl rfl rfl
    have hdeed : Deed.Occurs ⟨t, .refresh, 0, [v], [], t.afterAsking 0 [v], .ok .done⟩ :=
      .refresh hasked
    exact ⟨_, _, rfl, rfl, hdeed, rfl, hcanonical, by rw [hsame, hcanonical]; rfl,
      (hknown _ hdeed hserved).2⟩

end Tracker

end FlowPeers
