import FlowPeers.Proofs.Reported
import FlowPeers.SocketAddress

/-!
# Addresses of sockets

The address of the peer on a socket holds the text by which sockets show their hosts, and a canonical
address that by which URLs write them. Both are put together around the same host and port
(`SocketAddress.peerUrl_eq`), and what the first says is read as one host, with the port behind it
(`SocketAddress.isHostText_hostText`). So a peer on a socket has a canonical address just where the
two texts of its host agree (`SocketAddress.peer_on_socket_is_canonical_iff`): not if there is a
scope, whose percent sign stands in no host of version 6, nor if an address of version 4 is mapped,
whose dots do not either (`Ipv6.not_mem_print`).
-/

namespace FlowPeers

open Text

namespace Ipv6

/-- Whether an address stands for one of version 4. -/
def IsMapped (ip : Ipv6) : Prop :=
  ∃ g h, ip.groups = [0, 0, 0, 0, 0, 0xFFFF, g, h]

theorem mapped?_eq_none_iff {ip : Ipv6} : ip.mapped? = none ↔ ¬ ip.IsMapped := by
  rw [mapped?]
  split
  · next g h hgroups => simpa using ⟨g, h, hgroups⟩
  · next hgroups => simpa using fun ⟨g, h, heq⟩ => hgroups g h heq

/-- The written form has colons and hexadecimal digits only. -/
theorem not_mem_print {c : Char} (hcolon : c ≠ ':') (hdigit : ∀ d < 16, c ≠ d.digitChar)
    (ip : Ipv6) : c ∉ ip.print := by
  intro hc
  rcases Host.of_mem_print_ipv6 hc with rfl | ⟨d, hd, rfl⟩
  · exact hcolon rfl
  · exact hdigit d hd rfl

end Ipv6

namespace SocketAddress

/-! ## The text of the host -/

/-- What stands in the brackets around an address of version 6. -/
def bracketed (ip : Ipv6) (scope : UInt32) : List Char :=
  printIpv6 ip ++ if scope == 0 then [] else '%' :: decimal scope.toNat

/-- What stands in front of the port. -/
def hostText : SocketAddress → List Char
  | .v4 ip _ => ip.print
  | .v6 ip scope _ => '[' :: bracketed ip scope ++ [']']

/-- The port. -/
def port : SocketAddress → UInt16
  | .v4 _ port => port
  | .v6 _ _ port => port

variable {address : SocketAddress}

theorem peerUrl_eq (address : SocketAddress) :
    address.peerUrl = "http".toList ++ [':', '/', '/'] ++
      (address.hostText ++ ':' :: decimal address.port.toNat ++ PeerAddress.apiRoot.toList) := by
  have hprint : address.print = address.hostText ++ ':' :: decimal address.port.toNat := by
    cases address with
    | v4 ip port => rw [print, hostText, SocketAddress.port]
    | v6 ip scope port =>
      simp only [print, hostText, bracketed, SocketAddress.port, List.append_assoc,
        List.cons_append, List.nil_append]
  have hslashes : "http://".toList = "http".toList ++ [':', '/', '/'] := by decide
  unfold peerUrl
  rw [hprint, hslashes, List.append_assoc, List.append_assoc]

theorem render_of_print_eq {host : Host} (h : host.print = address.hostText) :
    PeerAddress.render "http".toList host (some address.port) = String.ofList address.peerUrl := by
  rw [peerUrl_eq, PeerAddress.render, h]
  simp

theorem isSpelled_of_mem_bracketed (ip : Ipv6) (scope : UInt32) :
    ∀ c ∈ bracketed ip scope, Host.isSpelled c := by
  have hv4 : ∀ ip : Ipv4, (Host.ipv4 ip).IsSpelled := fun _ => trivial
  have hv6 : (Host.ipv6 ip).IsSpelled := trivial
  have hdigit : ∀ d < 10, Host.isSpelled d.digitChar := by decide
  refine List.forall_mem_append.2 ⟨?_, ?_⟩
  · rw [printIpv6]
    split
    · next mapped _ =>
      exact List.forall_mem_append.2 ⟨List.all_eq_true.1 (by decide), (hv4 mapped).isSpelled⟩
    · exact fun c hc => hv6.isSpelled c (by simp [Host.print, hc])
  · split
    · simp
    · exact List.forall_mem_cons.2 ⟨by decide, forall_mem_toDigits (by decide) hdigit _⟩

theorem isSpelled_of_mem_hostText : ∀ c ∈ address.hostText, Host.isSpelled c := by
  cases address with
  | v4 ip port =>
    have hspelled : (Host.ipv4 ip).IsSpelled := trivial
    exact hspelled.isSpelled
  | v6 ip scope port =>
    refine List.forall_mem_append.2 ⟨List.forall_mem_cons.2 ⟨by decide, ?_⟩,
      List.forall_mem_singleton.2 (by decide)⟩
    exact isSpelled_of_mem_bracketed ip scope

/-- A colon or a bracket stands in the text of a host only if a bracket is opened in front. -/
theorem head?_hostText {c : Char} (hc : c ∈ address.hostText) (hmark : c = ':' ∨ c = '[') :
    address.hostText.head? = some '[' := by
  cases address with
  | v4 ip port =>
    have hallowed := (Host.isPlainName_print_ipv4 ip).allowed c hc
    rcases hmark with rfl | rfl <;> contradiction
  | v6 ip scope port => rfl

/-- Nothing in the text of a host is taken for another part of an address. -/
theorem isHostText_hostText (address : SocketAddress) : Url.IsHostText address.hostText where
  unmarked := by
    intro c hc hmark
    have hspelled := isSpelled_of_mem_hostText c hc
    simp only [List.mem_cons, List.not_mem_nil, or_false] at hmark
    rcases hmark with rfl | rfl | rfl | rfl | rfl | rfl | rfl | rfl <;> contradiction
  colon := fun hc => head?_hostText hc (.inl rfl)
  bracket := fun hc => head?_hostText hc (.inr rfl)

/-! ## Canonical texts -/

/-- If a peer on a socket has a canonical address, the text of its host is the written form of the
host that is read of it. -/
theorem readWeb_hostText_of_canonical
    (h : PeerAddress.canonical (String.ofList address.peerUrl) =
      .ok (String.ofList address.peerUrl)) :
    ∃ host, Host.readWeb address.hostText = .ok host ∧ host.print = address.hostText := by
  have hbeyond : IsBeyond PeerAddress.apiRoot.toList := by
    intro c hc
    obtain rfl : '/' = c := Option.some.inj hc
    decide
  have htext := isHostText_hostText address
  rw [peerUrl_eq, PeerAddress.canonical_web_iff PeerAddress.isLead_http (by decide),
    Url.webAuthority_written _ hbeyond, htext.filter_eq] at h
  obtain ⟨host, named, hplace, -, hurl⟩ := h
  obtain ⟨hread, hport⟩ := htext.of_place? (by decide) hplace
  refine ⟨host, hread, ?_⟩
  have hwritten := congrArg String.toList hurl
  rw [hport, PeerAddress.toList_render, String.toList_ofList] at hwritten
  exact (List.append_cancel_right (List.append_cancel_right
    (List.append_cancel_left hwritten))).symm

/-- A peer whose text is the written form of an address of version 4 or 6 has a canonical address. -/
theorem canonical_peerUrl {host : Host} (hread : Host.readWeb host.print = .ok host)
    (haddress : ∀ name, host ≠ .domain name) (h : host.print = address.hostText) :
    PeerAddress.canonical (String.ofList address.peerUrl) =
      .ok (String.ofList address.peerUrl) := by
  have hne : host.print ≠ [] := by
    intro hnil
    rw [hnil] at hread
    cases hread
  rw [← render_of_print_eq h]
  have hfile : Url.kind "http".toList ≠ .file := by decide
  exact PeerAddress.canonical_render PeerAddress.isLead_http ⟨_, hread⟩ hne (by simp)
    (fun heq => absurd heq hfile) fun name hname => absurd hname (haddress name)

/-- **The peer on a socket has a canonical address if and only if** the address of the socket is of
version 4, or of version 6 without a scope and without a mapped address. -/
theorem peer_on_socket_is_canonical_iff (address : SocketAddress) :
    PeerAddress.canonical (String.ofList address.peerUrl) = .ok (String.ofList address.peerUrl) ↔
      (∃ ip port, address = .v4 ip port) ∨
        ∃ ip port, address = .v6 ip 0 port ∧ ¬ ip.IsMapped := by
  constructor
  · intro h
    obtain ⟨host, hread, hprint⟩ := readWeb_hostText_of_canonical h
    cases address with
    | v4 ip port => exact .inl ⟨ip, port, rfl⟩
    | v6 ip scope port =>
      obtain ⟨written, rfl⟩ := Host.exists_of_readBracketed hread
      have hsame : written.print = bracketed ip scope := by
        rw [Host.print, hostText, List.cons_append, List.cons_append] at hprint
        exact List.append_cancel_right (List.cons.inj hprint).2
      have hscope : scope = 0 := by
        by_contra hne
        refine Ipv6.not_mem_print (c := '%') (by decide) (by decide) written ?_
        rw [hsame]
        simp [bracketed, hne]
      have hmapped : ip.mapped? = none := by
        rw [Option.eq_none_iff_forall_ne_some]
        intro mapped hmapped
        refine Ipv6.not_mem_print (c := '.') (by decide) (by decide) written ?_
        rw [hsame]
        simp [bracketed, printIpv6, hmapped, Ipv4.print, joinWith]
      exact .inr ⟨ip, port, by rw [hscope], Ipv6.mapped?_eq_none_iff.1 hmapped⟩
  · rintro (⟨ip, port, rfl⟩ | ⟨ip, port, rfl, hmapped⟩)
    · have hread : Host.readWeb (Host.ipv4 ip).print = .ok (.ipv4 ip) := Host.readWeb_print_ipv4 ip
      exact canonical_peerUrl hread (by simp) rfl
    · have hread : Host.readWeb (Host.ipv6 ip).print = .ok (.ipv6 ip) := Host.readBracketed_print ip
      refine canonical_peerUrl hread (by simp) ?_
      simp [Host.print, hostText, bracketed, printIpv6, Ipv6.mapped?_eq_none_iff.2 hmapped]

end SocketAddress

end FlowPeers
