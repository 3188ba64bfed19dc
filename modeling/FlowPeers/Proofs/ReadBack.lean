import Mathlib.Data.List.Induction
import FlowPeers.PortDirectory
import FlowPeers.Proofs.JsonRoundTrip
import FlowPeers.Proofs.Reported

/-!
# What is written for a peer to serve is read back

A list of members is read back as healthy peers with the canonical addresses of the members. Of
members with one address the last one counts (`PeerList.written_members_are_read_back`).

A description of ports gives for a name the identifier of the first port with that name
(`PortDirectory.first_port_of_name_is_found`).

Hosts, names and identifiers are any texts: each is a string in a record, and a record is read back
from its bytes.
-/

namespace FlowPeers

open Text

namespace PeerList

/-! ## Members that are written -/

/-- How a member is written. -/
def writeMember (member : String × UInt16 × UInt64) : Json :=
  .record [("flowFileCount", .nat member.2.2.toNat), ("hostname", .text member.1),
    ("port", .nat member.2.1.toNat), ("secure", .bool false)]

/-- What a member is read as. -/
def entryOf (member : String × UInt16 × UInt64) : Entry :=
  ⟨member.1, member.2.1, false, member.2.2⟩

theorem isWellFormed_writeMember (member : String × UInt16 × UInt64) :
    (writeMember member).IsWellFormed := by
  refine Json.isWellFormed_record ?_
  simp only [List.forall_mem_cons, List.not_mem_nil, false_imp_iff, implies_true, and_true]
  exact ⟨Json.isWellFormed_nat _, Json.isWellFormed_text _, Json.isWellFormed_nat _, .bool false⟩

theorem ofJson?_writeMember (member : String × UInt16 × UInt64) :
    Entry.ofJson? (writeMember member) = some (entryOf member) := by
  rw [Entry.ofJson?, writeMember, Json.fields?_record (by simp)]
  simp [List.lookup_cons, Json.required?, Json.optional?, Json.bool?, entryOf]

/-- The entries of a list that is written are its members. -/
theorem entries?_print (members : List (String × UInt16 × UInt64)) :
    (Json.readBytes? (encode (print members))).bind entries? = some (members.map entryOf) := by
  have hprint : print members =
      Json.print (.record [("peers", .list (members.map writeMember))]) := rfl
  have hwritten : (Json.record [("peers", .list (members.map writeMember))]).IsWellFormed := by
    refine Json.isWellFormed_record ?_
    rw [List.forall_mem_singleton]
    exact Json.isWellFormed_list_map isWellFormed_writeMember members
  rw [hprint, Json.readBytes?_print hwritten, Option.bind_some, entries?,
    Json.fields?_record (by simp)]
  exact Json.list?_map ofJson?_writeMember members

/-! ## The last entry of an address -/

theorem mem_insert_self (peer : Peer) (peers : List Peer) : peer ∈ insert peer peers := by
  induction peers with
  | nil => exact List.mem_singleton_self peer
  | cons first rest ih =>
    rw [insert]
    split
    · exact List.mem_cons_self ..
    · split
      · exact List.mem_cons_self ..
      · exact List.mem_cons_of_mem _ ih

/-- A peer takes the place of the one with its address. -/
theorem IsOrdered.eq_or_ne_of_mem_insert {peers : List Peer} (h : IsOrdered peers)
    {peer other : Peer} (hother : other ∈ insert peer peers) :
    other = peer ∨ other ∈ peers ∧ peer.url ≠ other.url := by
  by_cases hurl : peer.url = other.url
  · have hnodup := (isOrdered_insert h peer).nodup_urls
    exact .inl (List.inj_on_of_nodup_map hnodup hother (mem_insert_self peer peers) hurl.symm)
  · rcases mem_of_mem_insert hother with rfl | hmem
    · exact absurd rfl hurl
    · exact .inr ⟨hmem, hurl⟩

theorem peersOf_concat (entries : List Entry) (entry : Entry) :
    peersOf (entries ++ [entry]) =
      match entry.peer? with
      | some peer => insert peer (peersOf entries)
      | none => peersOf entries := by
  rw [peersOf, List.filterMap_append, List.foldl_append]
  cases hpeer : entry.peer? with
  | none => simp [hpeer, peersOf]
  | some peer => simp [hpeer, peersOf]

/-- Each of the peers is that of the last entry with its address. -/
theorem exists_last_of_mem_peersOf {entries : List Entry} {peer : Peer}
    (h : peer ∈ peersOf entries) :
    ∃ past entry later, entries = past ++ entry :: later ∧ entry.peer? = some peer ∧
      ∀ other ∈ later, PeerAddress.canonical other.address ≠ .ok peer.url := by
  induction entries using List.reverseRecOn with
  | nil => cases h
  | append_singleton entries last ih =>
    -- what is known before the last entry is known after it, unless that entry has the address
    have hbefore : peer ∈ peersOf entries → PeerAddress.canonical last.address ≠ .ok peer.url →
        ∃ past entry later, entries ++ [last] = past ++ entry :: later ∧
          entry.peer? = some peer ∧
          ∀ other ∈ later, PeerAddress.canonical other.address ≠ .ok peer.url := by
      intro hpeer hlast
      obtain ⟨past, entry, later, rfl, hentry, hlater⟩ := ih hpeer
      refine ⟨past, entry, later ++ [last], by simp, hentry, ?_⟩
      rw [List.forall_mem_append, List.forall_mem_singleton]
      exact ⟨hlater, hlast⟩
    rw [peersOf_concat] at h
    cases hlast : last.peer? with
    | none =>
      rw [hlast] at h
      refine hbefore h fun hcanonical => ?_
      obtain ⟨found, hfound, -⟩ := Entry.exists_peer?_iff.2 hcanonical
      rw [hlast] at hfound
      cases hfound
    | some found =>
      rw [hlast] at h
      rcases (isOrdered_peersOf entries).eq_or_ne_of_mem_insert h with rfl | ⟨hpeer, hne⟩
      · exact ⟨entries, last, [], rfl, hlast, by simp⟩
      · refine hbefore hpeer fun hcanonical => hne ?_
        rw [(Entry.peer?_eq_some_iff.1 hlast).1] at hcanonical
        exact Except.ok.inj hcanonical

/-! ## Members that are read back -/

/-- The address of a member before it is made canonical: its host, without blanks at its ends and in
brackets if it has a colon and none in front, and its port. -/
def memberAddress (host : String) (port : UInt16) : String :=
  let trimmed := trim host.toList
  let written :=
    if ':' ∈ trimmed ∧ trimmed.head? ≠ some '[' then '[' :: trimmed ++ [']'] else trimmed
  String.ofList ("http://".toList ++ written ++ ':' :: decimal port.toNat)

theorem address_entryOf (host : String) (port : UInt16) (flowFiles : UInt64) :
    (entryOf (host, port, flowFiles)).address = memberAddress host port := by
  unfold memberAddress Entry.address Entry.hostText entryOf
  dsimp only
  generalize trim host.toList = trimmed
  have hbrackets : (trimmed.contains ':' && trimmed.head? != some '[') = true ↔
      ':' ∈ trimmed ∧ trimmed.head? ≠ some '[' := by
    simp
  simp only [hbrackets, Bool.false_eq_true, if_false]

/-- Whether a number of flow files is that of the last member with an address. -/
def IsLastCount (members : List (String × UInt16 × UInt64)) (url : String) (count : UInt64) :
    Prop :=
  ∃ past host port later, members = past ++ (host, port, count) :: later ∧
    PeerAddress.canonical (memberAddress host port) = .ok url ∧
    ∀ other ∈ later, PeerAddress.canonical (memberAddress other.1 other.2.1) ≠ .ok url

/-- **Members that are written are read back**, whatever their hosts are: the addresses are the
canonical ones of the members that have one, each of them once, and every peer is healthy and has as
many flow files as the last member with its address. -/
theorem written_members_are_read_back (members : List (String × UInt16 × UInt64)) :
    ∃ peers, readPeers? (encode (print members)) = some peers ∧ IsOrdered peers ∧
      (∀ url, url ∈ peers.map (·.url) ↔ ∃ host port flowFiles, (host, port, flowFiles) ∈ members ∧
        PeerAddress.canonical (memberAddress host port) = .ok url) ∧
      ∀ peer ∈ peers, peer.failed = false ∧ IsLastCount members peer.url peer.flowFiles := by
  have hread : readPeers? (encode (print members)) = some (peersOf (members.map entryOf)) := by
    rw [readPeers?, entries?_print, Option.map_some]
  refine ⟨_, hread, isOrdered_peersOf _, ?_, ?_⟩
  · intro url
    rw [mem_urls_peersOf_iff]
    constructor
    · rintro ⟨entry, hentry, hcanonical⟩
      obtain ⟨⟨host, port, flowFiles⟩, hmember, rfl⟩ := List.mem_map.1 hentry
      rw [address_entryOf] at hcanonical
      exact ⟨host, port, flowFiles, hmember, hcanonical⟩
    · rintro ⟨host, port, flowFiles, hmember, hcanonical⟩
      rw [← address_entryOf host port flowFiles] at hcanonical
      exact ⟨_, List.mem_map_of_mem hmember, hcanonical⟩
  · intro peer hpeer
    refine ⟨healthy_readPeers? hread peer hpeer, ?_⟩
    obtain ⟨past, entry, later, hsplit, hentry, hlater⟩ := exists_last_of_mem_peersOf hpeer
    obtain ⟨before, behind, rfl, -, hbehind⟩ := List.map_eq_append_iff.1 hsplit
    obtain ⟨⟨host, port, count⟩, after, rfl, rfl, rfl⟩ := List.map_eq_cons_iff.1 hbehind
    obtain ⟨hcanonical, hcount, -⟩ := Entry.peer?_eq_some_iff.1 hentry
    rw [address_entryOf] at hcanonical
    rw [hcount]
    refine ⟨before, host, port, after, rfl, hcanonical, ?_⟩
    intro other hother
    rw [← address_entryOf _ _ other.2.2]
    exact hlater _ (List.mem_map_of_mem hother)

/-- Of two spellings of an address the later one counts. -/
example : readPeers? (encode (print [("node", 8080, 3), (" NODE", 8080, 5), ("bad host", 1, 2)])) =
    some [⟨"http://node:8080/nifi-api", 5, false⟩] := by
  decide +kernel

end PeerList

namespace PortDirectory

/-! ## Ports that are written -/

/-- How a port is written. -/
def Port.toJson (port : Port) : Json :=
  .record [("id", .text port.id), ("name", .text port.name)]

theorem Port.isWellFormed_toJson (port : Port) : port.toJson.IsWellFormed := by
  refine Json.isWellFormed_record ?_
  simp only [List.forall_mem_cons, List.not_mem_nil, false_imp_iff, implies_true, and_true]
  exact ⟨Json.isWellFormed_text _, Json.isWellFormed_text _⟩

theorem Port.ofJson?_toJson (port : Port) : Port.ofJson? port.toJson = some port := by
  rw [Port.ofJson?, Port.toJson, Json.fields?_record (by simp)]
  simp [List.lookup_cons, Json.required?]

/-- How a controller is written. -/
def writeController (ports : List Port) : Json :=
  .record [("inputPorts", .list (ports.map Port.toJson)), ("outputPorts", .list [])]

theorem isWellFormed_writeController (ports : List Port) :
    (writeController ports).IsWellFormed := by
  refine Json.isWellFormed_record ?_
  rw [List.forall_mem_cons, List.forall_mem_singleton]
  exact ⟨Json.isWellFormed_list_map Port.isWellFormed_toJson ports, .list (by simp)⟩

theorem controllerPorts?_writeController (ports : List Port) :
    controllerPorts? (writeController ports) = some ports := by
  have hports := Json.list?_map Port.ofJson?_toJson ports
  rw [List.map_id'] at hports
  rw [controllerPorts?, writeController, Json.fields?_record (by simp)]
  exact hports

/-- The ports of a description that is written are read back. -/
theorem ports?_print (ports : List Port) :
    (Json.readBytes? (encode (print ports))).bind ports? = some ports := by
  have hprint : print ports = Json.print (.record [("controller", writeController ports)]) := rfl
  have hwritten : (Json.record [("controller", writeController ports)]).IsWellFormed := by
    refine Json.isWellFormed_record ?_
    rw [List.forall_mem_singleton]
    exact isWellFormed_writeController ports
  rw [hprint, Json.readBytes?_print hwritten, Option.bind_some, ports?,
    Json.fields?_record (by simp)]
  exact controllerPorts?_writeController ports

/-- **The first port of a name is found** in a description that is written, whatever the texts are:
its identifier is given for the name, and nothing if no port has that name. -/
theorem first_port_of_name_is_found (ports : List Port) (name : String) :
    (∀ id, identifier? (encode (print ports)) name = some id ↔ ∃ past port later,
      ports = past ++ port :: later ∧ port.name = name ∧ port.id = id ∧
        ∀ other ∈ past, other.name ≠ name) ∧
    (identifier? (encode (print ports)) name = none ↔ ∀ port ∈ ports, port.name ≠ name) := by
  have hfind : identifier? (encode (print ports)) name =
      (ports.find? (·.name == name)).map (·.id) := by
    rw [identifier?, ports?_print]
  rw [hfind]
  constructor
  · intro id
    rw [Option.map_eq_some_iff]
    constructor
    · rintro ⟨port, hport, rfl⟩
      obtain ⟨hname, past, later, rfl, hpast⟩ := List.find?_eq_some_iff_append.1 hport
      exact ⟨past, port, later, rfl, beq_iff_eq.1 hname, rfl, by simpa using hpast⟩
    · rintro ⟨past, port, later, rfl, hname, rfl, hpast⟩
      refine ⟨port, List.find?_eq_some_iff_append.2 ⟨beq_iff_eq.2 hname, past, later, rfl, ?_⟩, rfl⟩
      simpa using hpast
  · rw [Option.map_eq_none_iff, List.find?_eq_none]
    simp only [beq_iff_eq]

/-- A name with a quote and a tab in it. -/
example : identifier? (encode (print [⟨"a", "in"⟩, ⟨"b", "\"in\t"⟩, ⟨"c", "\"in\t"⟩])) "\"in\t" =
    some "b" := by
  decide +kernel

end PortDirectory

end FlowPeers
