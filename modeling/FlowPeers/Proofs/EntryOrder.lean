import FlowPeers.Proofs.Atomicity
import FlowPeers.Proofs.ReadBack

/-!
# The order of the entries of a list

A peer may serve the members of its cluster in any order. What is read of a list is in the order of
the addresses, so the order of the entries does not show as long as no address occurs twice
(`PeerList.peersOf_eq_of_perm`), and an entry without a usable address does not show at all
(`PeerList.peersOf_filter_isUsable`).

Of the answer to a refresh nothing matters but what is read of its body
(`Tracker.eq_adopt_of_isServed`, `Tracker.runs_refresh_concat`). Two bodies of which the same is read
may therefore be exchanged (`Tracker.AreAlike`, `Tracker.areAlike_of_readPeers?_eq`).
-/

namespace FlowPeers

open Dialogue

/-! ## Lists -/

namespace PeerList

/-- Lists of the same peers in order of addresses are the same. -/
theorem IsOrdered.eq_of_mem_iff {peers others : List Peer} (h : IsOrdered peers)
    (hothers : IsOrdered others) (hmem : ∀ peer, peer ∈ peers ↔ peer ∈ others) : peers = others := by
  have hnodup : ∀ {peers : List Peer}, IsOrdered peers → peers.Nodup :=
    fun h => h.nodup_urls.of_map _
  refine List.Perm.eq_of_pairwise ?_ h hothers
    ((List.perm_ext_iff_of_nodup (hnodup h) (hnodup hothers)).2 hmem)
  intro a b _ _ hab hba
  exact absurd (String.lt_trans hab hba) (String.lt_irrefl _)

/-- Whether an entry has a usable address. -/
def Entry.isUsable (entry : Entry) : Bool :=
  (PeerAddress.canonical entry.address).toOption.isSome

theorem Entry.peer?_eq_none_iff {entry : Entry} : entry.peer? = none ↔ entry.isUsable = false := by
  rw [peer?, isUsable]
  cases PeerAddress.canonical entry.address <;> simp [Except.toOption]

/-- Whether no two entries have the same address. -/
def HaveOwnAddresses (entries : List Entry) : Prop :=
  entries.Pairwise fun a b => ∀ url, PeerAddress.canonical a.address = .ok url →
    PeerAddress.canonical b.address ≠ .ok url

theorem HaveOwnAddresses.nodup_urls {entries : List Entry} (h : HaveOwnAddresses entries) :
    ((entries.filterMap Entry.peer?).map (·.url)).Nodup := by
  rw [List.Nodup, List.pairwise_map, List.pairwise_filterMap]
  refine h.imp ?_
  intro a b hab peer hpeer other hother heq
  have hurl := (Entry.peer?_eq_some_iff.1 hother).1
  exact hab peer.url (Entry.peer?_eq_some_iff.1 hpeer).1 (heq ▸ hurl)

/-- If no address occurs twice, the peers are those of all usable entries. -/
theorem mem_peersOf_iff {entries : List Entry} (h : HaveOwnAddresses entries) {peer : Peer} :
    peer ∈ peersOf entries ↔ peer ∈ entries.filterMap Entry.peer? := by
  have hread : ∀ peer ∈ peersOf entries, peer ∈ entries.filterMap Entry.peer? :=
    forall_mem_peersOf fun entry hentry peer hpeer => List.mem_filterMap.2 ⟨entry, hentry, hpeer⟩
  refine ⟨hread peer, fun hpeer => ?_⟩
  obtain ⟨entry, hentry, hentryPeer⟩ := List.mem_filterMap.1 hpeer
  -- somebody with the address is read, and nobody else has it
  have hurl : peer.url ∈ (peersOf entries).map (·.url) :=
    mem_urls_peersOf_iff.2 ⟨entry, hentry, (Entry.peer?_eq_some_iff.1 hentryPeer).1⟩
  obtain ⟨other, hother, heq⟩ := List.mem_map.1 hurl
  rwa [← List.inj_on_of_nodup_map h.nodup_urls (hread other hother) hpeer heq]

theorem HaveOwnAddresses.of_perm {entries others : List Entry} (h : HaveOwnAddresses entries)
    (hperm : entries.Perm others) : HaveOwnAddresses others :=
  hperm.pairwise h fun hab url hb ha => hab url ha hb

/-- The order of the entries does not show if no address occurs twice. -/
theorem peersOf_eq_of_perm {entries others : List Entry} (hperm : entries.Perm others)
    (h : HaveOwnAddresses entries) : peersOf entries = peersOf others := by
  refine (isOrdered_peersOf entries).eq_of_mem_iff (isOrdered_peersOf others) fun peer => ?_
  rw [mem_peersOf_iff h, mem_peersOf_iff (h.of_perm hperm), (hperm.filterMap _).mem_iff]

/-- Entries without a usable address do not show. -/
theorem peersOf_filter_isUsable (entries : List Entry) :
    peersOf (entries.filter Entry.isUsable) = peersOf entries := by
  have hread : (entries.filter Entry.isUsable).filterMap Entry.peer? =
      entries.filterMap Entry.peer? := by
    rw [List.filterMap_filter]
    refine List.filterMap_congr fun entry _ => ?_
    split
    · rfl
    · next hunusable => exact (Entry.peer?_eq_none_iff.2 (by simpa using hunusable)).symm
  rw [peersOf, peersOf, hread]

end PeerList

/-! ## Refreshes -/

namespace Visits

variable {α : Type} {action : Tracker.Action α} {logins : Logins} {urls : List String}

/-- The last of some visits may go in another way with the same peer, if both succeed. -/
theorem replace_last {before : List (Visit α)} {v w : Visit α}
    (h : Visits action logins urls (before ++ [v])) (hw : w.IsOf action)
    (hbefore : w.before = v.before) (hurl : w.url = v.url) (hv : v.hasFailed = false)
    (hresult : w.hasFailed = false) : Visits action logins urls (before ++ [w]) := by
  induction before generalizing logins urls with
  | nil =>
    cases h with
    | success _ hv₁ hv₂ _ => exact .success hw (hbefore.trans hv₁) (hurl.trans hv₂) hresult
    | failure _ _ _ hfailed _ =>
      rw [hv] at hfailed
      contradiction
  | cons first before ih =>
    rw [List.cons_append] at h ⊢
    generalize hrest : before ++ [v] = rest at h
    cases h with
    | success => simp at hrest
    | failure hfirst hfirst₁ hfirst₂ hfailed later =>
      subst hrest
      exact .failure hfirst hfirst₁ hfirst₂ hfailed (ih later)

end Visits

namespace Tracker

variable {now : UInt64} {t t' : Tracker} {log before : List Exchanged} {body body' : List UInt8}

/-- Whether the last thing that is exchanged is an answer with success that has a body. -/
def IsServed (body : List UInt8) (log : List Exchanged) : Prop :=
  ∃ before request response, log = before ++ [⟨request, .ok response⟩] ∧
    response.status.isSuccess ∧ response.body.read = .ok body

/-- A refresh that succeeds ends with a visit to a peer that serves a list, which is adopted. -/
theorem exists_last_of_runs_refresh (h : (refresh now t).Runs log (t', .ok ())) :
    ∃ earlier v reported, Visits fetchPeers t.logins t.status.urls (earlier ++ [v]) ∧
      log = Visit.transcript earlier ++ v.log ∧ v.Serves reported ∧ v.result = .ok reported ∧
      t' = { t with logins := v.after }.adopt reported now := by
  obtain ⟨visits, hvisits, rfl, hresult, rfl⟩ := runs_refresh_iff.1 h
  rcases (outcome_of_visits hvisits).2 with ⟨v, reported, hlast, hv, houtcome⟩ |
    ⟨-, -, ⟨-, houtcome⟩ | ⟨_, _, -, -, houtcome⟩⟩
  · obtain ⟨earlier, rfl⟩ := List.getLast?_eq_some_iff.1 hlast
    have hof := hvisits.isOf v (by simp)
    refine ⟨earlier, v, reported, hvisits, by simp [Visit.transcript], hof.serves_iff.2 hv, hv, ?_⟩
    rw [afterAsking, houtcome]
    simp [Visit.finalLogins]
  · rw [houtcome] at hresult
    contradiction
  · rw [houtcome] at hresult
    contradiction

/-- A visit that succeeds ends with the answer. -/
theorem serves_concat {v : Visit (List Peer)} {reported : List Peer} {earlier : List Exchanged}
    {request : Request} {response : Response} (h : v.Serves reported)
    (hlog : earlier ++ v.log = before ++ [⟨request, .ok response⟩]) :
    ∃ entry body, before = earlier ++ entry ∧ v.log = entry ++ [⟨request, .ok response⟩] ∧
      (v.before.login v.url).Runs entry (.ok v.after) ∧
      Request.toUrl "GET" (v.url ++ peersPath) (v.after.headers v.url) .empty = .ok request ∧
      response.body.read = .ok body ∧ PeerList.readPeers? body = some reported := by
  obtain ⟨entry, request', response', body, hlogin, hrequest, hentry, -, hread, hlist⟩ := h
  rw [hentry, ← List.append_assoc] at hlog
  obtain ⟨rfl, hsame⟩ := List.append_inj' hlog rfl
  simp only [List.cons.injEq, Exchanged.mk.injEq, Except.ok.injEq, and_true] at hsame
  obtain ⟨rfl, rfl⟩ := hsame
  exact ⟨entry, body, rfl, hentry, hlogin, hrequest, hread, hlist⟩

/-- A refresh that succeeds adopts what is read of the body in the answer, whoever was asked before
and whatever the tokens are. -/
theorem eq_adopt_of_isServed (h : (refresh now t).Runs log (t', .ok ())) (hserved : IsServed body log) :
    ∃ reported, PeerList.readPeers? body = some reported ∧
      t'.status = (t.adopt reported now).status ∧ t'.saved = some t'.status := by
  obtain ⟨before, request, response, hlog, -, hread⟩ := hserved
  obtain ⟨earlier, v, reported, -, htranscript, hserves, -, rfl⟩ := exists_last_of_runs_refresh h
  obtain ⟨entry, body', -, -, -, -, hread', hlist⟩ :=
    serves_concat hserves (htranscript.symm.trans hlog)
  rw [hread] at hread'
  cases hread'
  exact ⟨reported, hlist, rfl, rfl⟩

/-- A refresh that succeeds may as well be answered in any other way from which the same is read. -/
theorem runs_refresh_concat {request : Request} {response other : Response}
    (h : (refresh now t).Runs (before ++ [⟨request, .ok response⟩]) (t', .ok ()))
    (hread : response.body.read = .ok body) (hsuccess : other.status.isSuccess)
    (hother : other.body.read = .ok body')
    (heq : PeerList.readPeers? body = PeerList.readPeers? body') :
    (refresh now t).Runs (before ++ [⟨request, .ok other⟩]) (t', .ok ()) := by
  obtain ⟨earlier, v, reported, hvisits, htranscript, hserves, hresult, rfl⟩ :=
    exists_last_of_runs_refresh h
  obtain ⟨entry, body₁, rfl, -, hlogin, hrequest, hread₁, hlist⟩ :=
    serves_concat hserves htranscript.symm
  rw [hread] at hread₁
  cases hread₁
  rw [heq] at hlist
  let w : Visit (List Peer) := { v with log := entry ++ [⟨request, .ok other⟩] }
  have hw : w.Serves reported :=
    ⟨entry, request, other, body', hlogin, hrequest, rfl, hsuccess, hother, hlist⟩
  have hof : w.IsOf fetchPeers := by
    rw [Visit.IsOf, show w.result = .ok reported from hresult]
    exact hw.runs
  have hfailed : v.hasFailed = false := Visit.hasFailed_eq_false_iff.2 ⟨reported, hresult⟩
  refine runs_refresh_iff.2 ⟨earlier ++ [w], hvisits.replace_last hof rfl rfl hfailed hfailed,
    ?_, ?_, ?_⟩
  · simp [Visit.transcript, w]
  · simp [Visit.outcome, w, hresult, Except.map]
  · simp [afterAsking, Visit.outcome, Visit.finalLogins, w, hresult]

/-- Whether it makes no difference which of two bodies a peer serves as its list. -/
structure AreAlike (body body' : List UInt8) : Prop where
  readPeers?_eq : PeerList.readPeers? body = PeerList.readPeers? body'
  /-- Two refreshes of a tracker at the same time lead to the same status and save the same, whoever is
  asked before. -/
  status_eq : ∀ {now t log log' t₁ t₂}, (refresh now t).Runs log (t₁, .ok ()) → IsServed body log →
    (refresh now t).Runs log' (t₂, .ok ()) → IsServed body' log' →
    t₁.status = t₂.status ∧ t₁.saved = t₂.saved
  /-- In a refresh that is answered with the one body the answer may have the other body, and nothing
  else changes. -/
  runs_iff : ∀ {now t before request response response' t₁}, response.status.isSuccess →
    response.body.read = .ok body → response'.status.isSuccess → response'.body.read = .ok body' →
    ((refresh now t).Runs (before ++ [⟨request, .ok response⟩]) (t₁, .ok ()) ↔
      (refresh now t).Runs (before ++ [⟨request, .ok response'⟩]) (t₁, .ok ()))

theorem areAlike_of_readPeers?_eq (h : PeerList.readPeers? body = PeerList.readPeers? body') :
    AreAlike body body' where
  readPeers?_eq := h
  status_eq := by
    intro now t log log' t₁ t₂ h₁ hserved₁ h₂ hserved₂
    obtain ⟨reported, hread₁, hstatus₁, hsaved₁⟩ := eq_adopt_of_isServed h₁ hserved₁
    obtain ⟨reported', hread₂, hstatus₂, hsaved₂⟩ := eq_adopt_of_isServed h₂ hserved₂
    rw [h, hread₂] at hread₁
    cases hread₁
    have hstatus : t₁.status = t₂.status := hstatus₁.trans hstatus₂.symm
    exact ⟨hstatus, by rw [hsaved₁, hsaved₂, hstatus]⟩
  runs_iff := by
    intro now t before request response response' t₁ hsuccess hread hsuccess' hread'
    exact ⟨fun hrun => runs_refresh_concat hrun hread hsuccess' hread' h,
      fun hrun => runs_refresh_concat hrun hread' hsuccess hread h.symm⟩

/-- **The order in which a cluster lists its members does not matter.** Of two bodies with the same
entries in different orders, in which no two usable entries have the same address, the same is read,
and it makes no difference which of them a peer serves: from any tracker a refresh that is answered
with the one leads to the status that a refresh answered with the other leads to, peers in the same
order, and saves the same. Likewise it makes no difference which entries without a usable address
there are, and where, even if addresses occur twice. -/
theorem order_of_members_does_not_matter {entries entries' : List PeerList.Entry}
    (hbody : (Json.readBytes? body).bind PeerList.entries? = some entries)
    (hbody' : (Json.readBytes? body').bind PeerList.entries? = some entries') :
    (entries.Perm entries' → PeerList.HaveOwnAddresses entries → AreAlike body body') ∧
    (entries.filter PeerList.Entry.isUsable = entries'.filter PeerList.Entry.isUsable →
      AreAlike body body') := by
  have halike : PeerList.peersOf entries = PeerList.peersOf entries' → AreAlike body body' := by
    intro heq
    refine areAlike_of_readPeers?_eq ?_
    rw [PeerList.readPeers?, PeerList.readPeers?, hbody, hbody', Option.map_some, Option.map_some,
      heq]
  refine ⟨fun hperm haddresses => halike (PeerList.peersOf_eq_of_perm hperm haddresses), ?_⟩
  intro heq
  refine halike ?_
  rw [← PeerList.peersOf_filter_isUsable entries, heq, PeerList.peersOf_filter_isUsable]

/-- A peer serves two members in one order or in the other, or with an entry between them that has no
usable address. -/
theorem two_members_in_either_order :
    let members : List (String × UInt16 × UInt64) := [("b", 80, 7), ("a", 80, 3)]
    let body := Text.encode (PeerList.print members)
    let turned := Text.encode (PeerList.print members.reverse)
    let parted := Text.encode (PeerList.print [("b", 80, 7), ("bad host", 1, 2), ("a", 80, 3)])
    AreAlike body turned ∧ AreAlike body parted ∧
    ∃ t log log' t₁, (refresh 1000 t).Runs log (t₁, .ok ()) ∧ IsServed body log ∧
      (refresh 1000 t).Runs log' (t₁, .ok ()) ∧ IsServed turned log' ∧
      t₁.status = ⟨[⟨"http://a:80/nifi-api", 3, false⟩, ⟨"http://b:80/nifi-api", 7, false⟩], 1000⟩ := by
  intro members body turned parted
  have haddresses : PeerList.HaveOwnAddresses (members.map PeerList.entryOf) := by
    have hb : PeerAddress.canonical (PeerList.entryOf ("b", 80, 7)).address =
        .ok "http://b:80/nifi-api" := by decide +kernel
    have ha : PeerAddress.canonical (PeerList.entryOf ("a", 80, 3)).address =
        .ok "http://a:80/nifi-api" := by decide +kernel
    simp [PeerList.HaveOwnAddresses, members, ha, hb]
  obtain ⟨hturned, -⟩ := order_of_members_does_not_matter (PeerList.entries?_print members)
    (PeerList.entries?_print members.reverse)
  obtain ⟨-, hparted⟩ := order_of_members_does_not_matter (PeerList.entries?_print members)
    (PeerList.entries?_print [("b", 80, 7), ("bad host", 1, 2), ("a", 80, 3)])
  have halike : AreAlike body turned :=
    hturned ((List.reverse_perm members).symm.map _) haddresses
  refine ⟨halike, hparted (by decide +kernel), ?_⟩
  let a : String := "http://a:80/nifi-api"
  let t : Tracker := ofSeeds [a] (.ofSeconds 1) (.start none none)
  let reported : List Peer := [⟨a, 3, false⟩, ⟨"http://b:80/nifi-api", 7, false⟩]
  have hread : PeerList.readPeers? body = some reported := by decide +kernel
  obtain ⟨request, hserves⟩ := Visit.exists_serves (rfl : t.logins.credentials = none)
    (by decide +kernel : (Request.toUrl "GET" (a ++ peersPath) (t.logins.headers a)
      .empty).toOption.isSome) hread
  have hrun : (refresh 1000 t).Runs ([] ++ [⟨request, .ok ⟨.ok, [], .whole body⟩⟩])
      (t.adopt reported 1000, .ok ()) :=
    runs_refresh_iff.2 ⟨_, .success hserves.runs rfl rfl rfl, rfl, rfl, rfl⟩
  have hrun' : (refresh 1000 t).Runs ([] ++ [⟨request, .ok ⟨.ok, [], .whole turned⟩⟩])
      (t.adopt reported 1000, .ok ()) :=
    (halike.runs_iff rfl rfl rfl rfl).1 hrun
  exact ⟨t, _, _, _, hrun, ⟨[], _, _, rfl, rfl, rfl⟩, hrun', ⟨[], _, _, rfl, rfl, rfl⟩,
    by decide +kernel⟩

end Tracker

end FlowPeers
