import FlowPeers.Proofs.History

/-!
# Seeds are never lost

A tracker takes the list of peers as some peer serves it, and that list may leave out anybody. An
address is known after a list was adopted if and only if it is reported, or was known and is a seed
(`Tracker.mem_urls_adopt_iff`); trying an errand neither adds an address nor removes one. So no deed
loses a seed (`Deed.Occurs.mem_urls_after`), and neither does a course
(`Tracker.Chronicle.mem_urls`).

As long as a seed is known there is somebody to ask. Then an operation says that there are no peers
only if a reply has said so (`Deed.Occurs.exists_reply`), as no exchange with a peer says so of its
own (`Exchange.HasPeer`).
-/

namespace FlowPeers

open Dialogue

variable {α : Type}

/-! ## Addresses after a list was adopted -/

namespace Tracker

/-- After a list was adopted the known addresses are those that it reports, and the seeds among those
that were known. -/
theorem mem_urls_adopt_iff {t : Tracker} {reported : List Peer} {now : UInt64} {url : String} :
    url ∈ (t.adopt reported now).status.urls ↔
      url ∈ reported.map (·.url) ∨ (url ∈ t.status.urls ∧ url ∈ t.seeds) :=
  mem_urls_merge_iff

end Tracker

/-! ## Exchanges that do not say that there are no peers -/

namespace Exchange

/-- Whether an exchange has a peer to turn to: it ends with the failure to find one only if that is a
reply. -/
def HasPeer (e : Exchange α) : Prop :=
  ∀ log, e.Runs log (.error .noPeers) → ∃ x ∈ log, x.reply = .error .noPeers

theorem hasPeer_done {result : Except Failure α} (h : result ≠ .error .noPeers) :
    HasPeer (.done result) := by
  intro log hrun
  exact absurd (runs_done_iff.1 hrun).2.symm h

/-- A question has a peer to turn to, if no response is read as a failure to find one. -/
theorem hasPeer_ask {request : Except RequestError Request} {read : Response → Except Failure α}
    (hread : ∀ response, read response ≠ .error .noPeers) : HasPeer (ask request read) := by
  intro log hrun
  rcases runs_ask_iff.1 hrun with ⟨_, _, _, hfail⟩ | ⟨sent, reply, -, rfl, hfail⟩
  · cases hfail
  · cases reply with
    | error failure =>
      cases hfail
      exact ⟨_, List.mem_singleton_self _, rfl⟩
    | ok response => exact absurd hfail.symm (hread response)

theorem BlamesPeers.ne_noPeers {read : Response → Except Failure α} (h : BlamesPeers read)
    (response : Response) : read response ≠ .error .noPeers := by
  intro heq
  have hretryable := h response .noPeers heq
  contradiction

end Exchange

open Exchange

theorem Logins.readToken_ne (url : String) (response : Response) :
    readToken url response ≠ .error .noPeers := by
  rw [readToken]
  split
  · split
    · next failure hfailure =>
      intro heq
      cases heq
      exact absurd (isRetryable_of_readBody hfailure) (by decide)
    · split <;> simp
  · simp

theorem Logins.hasPeer_login (logins : Logins) (url : String) : HasPeer (logins.login url) := by
  intro log hrun
  rcases runs_login_iff.1 hrun with ⟨-, -, hok⟩ | ⟨credentials, -, -, hobtain⟩
  · contradiction
  · rw [obtain_eq_ask] at hobtain
    refine hasPeer_ask (fun response heq => readToken_ne (url ++ tokenPath) response ?_) log hobtain
    cases htoken : readToken (url ++ tokenPath) response with
    | error failure =>
      rw [htoken] at heq
      cases heq
      rfl
    | ok value =>
      rw [htoken] at heq
      contradiction

theorem Tracker.hasPeer_fetchPeers (url : String) (logins : Logins) :
    HasPeer (Tracker.fetchPeers url logins) := by
  rw [fetchPeers_eq_ask]
  exact hasPeer_ask (blamesPeers_listed _).ne_noPeers

theorem Transaction.openUrl_ne (peer port : String) : openUrl peer port ≠ .error .noPeers := by
  rw [openUrl]
  split
  · simp
  · split <;> simp

theorem Errand.hasPeer_action (errand : Errand) (url : String) (logins : Logins) :
    HasPeer (errand.action url logins) := by
  cases errand with
  | resolvePort name =>
    rw [action_resolvePort_eq_ask]
    exact hasPeer_ask ((Tracker.blamesPeers_found _ name).map _).ne_noPeers
  | openTransaction port =>
    cases hplace : Transaction.openUrl url port with
    | error failure =>
      rw [action_openTransaction_eq_fail hplace]
      refine hasPeer_done fun heq => ?_
      cases heq
      exact Transaction.openUrl_ne _ _ hplace
    | ok place =>
      rw [action_openTransaction_eq_ask hplace]
      exact hasPeer_ask ((Transaction.blamesPeers_answer _ _ _ _).map _).ne_noPeers

theorem Visit.IsOf.exists_reply {action : Tracker.Action α} {v : Visit α} (h : v.IsOf action)
    (haction : ∀ url logins, HasPeer (action url logins)) (hresult : v.result = .error .noPeers) :
    ∃ x ∈ v.log, x.reply = .error .noPeers := by
  rcases Logins.runs_visit_iff.1 h with ⟨failure, hlogin, -, heq⟩ | ⟨entry, work, -, hwork, hlog⟩
  · rw [hresult] at heq
    cases heq
    exact v.before.hasPeer_login v.url _ hlogin
  · rw [hresult] at hwork
    obtain ⟨x, hx, hreply⟩ := haction _ _ _ hwork
    exact ⟨x, by rw [hlog]; exact List.mem_append_right _ hx, hreply⟩

/-- With somebody to visit it is only a reply that says that there are no peers. -/
theorem Visits.exists_reply {action : Tracker.Action α} {logins : Logins} {urls : List String}
    {visits : List (Visit α)} (h : Visits action logins urls visits)
    (haction : ∀ url logins, HasPeer (action url logins)) (hurls : urls ≠ [])
    (houtcome : Visit.outcome .noPeers visits = .error .noPeers) :
    ∃ x ∈ Visit.transcript visits, x.reply = .error .noPeers := by
  cases hlast : visits.getLast? with
  | none =>
    rw [List.getLast?_eq_none_iff.1 hlast] at h
    cases h
    contradiction
  | some v =>
    have hv : v ∈ visits := List.mem_of_getLast? hlast
    rw [Visit.outcome, hlast] at houtcome
    obtain ⟨x, hx, hreply⟩ := (h.isOf v hv).exists_reply haction houtcome
    exact ⟨x, List.mem_flatMap.2 ⟨v, hv, hx⟩, hreply⟩

/-! ## What one deed does to the seeds -/

namespace Deed

variable {d : Deed} {url : String}

theorem Occurs.seeds (h : d.Occurs) : d.after.seeds = d.before.seeds := by
  rw [h.after_eq, Tracker.afterTrying, refreshed, Tracker.afterAsking_seeds]

/-- Asking the peers loses no seed. -/
theorem mem_urls_refreshed (hseed : url ∈ d.before.seeds) (hurl : url ∈ d.before.status.urls) :
    url ∈ d.refreshed.status.urls := by
  rw [refreshed_status]
  split
  · exact Tracker.mem_urls_adopt_iff.2 (.inr ⟨hurl, hseed⟩)
  · exact hurl

/-- No deed loses a seed. -/
theorem Occurs.mem_urls_after (h : d.Occurs) (hseed : url ∈ d.before.seeds)
    (hurl : url ∈ d.before.status.urls) : url ∈ d.after.status.urls :=
  h.urls_perm.mem_iff.2 (mem_urls_refreshed hseed hurl)

/-- What is known after a list was adopted, and is no seed, is in this list. -/
theorem Occurs.mem_reported (h : d.Occurs) {reported : List Peer}
    (hreported : d.reported? = some reported) (hseed : url ∉ d.before.seeds)
    (hurl : url ∈ d.after.status.urls) : url ∈ reported.map (·.url) := by
  have hrefreshed := h.urls_perm.mem_iff.1 hurl
  rw [refreshed_status, hreported] at hrefreshed
  exact (Tracker.mem_urls_adopt_iff.1 hrefreshed).resolve_right fun hkept => hseed hkept.2

/-- While a seed is known no operation says that there are no peers, unless a reply does. -/
theorem Occurs.exists_reply (h : d.Occurs) (hseed : url ∈ d.before.seeds)
    (hurl : url ∈ d.before.status.urls) (hresult : d.result = .error .noPeers) :
    ∃ x ∈ d.act.log, x.reply = .error .noPeers := by
  have hrefreshed : d.refreshed.status.urls ≠ [] :=
    List.ne_nil_of_mem (mem_urls_refreshed hseed hurl)
  cases h with
  | @refresh t now asked hasked =>
    cases houtcome : Visit.outcome .noPeers asked with
    | ok reported =>
      rw [houtcome] at hresult
      contradiction
    | error failure =>
      rw [houtcome] at hresult
      cases hresult
      obtain ⟨x, hx, hreply⟩ :=
        hasked.exists_reply Tracker.hasPeer_fetchPeers (List.ne_nil_of_mem hurl) houtcome
      exact ⟨x, List.mem_append_left _ hx, hreply⟩
  | @fresh errand t now tried hfresh htried =>
    obtain ⟨x, hx, hreply⟩ :=
      htried.exists_reply errand.hasPeer_action (List.ne_nil_of_mem hurl) hresult
    exact ⟨x, List.mem_append_right _ hx, hreply⟩
  | @stale errand t now asked tried reported hstale hasked hreported htried =>
    obtain ⟨x, hx, hreply⟩ := htried.exists_reply errand.hasPeer_action hrefreshed hresult
    exact ⟨x, List.mem_append_right _ hx, hreply⟩
  | @expired errand t now asked failure hstale hasked hfailure =>
    cases hresult
    obtain ⟨x, hx, hreply⟩ :=
      hasked.exists_reply Tracker.hasPeer_fetchPeers (List.ne_nil_of_mem hurl) hfailure
    exact ⟨x, List.mem_append_left _ hx, hreply⟩

end Deed

/-! ## What a course does to the seeds -/

namespace Tracker

variable {start t : Tracker} {deeds : List Deed}

theorem Chronicle.seeds (h : Chronicle start deeds t) :
    t.seeds = start.seeds ∧ ∀ d ∈ deeds, d.before.seeds = start.seeds :=
  h.forall_before (P := fun t => t.seeds = start.seeds) (fun _ hd hbefore => hd.seeds.trans hbefore)
    rfl

/-- A course loses no seed. -/
theorem Chronicle.mem_urls (h : Chronicle start deeds t) {url : String}
    (hseed : url ∈ start.seeds) (hurl : url ∈ start.status.urls) :
    url ∈ t.status.urls ∧ ∀ d ∈ deeds, url ∈ d.before.status.urls := by
  obtain ⟨⟨-, hurl⟩, hall⟩ :=
    h.forall_before (P := fun t => url ∈ t.seeds ∧ url ∈ t.status.urls)
      (fun _ hd ⟨hseed, hurl⟩ => ⟨by rwa [hd.seeds], hd.mem_urls_after hseed hurl⟩) ⟨hseed, hurl⟩
  exact ⟨hurl, fun d hd => (hall d hd).2⟩

/-- Every text of a seed gives one of the seeds, and what was there before stays. -/
theorem mem_of_readSeeds {seen raw seeds : List String} (h : readSeeds seen raw = .ok seeds) :
    (∀ url ∈ seen, url ∈ seeds) ∧
      ∀ text ∈ raw, ∃ url, PeerAddress.canonical text = .ok url ∧ url ∈ seeds := by
  induction raw generalizing seen with
  | nil =>
    cases h
    exact ⟨fun url hurl => hurl, by simp⟩
  | cons text rest ih =>
    rw [readSeeds] at h
    split at h
    · contradiction
    · next url hcanonical =>
      obtain ⟨hseen, hrest⟩ := ih h
      have hurl : url ∈ seeds := by
        refine hseen url ?_
        split
        · next hcontains => exact List.contains_iff_mem.1 hcontains
        · exact List.mem_append_right _ (List.mem_singleton_self _)
      refine ⟨fun other hother => hseen other ?_, ?_⟩
      · split
        · exact hother
        · exact List.mem_append_left _ hother
      · intro other hother
        rcases List.mem_cons.1 hother with rfl | hother
        · exact ⟨url, hcanonical, hurl⟩
        · exact hrest other hother

theorem mem_urls_ofSeeds {seeds : List String} {interval : Duration} {logins : Logins}
    {url : String} (h : url ∈ seeds) : url ∈ (ofSeeds seeds interval logins).status.urls := by
  rw [PeerStatus.mem_urls_iff, ofSeeds, PeerStatus.get?_ofPeers, List.find?_isSome]
  exact ⟨⟨url, 0, false⟩, by simpa using h, by simp⟩

/-- A tracker is told from its seeds, and with nothing saved from a refresh that has succeeded. -/
theorem exists_seeding_of_runs_connect {raw : List String} {interval : Duration} {logins : Logins}
    {saved : Option PeerStatus} {now : UInt64} {log : List Exchanged} {t₀ : Tracker}
    (h : (connect raw interval logins saved now).Runs log (.ok t₀)) :
    ∃ seeds start opening, readSeeds [] raw = .ok seeds ∧ start.seeds = seeds ∧
      opening.flatMap Act.log = log ∧ Course start opening t₀ ∧
      (saved = none → ∀ url ∈ seeds, url ∈ start.status.urls) := by
  cases saved with
  | none =>
    obtain ⟨seeds, hseeds, hcourse⟩ := course_of_runs_connect h
    exact ⟨seeds, _, [⟨.refresh, now, log, .ok .done⟩], hseeds, rfl, List.append_nil log, hcourse,
      fun _ _ => mem_urls_ofSeeds⟩
  | some status =>
    rw [connect] at h
    split at h
    · obtain ⟨-, hfail⟩ := runs_done_iff.1 h
      contradiction
    · next seeds hseeds =>
      rw [connectTo] at h
      obtain ⟨rfl, hok⟩ := runs_done_iff.1 h
      cases hok
      exact ⟨seeds, _, [], hseeds, rfl, rfl, .rest, by simp⟩

/-- **Seeds are never lost.** Let a tracker be connected, with or without something saved, and then do
anything with it, whatever the replies are. A seed that is known when the tracker is connected stays
known. With nothing saved and at least one seed all seeds are known all the time, so that there is
always some peer, and no operation says that there is none unless a reply says so. All
that is done, the refresh when the tracker is connected included, is told in deeds, and however it is
told: no seed is lost in between, after the refresh in an errand, and what is known right after a list
was adopted and is no seed is in this list. -/
theorem seeds_are_never_lost {raw : List String} {interval : Duration} {logins : Logins}
    {saved : Option PeerStatus} {now : UInt64} {log : List Exchanged} {t₀ t : Tracker}
    {acts : List Act} (hconnect : (connect raw interval logins saved now).Runs log (.ok t₀))
    (hcourse : Course t₀ acts t) :
    ∃ seeds start opening, readSeeds [] raw = .ok seeds ∧ t.seeds = seeds ∧
      (∀ url ∈ seeds, url ∈ t₀.status.urls → url ∈ t.status.urls) ∧
      (saved = none → raw ≠ [] →
        (∀ url ∈ seeds, url ∈ t.status.urls) ∧ t.status.peers ≠ [] ∧
        ∀ act ∈ acts, act.result = .error .noPeers → ∃ x ∈ act.log, x.reply = .error .noPeers) ∧
      start.seeds = seeds ∧ opening.flatMap Act.log = log ∧ Course start (opening ++ acts) t ∧
      (∃ deeds, Chronicle start deeds t ∧ deeds.map Deed.act = opening ++ acts) ∧
      ∀ deeds, Chronicle start deeds t → deeds.map Deed.act = opening ++ acts → ∀ d ∈ deeds,
        (∀ url ∈ seeds, url ∈ d.before.status.urls →
          url ∈ d.refreshed.status.urls ∧ url ∈ d.after.status.urls) ∧
        ∀ reported, d.reported? = some reported →
          ∀ url ∉ seeds, (url ∈ d.refreshed.status.urls ∨ url ∈ d.after.status.urls) →
            url ∈ reported.map (·.url) := by
  obtain ⟨seeds, start, opening, hseeds, rfl, hlog, hopening, hknown⟩ :=
    exists_seeding_of_runs_connect hconnect
  have hall := hopening.append hcourse
  obtain ⟨deeds₀, hdeeds₀, -⟩ := exists_chronicle hopening
  obtain ⟨deeds, hdeeds, hacts⟩ := exists_chronicle hcourse
  have hstays : ∀ url ∈ start.seeds, url ∈ t₀.status.urls →
      url ∈ t.status.urls ∧ ∀ d ∈ deeds, url ∈ d.before.status.urls :=
    fun url hseed hurl => hdeeds.mem_urls (by rwa [hdeeds₀.seeds.1]) hurl
  refine ⟨start.seeds, start, opening, hseeds, ?_, fun url hseed hurl => (hstays url hseed hurl).1,
    ?_, rfl, hlog, hall, exists_chronicle hall, ?_⟩
  · exact hdeeds.seeds.1.trans hdeeds₀.seeds.1
  · intro hsaved hraw
    have hbegin : ∀ url ∈ start.seeds, url ∈ t₀.status.urls :=
      fun url hseed => (hdeeds₀.mem_urls hseed (hknown hsaved url hseed)).1
    obtain ⟨text, htext⟩ := List.exists_mem_of_ne_nil raw hraw
    obtain ⟨url, -, hseed⟩ := (mem_of_readSeeds hseeds).2 text htext
    obtain ⟨hurl, hdeed⟩ := hstays url hseed (hbegin url hseed)
    refine ⟨fun url hseed => (hstays url hseed (hbegin url hseed)).1, ?_, ?_⟩
    · intro hnil
      rw [PeerStatus.urls, hnil] at hurl
      contradiction
    · intro act hact hresult
      rw [← hacts] at hact
      obtain ⟨d, hd, rfl⟩ := List.mem_map.1 hact
      have hseed' : url ∈ d.before.seeds := by rwa [hdeeds.seeds.2 d hd, hdeeds₀.seeds.1]
      exact (hdeeds.occurs d hd).exists_reply hseed' (hdeed d hd) hresult
  · intro deeds' hdeeds' _ d hd
    have hoccurs := hdeeds'.occurs d hd
    rw [← hdeeds'.seeds.2 d hd]
    refine ⟨fun url hseed hurl => ?_, fun reported hreported url hseed hurl => ?_⟩
    · exact ⟨Deed.mem_urls_refreshed hseed hurl, hoccurs.mem_urls_after hseed hurl⟩
    · exact hoccurs.mem_reported hreported hseed (hurl.elim hoccurs.urls_perm.mem_iff.2 id)

/-- A seed whose peer does not report it, and a look for a port in vain. -/
theorem seed_known_after_port_lookup : ∃ log t₀ acts t,
    (connect ["http://[::1]:80"] (.ofSeconds 1) (.start none none) none 0).Runs log (.ok t₀) ∧
    Course t₀ acts t ∧ acts.map Act.operation = [.resolvePort "in"] ∧
    ∃ url, PeerAddress.canonical "http://[::1]:80" = .ok url ∧ url ∈ t.status.urls := by
  obtain ⟨log, t₀, acts, t, hconnect, hcourse, hoperations⟩ := exists_course
  obtain ⟨seeds, -, -, hseeds, -, -, hknown, -⟩ := seeds_are_never_lost hconnect hcourse
  obtain ⟨url, hcanonical, hseed⟩ :=
    (mem_of_readSeeds hseeds).2 "http://[::1]:80" (List.mem_singleton_self _)
  exact ⟨log, t₀, acts, t, hconnect, hcourse, hoperations, url, hcanonical,
    (hknown rfl (by simp)).1 url hseed⟩

end Tracker

end FlowPeers
