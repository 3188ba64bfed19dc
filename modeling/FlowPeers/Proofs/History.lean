import FlowPeers.Proofs.Standing

/-!
# What a status says of the past

Along a course that began with the seeds alone, the record of an address tells what has happened. It
is marked as failed if and only if an errand has failed on the peer since the address last entered
the status, and its number of flow files is the last one that was reported
(`Tracker.Chronicle.isAccountOf`).
-/

namespace FlowPeers

open Dialogue

namespace Deed

variable {d : Deed} {url : String}

/-- Whether an errand has failed on the peer of an address. -/
def Fails (d : Deed) (url : String) : Prop :=
  ∃ v ∈ d.tried, v.url = url ∧ v.hasFailed

/-- Whether an address enters the status. -/
def Enters (d : Deed) (url : String) : Prop :=
  url ∉ d.before.status.urls ∧ url ∈ d.after.status.urls

/-- The number of flow files that the adopted list gives for an address. -/
def count? (d : Deed) (url : String) : Option UInt64 :=
  d.reported?.bind fun reported => (reported.find? (·.url == url)).map (·.flowFiles)

/-! ## What one deed does to a record -/

theorem Occurs.exists_readPeers? (h : d.Occurs) {reported : List Peer}
    (hreported : d.reported? = some reported) : ∃ body, PeerList.readPeers? body = some reported := by
  rw [reported?, Visit.outcome] at hreported
  cases hlast : d.asked.getLast? with
  | none => simp [hlast, Except.toOption] at hreported
  | some v =>
    have hv : v ∈ d.asked := List.mem_of_getLast? hlast
    rw [hlast] at hreported
    cases hresult : v.result with
    | error failure => simp [hresult, Except.toOption] at hreported
    | ok value =>
      simp only [hresult, Except.toOption, Option.some.injEq] at hreported
      subst hreported
      rcases h.asked with hnil | hasked
      · rw [hnil] at hv
        contradiction
      · exact Tracker.readPeers?_of_isOf (hasked.isOf v hv) hresult

/-- The list that is adopted has each address once. -/
theorem Occurs.nodup_reported (h : d.Occurs) {reported : List Peer}
    (hreported : d.reported? = some reported) : (reported.map (·.url)).Nodup := by
  obtain ⟨body, hbody⟩ := h.exists_readPeers? hreported
  exact (PeerList.isOrdered_readPeers? hbody).nodup_urls

theorem Occurs.fails_iff (h : d.Occurs) :
    d.Fails url ↔ url ∈ d.refreshed.status.urls.take (Visit.failures d.tried) := by
  have hurls : (d.tried.filter Visit.hasFailed).map (·.url) =
      d.refreshed.status.urls.take (Visit.failures d.tried) := by
    rcases h.tried with hnil | ⟨errand, -, htried⟩
    · rw [hnil]
      rfl
    · exact htried.urls_failed_eq_take
  rw [← hurls, List.mem_map]
  constructor
  · rintro ⟨v, hv, hurl, hfailed⟩
    exact ⟨v, List.mem_filter.2 ⟨hv, hfailed⟩, hurl⟩
  · rintro ⟨v, hv, hurl⟩
    obtain ⟨hv, hfailed⟩ := List.mem_filter.1 hv
    exact ⟨v, hv, hurl, hfailed⟩

/-- Asking the peers keeps the health of a record and counts what is reported, or it makes a healthy
record of an address that is reported and was not known. -/
theorem Occurs.record_refreshed (h : d.Occurs) (hbefore : d.before.status.HasNoRepeats) {peer : Peer}
    (hpeer : peer ∈ d.refreshed.status.peers) :
    (∃ old ∈ d.before.status.peers, old.url = peer.url ∧ peer.failed = old.failed ∧
      peer.flowFiles = (d.count? peer.url).getD old.flowFiles) ∨
    (peer.url ∉ d.before.status.urls ∧ peer.failed = false ∧
      d.count? peer.url = some peer.flowFiles) := by
  rw [refreshed_status] at hpeer
  rw [count?]
  cases hreported : d.reported? with
  | none =>
    rw [hreported] at hpeer
    exact .inl ⟨peer, hpeer, rfl, rfl, rfl⟩
  | some reported =>
    rw [hreported] at hpeer
    have hget := (Tracker.hasNoRepeats_adopt d.before reported d.now).get?_eq_some_iff.2
      ⟨hpeer, rfl⟩
    rw [Tracker.get?_adopt] at hget
    cases hknown : d.before.status.get? peer.url with
    | some old =>
      obtain ⟨hold, hurl⟩ := hbefore.get?_eq_some_iff.1 hknown
      simp only [hknown, Tracker.renew?, hurl] at hget
      refine .inl ⟨old, hold, hurl, ?_⟩
      cases hfind : reported.find? (·.url == peer.url) with
      | some fresh =>
        simp only [hfind, Option.some.injEq] at hget
        have hfailed : peer.failed = old.failed := by rw [← hget, Peer.setFlowFiles]
        have hcount : peer.flowFiles = fresh.flowFiles := by rw [← hget, Peer.setFlowFiles]
        exact ⟨hfailed, by simp [hfind, hcount]⟩
      | none =>
        simp only [hfind] at hget
        split at hget
        · cases hget
          simp [hfind]
        · contradiction
    | none =>
      simp only [hknown] at hget
      refine .inr ⟨?_, ?_, by simp [hget]⟩
      · intro hmem
        obtain ⟨old, hold, hurl⟩ := List.mem_map.1 hmem
        rw [hbefore.get?_eq_some_iff.2 ⟨hold, hurl⟩] at hknown
        contradiction
      · obtain ⟨body, hbody⟩ := h.exists_readPeers? hreported
        exact PeerList.healthy_readPeers? hbody peer (List.mem_of_find?_eq_some hget)

/-- Trying an errand changes the health of the records on which it has failed. -/
theorem Occurs.record_tried (h : d.Occurs) (hrefreshed : d.refreshed.status.HasNoRepeats)
    {peer : Peer} (hpeer : peer ∈ d.after.status.peers) :
    ∃ old ∈ d.refreshed.status.peers, old.url = peer.url ∧ old.flowFiles = peer.flowFiles ∧
      (peer.failed = true ↔ old.failed = true ∨ d.Fails peer.url) := by
  have hmark : peer ∈ markFirst (Visit.failures d.tried) d.refreshed.status.peers := by
    rw [h.after_eq, Tracker.afterTrying] at hpeer
    split at hpeer
    · next hzero =>
      rw [hzero]
      exact hpeer
    · exact (isRankingOf_rank _).perm.mem_iff.1 hpeer
  obtain ⟨old, hold, rfl⟩ := exists_of_mem_markFirst hrefreshed hmark
  refine ⟨old, hold, ?_⟩
  rw [h.fails_iff, PeerStatus.urls]
  split
  · next hmem => exact ⟨rfl, rfl, by simp [Peer.markFailed, hmem]⟩
  · next hmem => exact ⟨rfl, rfl, by simp [hmem]⟩

end Deed

/-! ## What a history says of a record -/

/-- Whether an errand has failed on the peer of an address since the address last entered the
status. -/
def FailedSinceEntry (deeds : List Deed) (url : String) : Prop :=
  ∃ past d later, deeds = past ++ d :: later ∧ d.Fails url ∧ ∀ e ∈ later, ¬ e.Enters url

/-- The last number of flow files that was reported for an address. -/
def lastCount? (deeds : List Deed) (url : String) : Option UInt64 :=
  deeds.reverse.findSome? (·.count? url)

theorem not_failedSinceEntry_nil (url : String) : ¬ FailedSinceEntry [] url := by
  rintro ⟨past, d, later, h, -⟩
  simp at h

/-- A deed may fail on an address after the address has entered in it, but not before. -/
theorem failedSinceEntry_concat_iff {deeds : List Deed} {d : Deed} {url : String} :
    FailedSinceEntry (deeds ++ [d]) url ↔
      d.Fails url ∨ (FailedSinceEntry deeds url ∧ ¬ d.Enters url) := by
  constructor
  · rintro ⟨past, e, later, heq, hfails, hlater⟩
    rcases List.eq_nil_or_concat later with rfl | ⟨later, f, rfl⟩
    · obtain ⟨-, hlast⟩ := List.append_inj' heq rfl
      obtain rfl : d = e := by simpa using hlast
      exact .inl hfails
    · rw [List.concat_eq_append] at heq hlater
      rw [← List.cons_append, ← List.append_assoc] at heq
      obtain ⟨rfl, hlast⟩ := List.append_inj' heq rfl
      obtain rfl : d = f := by simpa using hlast
      refine .inr ⟨⟨past, e, later, rfl, hfails, ?_⟩, hlater d (by simp)⟩
      exact fun g hg => hlater g (List.mem_append_left _ hg)
  · rintro (hfails | ⟨⟨past, e, later, rfl, hfails, hlater⟩, henters⟩)
    · exact ⟨deeds, d, [], rfl, hfails, by simp⟩
    · refine ⟨past, e, later ++ [d], by simp, hfails, ?_⟩
      intro g hg
      rcases List.mem_append.1 hg with hg | hg
      · exact hlater g hg
      · rw [List.mem_singleton.1 hg]
        exact henters

theorem lastCount?_concat (deeds : List Deed) (d : Deed) (url : String) :
    lastCount? (deeds ++ [d]) url = (d.count? url).or (lastCount? deeds url) := by
  rw [lastCount?, List.reverse_concat, List.findSome?_cons, lastCount?]
  cases d.count? url <;> rfl

/-- Whether a record says of its peer what the history does. -/
structure Peer.IsAccountOf (peer : Peer) (seeds : List String) (deeds : List Deed) : Prop where
  failed : peer.failed = true ↔ FailedSinceEntry deeds peer.url
  flowFiles : peer.flowFiles = (lastCount? deeds peer.url).getD 0
  /-- Only a seed may be known without ever being reported. -/
  isSeed : lastCount? deeds peer.url = none → peer.url ∈ seeds

theorem Deed.Occurs.isAccountOf {d : Deed} {deeds : List Deed} {seeds : List String} (h : d.Occurs)
    (hform : d.before.status.HasNoRepeats)
    (hbefore : ∀ peer ∈ d.before.status.peers, peer.IsAccountOf seeds deeds) :
    ∀ peer ∈ d.after.status.peers, peer.IsAccountOf seeds (deeds ++ [d]) := by
  intro peer hpeer
  have hrefreshed : d.refreshed.status.HasNoRepeats :=
    h.urls_perm.nodup_iff.1 (h.hasNoRepeats (.inr hform))
  obtain ⟨middle, hmiddle, hurl, hcount, hfailed⟩ := h.record_tried hrefreshed hpeer
  have hafter : peer.url ∈ d.after.status.urls := List.mem_map.2 ⟨peer, hpeer, rfl⟩
  rcases h.record_refreshed hform hmiddle with
    ⟨old, hold, hurl', hhealth, hnumber⟩ | ⟨hnew, hhealth, hnumber⟩
  · -- the address was known, so it does not enter and its record goes on
    have htold := hbefore old hold
    rw [hurl] at hurl'
    have henters : ¬ d.Enters peer.url := by
      rintro ⟨hunknown, -⟩
      exact hunknown (List.mem_map.2 ⟨old, hold, hurl'⟩)
    refine ⟨?_, ?_, ?_⟩
    · rw [hfailed, hhealth, htold.failed, failedSinceEntry_concat_iff, hurl']
      exact ⟨fun h => h.symm.imp_right fun h => ⟨h, henters⟩,
        fun h => h.symm.imp_left fun h => h.1⟩
    · rw [lastCount?_concat, ← hcount, hnumber, hurl, htold.flowFiles, hurl']
      cases d.count? peer.url <;> rfl
    · intro hnone
      rw [lastCount?_concat, Option.or_eq_none_iff] at hnone
      rw [← hurl']
      exact htold.isSeed (by rw [hurl']; exact hnone.2)
  · -- the address enters with what is reported, so nothing before counts
    rw [hurl] at hnew hnumber
    have henters : d.Enters peer.url := ⟨hnew, hafter⟩
    refine ⟨?_, ?_, ?_⟩
    · rw [hfailed, hhealth, failedSinceEntry_concat_iff]
      simp [henters]
    · rw [lastCount?_concat, hnumber]
      exact hcount.symm
    · intro hnone
      rw [lastCount?_concat, hnumber] at hnone
      contradiction

namespace Tracker

variable {seeds : List String} {interval : Duration} {logins : Logins} {deeds : List Deed}
  {t : Tracker}

theorem isAccountOf_ofSeeds :
    ∀ peer ∈ (ofSeeds seeds interval logins).status.peers, peer.IsAccountOf seeds [] := by
  intro peer hpeer
  have hget := (PeerStatus.hasNoRepeats_ofPeers _ _).get?_eq_some_iff.2 ⟨hpeer, rfl⟩
  rw [PeerStatus.get?_ofPeers] at hget
  obtain ⟨url, hurl, rfl⟩ := List.mem_map.1 (List.mem_of_find?_eq_some hget)
  refine ⟨?_, rfl, fun _ => hurl⟩
  simp [not_failedSinceEntry_nil]

/-- Along a course that begins with the seeds every record says what the history does. -/
theorem Chronicle.isAccountOf (h : Chronicle (ofSeeds seeds interval logins) deeds t) :
    ∀ peer ∈ t.status.peers, peer.IsAccountOf seeds deeds := by
  induction h with
  | rest => exact isAccountOf_ofSeeds
  | step chronicle occurs ih =>
    exact occurs.isAccountOf (chronicle.hasNoRepeats (.inr (PeerStatus.hasNoRepeats_ofPeers ..))) ih

/-- A course can be put behind another one. -/
theorem Course.append {t t' t'' : Tracker} {acts acts' : List Act} (h : Course t acts t')
    (h' : Course t' acts' t'') : Course t (acts ++ acts') t'' := by
  induction h' with
  | rest => rwa [List.append_nil]
  | step course run ih =>
    rw [← List.append_assoc]
    exact .step ih run

/-- Connecting without anything saved is a refresh of what the seeds are. -/
theorem course_of_runs_connect {raw : List String} {now : UInt64} {log : List Exchanged}
    (h : (connect raw interval logins none now).Runs log (.ok t)) :
    ∃ seeds, readSeeds [] raw = .ok seeds ∧
      Course (ofSeeds seeds interval logins) [⟨.refresh, now, log, .ok .done⟩] t := by
  obtain ⟨seeds, hseeds, ⟨status, hsaved, -⟩ | ⟨-, d, hd, hbefore, rfl, hact, -⟩⟩ :=
    eq_or_exists_deed_of_runs_connect h
  · contradiction
  · refine ⟨seeds, hseeds, ?_⟩
    rw [← hbefore]
    exact .step .rest (runs_operate_iff.2 ⟨d, hd, rfl, rfl, hact⟩)

/-- **The status is what the history says.** Let a tracker be connected without anything saved, and
then do anything with it. The refresh with which it was connected and all that was done since is
told in deeds, and however it is told: no address has two records, nor two entries in a list that was
adopted; a record is marked as failed if and only if an errand has
failed on its peer since its address last entered the status, by being a seed or in the refresh that
has added it; and it counts what was last reported for its address, or nothing if that is a seed
that was never reported. -/
theorem status_is_what_history_says {raw : List String} {now : UInt64} {log : List Exchanged}
    {t₀ : Tracker} {acts : List Act}
    (hconnect : (connect raw interval logins none now).Runs log (.ok t₀))
    (hcourse : Course t₀ acts t) :
    ∃ seeds, readSeeds [] raw = .ok seeds ∧
      (∃ deeds, Chronicle (ofSeeds seeds interval logins) deeds t ∧
        deeds.map Deed.act = ⟨.refresh, now, log, .ok .done⟩ :: acts) ∧
      ∀ deeds, Chronicle (ofSeeds seeds interval logins) deeds t →
        deeds.map Deed.act = ⟨.refresh, now, log, .ok .done⟩ :: acts →
        t.status.HasNoRepeats ∧
        (∀ d ∈ deeds, ∀ reported, d.reported? = some reported →
          (reported.map (·.url)).Nodup) ∧
        ∀ peer ∈ t.status.peers,
          (peer.failed = true ↔ ∃ past d later, deeds = past ++ d :: later ∧
            d.Fails peer.url ∧ ∀ e ∈ later, ¬ e.Enters peer.url) ∧
          ((∃ past d later, deeds = past ++ d :: later ∧
              d.count? peer.url = some peer.flowFiles ∧ ∀ e ∈ later, e.count? peer.url = none) ∨
            ((∀ d ∈ deeds, d.count? peer.url = none) ∧ peer.flowFiles = 0 ∧
              peer.url ∈ seeds)) := by
  obtain ⟨seeds, hseeds, hfirst⟩ := course_of_runs_connect hconnect
  refine ⟨seeds, hseeds, exists_chronicle (hfirst.append hcourse), ?_⟩
  intro deeds hdeeds _
  refine ⟨hdeeds.hasNoRepeats (.inr (PeerStatus.hasNoRepeats_ofPeers ..)),
    fun d hd _ => (hdeeds.occurs d hd).nodup_reported, ?_⟩
  intro peer hpeer
  have htold := hdeeds.isAccountOf peer hpeer
  refine ⟨htold.failed, ?_⟩
  cases hlast : lastCount? deeds peer.url with
  | none =>
    refine .inr ⟨?_, ?_, htold.isSeed hlast⟩
    · intro d hd
      exact List.findSome?_eq_none_iff.1 hlast d (List.mem_reverse.2 hd)
    · rw [htold.flowFiles, hlast, Option.getD_none]
  | some count =>
    obtain ⟨later, d, past, heq, hcount, hlater⟩ := List.findSome?_eq_some_iff.1 hlast
    refine .inl ⟨past.reverse, d, later.reverse, ?_, ?_, ?_⟩
    · rw [← List.reverse_reverse deeds, heq]
      simp
    · rw [hcount, htold.flowFiles, hlast, Option.getD_some]
    · intro e he
      exact hlater e (List.mem_reverse.1 he)

/-- A tracker is connected where a peer serves a list, and a port is looked up in vain. Who is marked
as failed has failed since. -/
theorem status_tells_history_after_port_lookup : ∃ log t₀ acts t,
    (connect ["http://[::1]:80"] (.ofSeconds 1) (.start none none) none 0).Runs log (.ok t₀) ∧
    Course t₀ acts t ∧ acts.map Act.operation = [.resolvePort "in"] ∧
    ∃ seeds deeds, Chronicle (ofSeeds seeds (.ofSeconds 1) (.start none none)) deeds t ∧
      deeds.map Deed.act = ⟨.refresh, 0, log, .ok .done⟩ :: acts ∧
      ∀ peer ∈ t.status.peers, peer.failed = true ↔ FailedSinceEntry deeds peer.url := by
  obtain ⟨log, t₀, acts, t, hconnect, hcourse, hoperations⟩ := exists_course
  obtain ⟨seeds, -, ⟨deeds, hdeeds, hacts⟩, htold⟩ := status_is_what_history_says hconnect hcourse
  exact ⟨log, t₀, acts, t, hconnect, hcourse, hoperations, seeds, deeds, hdeeds, hacts,
    fun peer hpeer => ((htold deeds hdeeds hacts).2.2 peer hpeer).1⟩

end Tracker

end FlowPeers
