import FlowPeers.Proofs.Freshness
import FlowPeers.Proofs.MergeOrder
import FlowPeers.Proofs.Persistence

/-!
# Refreshing again with the same list

A list that is adopted once more changes nothing but the time of the last update
(`Tracker.Reflects`). It does so whatever was known before it was adopted the first time: the status
that comes of that knows each reported address once, from a record with the reported number of flow
files, and the other records are those of seeds, so all of them remain as they are
(`Tracker.renew?_of_mem_merged`); nobody is new (`Tracker.newcomers_merged`); and what stands ranked
stays as it stands (`PeerStatus.IsRanked.rank_eq`).

Along a course in which the cluster always reports the same list it follows that only the time of the
last update changes after the first refresh.
-/

namespace FlowPeers

open Dialogue

namespace Tracker

open PeerStatus

/-! ## Merging again -/

section Merged

variable {current reported : List Peer} {seeds : List String}

theorem renew?_renewed {peer renewed : Peer} (h : renew? reported seeds peer = some renewed) :
    renew? reported seeds renewed = some renewed := by
  have hurl := url_of_renew? h
  rw [renew?] at h
  rw [renew?, hurl]
  cases hfresh : reported.find? (·.url == peer.url) with
  | some fresh =>
    simp only [hfresh, Option.some.injEq] at h
    subst h
    rfl
  | none =>
    simp only [hfresh] at h
    split at h
    · next hseed =>
      cases h
      exact if_pos hseed
    · contradiction

/-- A peer that has come of a merge remains as it is in the next one. -/
theorem renew?_of_mem_merged {now : UInt64} {peer : Peer}
    (h : peer ∈ (ofPeers (merge current reported seeds) now).peers) :
    renew? reported seeds peer = some peer := by
  have hget := (hasNoRepeats_ofPeers (merge current reported seeds) now).get?_eq_some_iff.2 ⟨h, rfl⟩
  rw [get?_ofPeers, find?_merge] at hget
  split at hget
  · exact renew?_renewed hget
  · -- it was new, so its number of flow files is the reported one
    rw [renew?, hget]
    rfl

/-- After a merge everybody who is reported is known. -/
theorem newcomers_merged (current reported : List Peer) (seeds : List String) (now : UInt64) :
    newcomers (ofPeers (merge current reported seeds) now).peers reported = [] := by
  rw [List.eq_nil_iff_forall_not_mem]
  intro peer hpeer
  obtain ⟨hreported, hnew⟩ := mem_newcomers_iff.1 hpeer
  exact hnew (mem_urls_merge_iff.2 (.inl (List.mem_map_of_mem hreported)))

theorem firsts_merge_merged (hordered : PeerList.IsOrdered reported) (now : UInt64) :
    let status := ofPeers (merge current reported seeds) now
    firsts (merge status.peers reported seeds) = status.peers := by
  intro status
  have hrepeats : status.HasNoRepeats := hasNoRepeats_ofPeers ..
  have hremain : status.peers.filterMap (renew? reported seeds) = status.peers := by
    rw [List.filterMap_congr fun peer hpeer => renew?_of_mem_merged hpeer, List.filterMap_some]
  calc firsts (merge status.peers reported seeds)
      = (firsts status.peers).filterMap (renew? reported seeds) ++
          newcomers status.peers reported := firsts_merge hordered seeds
    _ = status.peers := by
      rw [hrepeats.firsts_eq, hremain, newcomers_merged, List.append_nil]

end Merged

/-! ## Adopting again -/

/-- Whether a tracker that adopts a list changes its status in nothing but the time. -/
def Reflects (t : Tracker) (reported : List Peer) : Prop :=
  ∀ now, (t.adopt reported now).status = { t.status with lastUpdate := now }

/-- A list that was adopted is reflected, whatever was known before. -/
theorem reflects_adopt {reported : List Peer} (hordered : PeerList.IsOrdered reported) (t : Tracker)
    (now : UInt64) : (t.adopt reported now).Reflects reported := by
  intro now'
  have hranked : (t.adopt reported now).status.IsRanked := isRanked_adopt ..
  have hfirsts : firsts (merge (t.adopt reported now).status.peers reported t.seeds) =
      (t.adopt reported now).status.peers := firsts_merge_merged hordered now
  calc ((t.adopt reported now).adopt reported now').status
      = ⟨rank (firsts (merge (t.adopt reported now).status.peers reported t.seeds)), now'⟩ := rfl
    _ = { (t.adopt reported now).status with lastUpdate := now' } := by
      rw [hfirsts, hranked.rank_eq]

/-- The list is reflected by every tracker that knows the same peers and seeds. -/
theorem Reflects.of_eq {t t' : Tracker} {reported : List Peer} (h : t.Reflects reported)
    (hpeers : t'.status.peers = t.status.peers) (hseeds : t'.seeds = t.seeds) :
    t'.Reflects reported := by
  intro now
  calc (t'.adopt reported now).status
      = (t.adopt reported now).status := by rw [adopt, adopt, hpeers, hseeds]
    _ = ⟨t.status.peers, now⟩ := h now
    _ = { t'.status with lastUpdate := now } := by rw [← hpeers]

/-- Whether two trackers differ in nothing but the time of the last update, which is saved, and the
logins. -/
structure DiffersInTime (t t' : Tracker) : Prop where
  peers : t'.status.peers = t.status.peers
  saved : t'.saved = some t'.status
  seeds : t'.seeds = t.seeds
  interval : t'.interval = t.interval

end Tracker

/-! ## Courses in which the cluster reports the same list -/

namespace Deed

variable {d : Deed} {reported : List Peer}

/-- Whether no other list is adopted in a deed, and no errand fails on a peer. A refresh that fails on
all peers is among these deeds. -/
structure IsSteady (reported : List Peer) (d : Deed) : Prop where
  eq_of_reported : ∀ list, d.reported? = some list → list = reported
  tried : ∀ v ∈ d.tried, v.hasFailed = false

/-- A refresh is steady if it adopts no other list. -/
theorem Occurs.isSteady_of_refresh (h : d.Occurs) (hoperation : d.operation = .refresh)
    (hreported : ∀ list, d.reported? = some list → list = reported) : d.IsSteady reported where
  eq_of_reported := hreported
  tried := by
    rcases h.tried with hnil | ⟨errand, herrand, -⟩
    · simp [hnil]
    · rw [hoperation] at herrand
      cases errand <;> contradiction

theorem Occurs.status_eq_refreshed (h : d.Occurs) (hsteady : d.IsSteady reported) :
    d.after.status = d.refreshed.status := by
  rw [h.after_eq, Tracker.status_afterTrying_of_forall hsteady.tried]

/-- A steady deed after which the list is adopted saves the status. -/
theorem Occurs.saved_of_reported (h : d.Occurs) (hsteady : d.IsSteady reported)
    (hreported : d.reported?.isSome) : d.after.saved = some d.after.status := by
  rw [h.saved_of_refreshes (h.refreshes_iff.2 hreported), h.status_eq_refreshed hsteady]

/-- A steady deed changes nothing but the time where the list is reflected. -/
theorem Occurs.differsInTime (h : d.Occurs) (hsteady : d.IsSteady reported)
    (hreflects : d.before.Reflects reported) (hsaved : d.before.saved = some d.before.status) :
    d.before.DiffersInTime d.after where
  peers := by
    rw [h.status_eq_refreshed hsteady, refreshed_status]
    split
    · next list hlist =>
      rw [hsteady.eq_of_reported list hlist, hreflects]
    · rfl
  saved := by
    cases hlist : d.reported? with
    | some list => exact h.saved_of_reported hsteady (by rw [hlist]; rfl)
    | none =>
      have hnone : ¬ d.Refreshes := by
        rw [h.refreshes_iff, hlist]
        simp
      rw [h.saved_of_not_refreshes hnone, hsaved, h.status_eq_refreshed hsteady, refreshed_status,
        hlist]
  seeds := h.seeds
  interval := h.interval

end Deed

namespace Tracker

theorem DiffersInTime.trans {t t₁ t₂ : Tracker} (h₁ : t.DiffersInTime t₁)
    (h₂ : t₁.DiffersInTime t₂) : t.DiffersInTime t₂ where
  peers := h₂.peers.trans h₁.peers
  saved := h₂.saved
  seeds := h₂.seeds.trans h₁.seeds
  interval := h₂.interval.trans h₁.interval

/-- Along a course of steady deeds from where the list is reflected nothing but the time changes. -/
theorem Chronicle.differsInTime {start t : Tracker} {deeds : List Deed} {reported : List Peer}
    (h : Chronicle start deeds t) (hsteady : ∀ d ∈ deeds, d.IsSteady reported)
    (hreflects : start.Reflects reported) (hsaved : start.saved = some start.status) :
    start.DiffersInTime t ∧ ∀ d ∈ deeds, start.DiffersInTime d.after := by
  induction h with
  | rest => exact ⟨⟨rfl, hsaved, rfl, rfl⟩, by simp⟩
  | @step deeds d chronicle occurs ih =>
    rw [List.forall_mem_append, List.forall_mem_singleton] at hsteady
    obtain ⟨hbefore, hall⟩ := ih hsteady.1
    have hstep : d.before.DiffersInTime d.after :=
      occurs.differsInTime hsteady.2 (hreflects.of_eq hbefore.peers hbefore.seeds) hbefore.saved
    have hafter := hbefore.trans hstep
    rw [List.forall_mem_append, List.forall_mem_singleton]
    exact ⟨hafter, hall, hafter⟩

/-- **Refreshing is idempotent.** Whatever a tracker knows, its peers in any order and with repeated
addresses, and whatever its seeds are: after it has adopted a list, adopting the list again changes
nothing but the time of the last update, which is saved. So after a deed in which the list was adopted
and during which no errand has failed on a peer, only this time changes, and the tokens that are
kept, as long as the cluster reports no other list and no errand fails on a peer; a refresh that is
answered by nobody does not change the time either. All that operations do are such deeds or have
another list adopted or fail on a peer. -/
theorem refreshing_is_idempotent {reported : List Peer}
    (hordered : PeerList.IsOrdered reported) :
    (∀ (t : Tracker) (now now' : UInt64),
      let once := t.adopt reported now
      once.adopt reported now' =
        { once with
          status := { once.status with lastUpdate := now' }
          saved := some { once.status with lastUpdate := now' } }) ∧
    ∀ {start t : Tracker} {acts : List Act}, Course start acts t →
      (∃ deeds, Chronicle start deeds t ∧ deeds.map Deed.act = acts) ∧
      ∀ first later, Chronicle start (first :: later) t → (first :: later).map Deed.act = acts →
        first.reported? = some reported →
        (∀ d ∈ first :: later, (d.operation = .refresh ∨ ∀ v ∈ d.tried, v.hasFailed = false) ∧
          ∀ list, d.reported? = some list → list = reported) →
        first.after.DiffersInTime t ∧
        ∀ d ∈ later, first.after.DiffersInTime d.after ∧
          d.after.status.lastUpdate =
            if d.reported?.isSome then d.now else d.before.status.lastUpdate := by
  refine ⟨fun t now now' => ?_, fun {start t acts} hcourse => ⟨exists_chronicle hcourse, ?_⟩⟩
  · intro once
    have hreflects := reflects_adopt hordered t now now'
    calc once.adopt reported now'
        = { once with
            status := (once.adopt reported now').status
            saved := some (once.adopt reported now').status } := rfl
      _ = _ := by rw [hreflects]
  · intro first later hchronicle _ hreported hcalm
    obtain ⟨hfirst, rfl, hlater⟩ := hchronicle.of_cons
    have hsteady : ∀ d ∈ first :: later, d.IsSteady reported := by
      intro d hd
      obtain ⟨hrefresh | htried, hlist⟩ := hcalm d hd
      · exact (hchronicle.occurs d hd).isSteady_of_refresh hrefresh hlist
      · exact ⟨hlist, htried⟩
    rw [List.forall_mem_cons] at hsteady
    have hstatus : first.after.status = (first.before.adopt reported first.now).status := by
      rw [hfirst.status_eq_refreshed hsteady.1, first.refreshed_status, hreported]
    have hreflects : first.after.Reflects reported :=
      (reflects_adopt hordered first.before first.now).of_eq (congrArg PeerStatus.peers hstatus)
        hfirst.seeds
    have hsaved := hfirst.saved_of_reported hsteady.1 (by rw [hreported]; rfl)
    obtain ⟨hend, hall⟩ := hlater.differsInTime hsteady.2 hreflects hsaved
    exact ⟨hend, fun d hd => ⟨hall d hd, (hlater.occurs d hd).lastUpdate⟩⟩

/-- A peer that is known from two records serves a list, and a second later it serves it again. -/
theorem list_served_twice_changes_only_the_time : ∃ start first second t,
    Chronicle start [first, second] t ∧ ¬ start.status.HasNoRepeats ∧
    [first, second].map (fun d => (d.operation, d.now)) = [(.refresh, 1000), (.refresh, 2000)] ∧
    first.after.status = ⟨[⟨"http://a:80/nifi-api", 3, false⟩, ⟨"http://b:80/nifi-api", 7, false⟩],
      1000⟩ ∧
    first.after.DiffersInTime t ∧ t.status.lastUpdate = 2000 := by
  let a : String := "http://a:80/nifi-api"
  let served : List Char := PeerList.print [("b", 80, 7), ("a", 80, 3)]
  let reported : List Peer := [⟨a, 3, false⟩, ⟨"http://b:80/nifi-api", 7, false⟩]
  let logins : Logins := .start none none
  let start : Tracker := { ofSeeds [] (.ofSeconds 1) logins with
    status := ⟨[⟨a, 9, false⟩, ⟨a, 1, true⟩], 7⟩ }
  have hread : PeerList.readPeers? (Text.encode served) = some reported := by decide +kernel
  have hrepeats : ¬ start.status.HasNoRepeats := by
    rw [PeerStatus.HasNoRepeats]
    decide +kernel
  -- both refreshes ask the same peer, which gives the same answer
  obtain ⟨request, hserves⟩ := Visit.exists_serves (rfl : logins.credentials = none)
    (by decide +kernel : (Request.toUrl "GET" (a ++ peersPath) (logins.headers a)
      .empty).toOption.isSome) hread
  let v : Visit (List Peer) :=
    ⟨a, logins, [⟨request, .ok ⟨.ok, [], .ofText served⟩⟩], logins, .ok reported⟩
  let first : Deed := ⟨start, .refresh, 1000, [v], [], start.afterAsking 1000 [v], .ok .done⟩
  let second : Deed :=
    ⟨first.after, .refresh, 2000, [v], [], first.after.afterAsking 2000 [v], .ok .done⟩
  have hafter : first.after.status = ⟨reported, 1000⟩ := by
    have hadopt : (start.adopt reported 1000).status = ⟨reported, 1000⟩ := by decide +kernel
    exact hadopt
  have hfirst : first.Occurs := .refresh (.success hserves.runs rfl rfl rfl)
  have hsecond : second.Occurs := .refresh (.success hserves.runs rfl rfl rfl)
  have hchronicle : Chronicle start [first, second] second.after := .step (.step .rest hfirst) hsecond
  obtain ⟨-, hcourse⟩ := refreshing_is_idempotent (PeerList.isOrdered_readPeers? hread)
  obtain ⟨-, hdeeds⟩ := hcourse hchronicle.course
  obtain ⟨hdiffers, hall⟩ := hdeeds first [second] hchronicle rfl rfl (by
    simp only [List.forall_mem_cons]
    exact ⟨⟨.inl rfl, fun list hlist => (Option.some.inj hlist).symm⟩,
      ⟨.inl rfl, fun list hlist => (Option.some.inj hlist).symm⟩, by simp⟩)
  exact ⟨start, first, second, second.after, hchronicle, hrepeats, rfl, hafter, hdiffers,
    (hall second (by simp)).2⟩

end Tracker

end FlowPeers
