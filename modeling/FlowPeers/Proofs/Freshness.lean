import FlowPeers.Proofs.Atomicity
import FlowPeers.Proofs.Calls
import FlowPeers.Proofs.Staleness
import FlowPeers.Proofs.Tenures

/-!
# When a list of peers is refreshed

A list of peers is overdue when more than the interval has passed since the last refresh
(`PeerStatus.IsOverdue`). An errand that finds it so refreshes it, once, and ends there if that
fails; an errand that does not find it so goes its way at once. `Errand.Goes` says this of single
errands. Along a course it follows that the refreshes that errands make keep their distance as long
as the wall clock does not go backwards: the time of the last update never decreases then
(`Tracker.Chronicle.now_le_lastUpdate`).
-/

namespace FlowPeers

open Dialogue

namespace Tracker

/-! ## What a refresh does -/

variable {now : UInt64} {t t' : Tracker} {visits : List (Visit (List Peer))}

theorem IsRefresh.eq_of_error {failure : Failure} (h : IsRefresh now t visits t' (.error failure)) :
    t'.status = t.status ∧ t'.saved = t.saved := by
  rcases h.ending with ⟨_, _, _, _, hok, _⟩ | ⟨-, -, hstatus, hsaved, -⟩
  · contradiction
  · exact ⟨hstatus, hsaved⟩

theorem IsRefresh.lastUpdate_of_ok (h : IsRefresh now t visits t' (.ok ())) :
    t'.status.lastUpdate = now := by
  rcases h.ending with ⟨_, _, _, _, _, hstatus, _⟩ | ⟨-, -, -, -, ⟨-, hfail⟩ | ⟨_, _, -, -, hfail⟩⟩
  · rw [hstatus]
    rfl
  · contradiction
  · contradiction

/-- In a refresh peers are asked for tokens and for their lists, and for nothing else. -/
theorem IsRefresh.request_cases {result : Except Failure Unit}
    (h : IsRefresh now t visits t' result) {x : Exchanged} (hx : x ∈ Visit.transcript visits) :
    ∃ v ∈ visits, (∃ credentials, Logins.tokenRequest credentials v.url = .ok x.request) ∨
      Operation.refresh.IsRequest v.url (v.after.authorization? v.url) x.request := by
  obtain ⟨v, hv, hx⟩ := List.mem_flatMap.1 hx
  obtain ⟨entry, work, hlog, hentry, hwork⟩ := h.orderly v hv
  refine ⟨v, hv, ?_⟩
  rw [hlog] at hx
  rcases List.mem_append.1 hx with hx | hx
  · obtain ⟨credentials, -, -, hrequest⟩ := hentry.of_mem hx
    exact .inl ⟨credentials, hrequest⟩
  · exact .inr (hwork.of_mem hx).2

end Tracker

/-! ## Single errands -/

/-- How an errand goes that begins at a time: what is exchanged, what becomes of the tracker and what
the result is. -/
inductive Errand.Goes (errand : Errand) (now : UInt64) (t : Tracker) :
    List Exchanged → Tracker → Except Failure Answer → Prop
  /-- The list is in time, and the peers in it are the candidates. -/
  | inTime {t' : Tracker} {count : Nat} {tried : List (Visit Answer)}
      {result : Except Failure Answer} (intime : ¬ t.status.IsOverdue now t.interval)
      (failover : errand.IsFailover t count tried t' result) :
      Goes errand now t (Visit.transcript tried) t' result
  /-- The list is overdue and cannot be refreshed: that is all that is tried, and nothing changes
  but the tokens that are kept. -/
  | expired {t' : Tracker} {asked : List (Visit (List Peer))} {failure : Failure}
      (overdue : t.status.IsOverdue now t.interval)
      (refresh : Tracker.IsRefresh now t asked t' (.error failure))
      (status : t'.status = t.status) (saved : t'.saved = t.saved)
      (requests : ∀ x ∈ Visit.transcript asked, ∃ v ∈ asked,
        (∃ credentials, Logins.tokenRequest credentials v.url = .ok x.request) ∨
          Operation.refresh.IsRequest v.url (v.after.authorization? v.url) x.request) :
      Goes errand now t (Visit.transcript asked) t' (.error failure)
  /-- The list is overdue and is refreshed, and the peers in the new one are the candidates. -/
  | renewed {t₁ t' : Tracker} {asked : List (Visit (List Peer))} {count : Nat}
      {tried : List (Visit Answer)} {result : Except Failure Answer}
      (overdue : t.status.IsOverdue now t.interval)
      (refresh : Tracker.IsRefresh now t asked t₁ (.ok ()))
      (lastUpdate : t₁.status.lastUpdate = now)
      (failover : errand.IsFailover t₁ count tried t' result) :
      Goes errand now t (Visit.transcript asked ++ Visit.transcript tried) t' result

/-- An errand runs as is said, and in no other way. -/
theorem Errand.runs_operate_iff_goes (errand : Errand) {now : UInt64} {t t' : Tracker}
    {log : List Exchanged} {result : Except Failure Answer} :
    (t.operate errand.operation now).Runs log (t', result) ↔
      errand.Goes now t log t' result := by
  rw [errand.runs_operate_iff, ← Bool.not_eq_true, PeerStatus.isStale_iff]
  constructor
  · rintro (⟨hoverdue, ⟨asked, failure, rfl, rfl, hasked⟩ |
      ⟨asked, t₁, count, tried, rfl, hasked, htried⟩⟩ | ⟨hintime, count, tried, rfl, htried⟩)
    · obtain ⟨hstatus, hsaved⟩ := hasked.eq_of_error
      exact .expired hoverdue hasked hstatus hsaved fun x => hasked.request_cases
    · exact .renewed hoverdue hasked hasked.lastUpdate_of_ok htried
    · exact .inTime hintime htried
  · intro h
    cases h with
    | inTime hintime htried => exact .inr ⟨hintime, _, _, rfl, htried⟩
    | expired hoverdue hasked => exact .inl ⟨hoverdue, .inl ⟨_, _, rfl, rfl, hasked⟩⟩
    | renewed hoverdue hasked _ htried =>
      exact .inl ⟨hoverdue, .inr ⟨_, _, _, _, rfl, hasked, htried⟩⟩

/-! ## What one deed does to the time of the last update -/

namespace Deed

variable {d : Deed}

/-- Whether a deed is an errand that has found the list overdue and refreshed it. -/
def Renews (d : Deed) : Prop :=
  (∃ errand : Errand, d.operation = errand.operation) ∧ d.reported?.isSome

theorem Occurs.interval (h : d.Occurs) : d.after.interval = d.before.interval := by
  rw [h.after_eq, Tracker.afterTrying, refreshed, Tracker.afterAsking_interval]

theorem refreshed_lastUpdate (d : Deed) : d.refreshed.status.lastUpdate =
    if d.reported?.isSome then d.now else d.before.status.lastUpdate := by
  rw [refreshed_status]
  cases d.reported? <;> rfl

theorem Occurs.lastUpdate (h : d.Occurs) : d.after.status.lastUpdate =
    if d.reported?.isSome then d.now else d.before.status.lastUpdate := by
  rw [h.after_eq, ← refreshed_lastUpdate, Tracker.afterTrying]
  split <;> rfl

theorem Occurs.isOverdue (h : d.Occurs) (hrenews : d.Renews) :
    d.before.status.IsOverdue d.now d.before.interval := by
  obtain ⟨⟨errand, herrand⟩, hreported⟩ := hrenews
  cases h with
  | refresh hasked => cases errand <;> contradiction
  | fresh errand hfresh htried => simp [reported?, Except.toOption] at hreported
  | stale errand hstale hasked hlist htried => exact PeerStatus.isStale_iff.1 hstale
  | expired errand hstale hasked hfailure =>
    simp [reported?, hfailure, Except.toOption] at hreported

end Deed

/-! ## What a course does to it -/

namespace Tracker

variable {start t : Tracker} {deeds : List Deed}

theorem Chronicle.interval (h : Chronicle start deeds t) :
    t.interval = start.interval ∧ ∀ d ∈ deeds, d.before.interval = start.interval :=
  h.forall_before (P := fun t => t.interval = start.interval)
    (fun _ hd hbefore => hd.interval.trans hbefore) rfl

theorem Chronicle.course (h : Chronicle start deeds t) : Course start (deeds.map Deed.act) t := by
  induction h with
  | rest => exact .rest
  | step chronicle occurs ih =>
    rw [List.map_append]
    exact .step ih (runs_of_occurs occurs)

/-- While the wall clock does not go backwards, no list is adopted after which the last update is
older than it was. -/
theorem Chronicle.now_le_lastUpdate (h : Chronicle start deeds t)
    (hclock : (deeds.map Deed.now).Pairwise (· ≤ ·)) :
    ∀ d ∈ deeds, d.reported?.isSome → d.now ≤ t.status.lastUpdate := by
  induction h with
  | rest => simp
  | @step deeds e chronicle occurs ih =>
    rw [List.map_append, List.pairwise_append] at hclock
    obtain ⟨hearlier, -, hlast⟩ := hclock
    intro d hd hreported
    rw [occurs.lastUpdate]
    rcases List.mem_append.1 hd with hd | hd
    · split
      · exact hlast _ (List.mem_map.2 ⟨d, hd, rfl⟩) _ (by simp)
      · exact ih hearlier d hd hreported
    · rw [List.mem_singleton.1 hd] at hreported ⊢
      rw [if_pos hreported]
      exact UInt64.le_refl _

/-- While the wall clock does not go backwards, more than the interval lies between any two
refreshes that errands have made. -/
theorem Chronicle.spaced (h : Chronicle start deeds t)
    (hclock : (deeds.map Deed.now).Pairwise (· ≤ ·)) :
    deeds.Pairwise fun d e => d.Renews → e.Renews →
      d.now.toNat * 1000000 + start.interval.nanos < e.now.toNat * 1000000 := by
  induction h with
  | rest => exact .nil
  | @step deeds e chronicle occurs ih =>
    rw [List.map_append, List.pairwise_append] at hclock
    obtain ⟨hearlier, -, -⟩ := hclock
    rw [List.pairwise_append]
    refine ⟨ih hearlier, List.pairwise_singleton _ _, fun d hd e' he' hdrenews herenews => ?_⟩
    rw [List.mem_singleton.1 he'] at herenews ⊢
    have hoverdue := occurs.isOverdue herenews
    rw [PeerStatus.IsOverdue, chronicle.interval.1] at hoverdue
    have hle : d.now.toNat ≤ e.before.status.lastUpdate.toNat :=
      UInt64.le_iff_toNat_le.1 (chronicle.now_le_lastUpdate hearlier d hd hdrenews.2)
    exact Nat.lt_of_le_of_lt (Nat.add_le_add_right (Nat.mul_le_mul_right _ hle) _) hoverdue

/-- **Refreshes keep the interval.** An errand refreshes the list of peers if and only if more than
the interval has passed since the last update, and then once; if that fails, the errand ends with the
failure, tries nothing else and changes neither the status nor what is saved; and if it succeeds, the
candidates are the peers of the new list. Along a course in which the wall clock never goes
backwards, any two refreshes that errands have made, with whatever between them, lie more than the
interval apart; the time of such a refresh, which is when its errand began, is the time of the
last update then. All that is done in a session is such a course, and its times are those that the
wall clock shows when the lock is taken. -/
theorem refreshes_keep_the_interval {t₀ t : Tracker} {acts : List Act}
    (hcourse : Course t₀ acts t) :
    (∀ (errand : Errand) (now : UInt64) (before after : Tracker) log result,
      (before.operate errand.operation now).Runs log (after, result) ↔
        errand.Goes now before log after result) ∧
    (∃ deeds, Chronicle t₀ deeds t ∧ deeds.map Deed.act = acts) ∧
    (∀ deeds, Chronicle t₀ deeds t → deeds.map Deed.act = acts →
      (∀ d ∈ deeds, d.Renews →
        d.refreshed.status.lastUpdate = d.now ∧ d.after.status.lastUpdate = d.now) ∧
      ((acts.map Act.now).Pairwise (· ≤ ·) → deeds.Pairwise fun d e => d.Renews → e.Renews →
        d.now.toNat * 1000000 + t₀.interval.nanos < e.now.toNat * 1000000)) ∧
    ∀ {σ : Type} (net : Responder σ) (s : Session σ) (steps : List Session.Step),
      s.tracker = some t₀ → ∃ tenures t',
        Session.Tells net (fun _ => True) s t₀ tenures t' ⟨(s.follow net steps).1, none⟩ ∧
        ((s.follow net steps).1.tracker = none ∨ (s.follow net steps).1.tracker = some t') := by
  refine ⟨fun errand now before after log result => errand.runs_operate_iff_goes,
    exists_chronicle hcourse, ?_, ?_⟩
  · rintro deeds hdeeds rfl
    refine ⟨fun d hd hrenews => ?_, fun hclock => hdeeds.spaced ?_⟩
    · rw [(hdeeds.occurs d hd).lastUpdate, d.refreshed_lastUpdate, if_pos hrenews.2]
      exact ⟨rfl, rfl⟩
    · rwa [List.map_map] at hclock
  · intro σ net s steps ht
    exact Session.exists_tenures_of_leads ht (Session.leads_follow fun _ _ => trivial)

/-- The tracker after an errand on a network. -/
def afterErrand {σ : Type} (net : Responder σ) (network : σ) (errand : Errand) (now : UInt64)
    (t : Tracker) : Tracker :=
  ((t.operate errand.operation now).perform net 0 ⟨network, []⟩).2.2.1

/-- An errand after which the time of the last update is another one is a deed that has refreshed the
list. -/
theorem exists_renewal {σ : Type} {net : Responder σ} {network : σ} {errand : Errand}
    {now : UInt64} {t : Tracker}
    (hne : (t.afterErrand net network errand now).status.lastUpdate ≠ t.status.lastUpdate) :
    ∃ d : Deed, d.Occurs ∧ d.Renews ∧ d.before = t ∧ d.now = now ∧
      d.after = t.afterErrand net network errand now := by
  obtain ⟨log, hrun⟩ := exists_runs_perform net 0 ⟨network, []⟩ (t.operate errand.operation now)
  rw [afterErrand] at hne ⊢
  generalize (Dialogue.perform _ _ _ _).2.2 = outcome at hrun hne ⊢
  obtain ⟨t', result⟩ := outcome
  let act : Act := ⟨errand.operation, now, log, result⟩
  have hact : (t.operate act.operation act.now).Runs act.log (t', act.result) := hrun
  obtain ⟨d, hd, rfl, rfl, heq⟩ := runs_operate_iff.1 hact
  have hreported : d.reported?.isSome := by
    by_contra hnone
    exact hne (by rw [hd.lastUpdate, if_neg hnone])
  exact ⟨d, hd, ⟨⟨errand, congrArg Act.operation heq⟩, hreported⟩, rfl, congrArg Act.now heq, rfl⟩

/-- The seed serves a list, and a port is looked up two seconds after the epoch and again two seconds
later, when a list is used for one second. -/
theorem refreshes_of_two_port_lookups : ∃ t₀ d e t, t₀.interval = .ofSeconds 1 ∧
    Chronicle t₀ [d, e] t ∧ d.now = 2000 ∧ e.now = 4000 ∧ d.Renews ∧ e.Renews ∧
    d.now.toNat * 1000000 + t₀.interval.nanos < e.now.toNat * 1000000 := by
  let list : Response := ⟨.ok, [], .ofText (PeerList.print [("::1", 80, 0)])⟩
  let script : Script := [{ replies := [(0, .response list)] }]
  let t₀ : Tracker := ofSeeds ["http://[::1]:80/nifi-api"] (.ofSeconds 1) (.start none none)
  let t₁ : Tracker := t₀.afterErrand Script.responder script (.resolvePort "in") 2000
  have hfirst : t₁.status.lastUpdate ≠ t₀.status.lastUpdate := by decide +kernel
  have hsecond : (t₁.afterErrand Script.responder script (.resolvePort "in") 4000).status.lastUpdate ≠
      t₁.status.lastUpdate := by decide +kernel
  obtain ⟨d, hd, hdrenews, hdbefore, hdnow, hdafter⟩ := exists_renewal hfirst
  obtain ⟨e, he, herenews, hebefore, henow, -⟩ := exists_renewal hsecond
  have hchronicle : Chronicle d.before [d, e] e.after := by
    have hbegin : Chronicle d.before [d] e.before := by
      rw [hebefore.trans hdafter.symm]
      exact .step .rest hd
    exact .step hbegin he
  obtain ⟨-, -, htold, -⟩ := refreshes_keep_the_interval hchronicle.course
  have hspaced := (htold [d, e] hchronicle rfl).2 (by simp [Deed.act, hdnow, henow])
  obtain ⟨hspaced, -⟩ := List.pairwise_cons.1 hspaced
  refine ⟨d.before, d, e, e.after, ?_, hchronicle, hdnow, henow, hdrenews, herenews,
    hspaced e (List.mem_singleton_self _) hdrenews herenews⟩
  rw [hdbefore]
  rfl

end Tracker

end FlowPeers
