import FlowPeers.Proofs.Connecting
import FlowPeers.Proofs.Seeds

/-!
# What is saved

A tracker saves its status when it adopts a list, and at no other time: what is saved and the status
part when an errand fails on a peer, and meet again at the next refresh. So what is saved is always the
status as it was right after the last refresh that has succeeded (`Tracker.SavesLast`,
`Tracker.Chronicle.savesLast`), or what was saved at the beginning while none has.

A tracker that is connected later takes what is saved as its status, without asking anybody, and leaves
it saved (`Tracker.saved_status_is_resumed`).
-/

namespace FlowPeers

open Dialogue

/-! ## What one deed saves -/

namespace Deed

variable {d : Deed}

/-- Whether a refresh has succeeded in a deed. -/
def Refreshes (d : Deed) : Prop :=
  Tracker.IsRefresh d.now d.before d.asked d.refreshed (.ok ())

theorem Occurs.refreshes_iff (h : d.Occurs) : d.Refreshes ↔ d.reported?.isSome := by
  constructor
  · intro hrefreshes
    obtain ⟨hok, -⟩ := Tracker.eq_afterAsking_of_isRefresh hrefreshes
    rw [reported?]
    cases houtcome : Visit.outcome .noPeers d.asked with
    | error failure =>
      rw [houtcome] at hok
      contradiction
    | ok reported => rfl
  · intro hreported
    rw [reported?] at hreported
    cases houtcome : Visit.outcome .noPeers d.asked with
    | error failure =>
      rw [houtcome] at hreported
      contradiction
    | ok reported =>
      rcases h.asked with hnil | hvisits
      · rw [hnil] at houtcome
        contradiction
      · have hrefresh : Tracker.IsRefresh d.now d.before d.asked d.refreshed _ :=
          Tracker.isRefresh_afterAsking hvisits
        rw [houtcome] at hrefresh
        exact hrefresh

/-- A deed in which a refresh has succeeded saves the status as it is right after it, whatever the
errand does then. -/
theorem Occurs.saved_of_refreshes (h : d.Occurs) (hrefreshes : d.Refreshes) :
    d.after.saved = some d.refreshed.status := by
  rw [h.after_eq, Tracker.afterTrying]
  rcases hrefreshes.ending with ⟨_, _, _, _, _, _, hsaved⟩ | ⟨-, -, -, -, hfailure⟩
  · exact hsaved
  · rcases hfailure with ⟨-, hfail⟩ | ⟨_, _, -, -, hfail⟩
    · contradiction
    · contradiction

/-- Any other deed saves nothing. -/
theorem Occurs.saved_of_not_refreshes (h : d.Occurs) (hnone : ¬ d.Refreshes) :
    d.after.saved = d.before.saved := by
  rw [h.refreshes_iff, reported?] at hnone
  rw [h.after_eq, Tracker.afterTrying, refreshed, Tracker.afterAsking]
  cases houtcome : Visit.outcome .noPeers d.asked with
  | error failure => rfl
  | ok reported =>
    rw [houtcome] at hnone
    exact absurd rfl hnone

end Deed

/-! ## What a course saves -/

namespace Tracker

/-- Whether what is saved after some deeds is the status as it was right after the last refresh in
them that has succeeded, or what was saved before if none has. -/
def SavesLast (before : Option PeerStatus) (deeds : List Deed) (saved : Option PeerStatus) : Prop :=
  ((∀ d ∈ deeds, ¬ d.Refreshes) ∧ saved = before) ∨
    ∃ past d later, deeds = past ++ d :: later ∧ d.Refreshes ∧ (∀ e ∈ later, ¬ e.Refreshes) ∧
      saved = some d.refreshed.status

theorem Chronicle.savesLast {start t : Tracker} {deeds : List Deed}
    (h : Chronicle start deeds t) : SavesLast start.saved deeds t.saved := by
  induction h with
  | rest => exact .inl ⟨by simp, rfl⟩
  | @step deeds d chronicle occurs ih =>
    by_cases hrefreshes : d.Refreshes
    · exact .inr ⟨deeds, d, [], rfl, hrefreshes, by simp, occurs.saved_of_refreshes hrefreshes⟩
    · have hsaved := occurs.saved_of_not_refreshes hrefreshes
      rcases ih with ⟨hnone, heq⟩ | ⟨past, e, later, rfl, he, hlater, heq⟩
      · refine .inl ⟨?_, hsaved.trans heq⟩
        rw [List.forall_mem_append]
        exact ⟨hnone, by simpa using hrefreshes⟩
      · refine .inr ⟨past, e, later ++ [d], by simp, he, ?_, hsaved.trans heq⟩
        rw [List.forall_mem_append]
        exact ⟨hlater, by simpa using hrefreshes⟩

/-- Once something is saved there is always something saved. -/
theorem SavesLast.isSome {before saved : Option PeerStatus} {deeds : List Deed}
    (h : SavesLast before deeds saved) (hbefore : before.isSome) : saved.isSome := by
  rcases h with ⟨-, rfl⟩ | ⟨_, d, _, _, _, _, rfl⟩
  · exact hbefore
  · rfl

/-! ## Connecting with what was saved -/

variable {raw : List String} {interval : Duration} {logins : Logins} {saved : Option PeerStatus}
  {now : UInt64} {log : List Exchanged} {t₀ : Tracker}

/-- With a tracker something is saved. -/
theorem saved_of_runs_connect (h : (connect raw interval logins saved now).Runs log (.ok t₀)) :
    t₀.saved.isSome := by
  cases runs_connect_iff.1 h with
  | resumed => rfl
  | served => rfl

/-- A tracker is told from what was saved before it was connected. -/
theorem exists_opening_saved (h : (connect raw interval logins saved now).Runs log (.ok t₀)) :
    ∃ start opening, start.saved = saved ∧ opening.flatMap Act.log = log ∧
      Course start opening t₀ := by
  cases saved with
  | none =>
    obtain ⟨seeds, -, hcourse⟩ := course_of_runs_connect h
    exact ⟨_, [⟨.refresh, now, log, .ok .done⟩], rfl, List.append_nil log, hcourse⟩
  | some status =>
    cases runs_connect_iff.1 h with
    | resumed hurls hsaved => exact ⟨_, [], hsaved.symm, rfl, .rest⟩
    | served _ hsaved => cases hsaved

end Tracker

/-- A session connects with what is saved in it without anything being sent, and leaves it saved. -/
theorem Session.connect_of_saved {σ : Type} (net : Responder σ) {s : Session σ}
    {status : PeerStatus} (hsaved : s.saved = some status) {raw urls : List String}
    (hurls : raw.map PeerAddress.canonical = urls.map .ok) (interval : Duration) (logins : Logins) :
    s.connect net raw interval logins =
      ({ s with
          tracker := some ⟨urls.eraseDups, interval, logins, status, some status⟩
          isReleased := false
          keepAlive := {} }, .ok ()) := by
  rw [connect_eq, hsaved, Tracker.connect_of_canonical hurls]
  rfl

/-- **What is saved, and how it is used.** Let a tracker be connected, with or without something saved,
and then do anything with it, whatever the replies are. However all that is done is told in deeds, the
refresh when the tracker is connected included: what is saved is the status as it was right after the
last refresh that has succeeded, or what was saved before if none has. There is always something
saved; and a tracker that is connected with it, whatever its seeds are as long as all of them have
addresses, exchanges nothing, has exactly what is saved as its status and leaves it saved.

In a session, whatever is done in it and at the same time, what is saved is what the tracker has saved
at the end of its course, also after the tracker was given up. A session in which this is saved
connects with it without anything being sent, and nothing but the tracker and its scheduler
changes. -/
theorem Tracker.saved_status_is_resumed {raw : List String} {interval : Duration} {logins : Logins}
    {saved : Option PeerStatus} {now : UInt64} {log : List Exchanged} {t₀ : Tracker}
    (hconnect : (connect raw interval logins saved now).Runs log (.ok t₀)) :
    (∃ start opening, opening.flatMap Act.log = log ∧ ∀ acts t, Course t₀ acts t →
      Course start (opening ++ acts) t ∧
      (∃ deeds, Chronicle start deeds t ∧ deeds.map Deed.act = opening ++ acts) ∧
      (∀ deeds, Chronicle start deeds t → SavesLast saved deeds t.saved) ∧
      ∃ status, t.saved = some status ∧
        ∀ raw' urls : List String, raw'.map PeerAddress.canonical = urls.map .ok →
          ∀ interval' logins' now' log' outcome,
            (connect raw' interval' logins' t.saved now').Runs log' outcome ↔
              log' = [] ∧ outcome = .ok ⟨urls.eraseDups, interval', logins', status, some status⟩) ∧
    ∀ {σ : Type} (net : Responder σ) (s s' : Session σ), s.tracker = some t₀ →
      Session.Leads net (fun _ => True) ⟨s, none⟩ ⟨s', none⟩ →
        ∃ tenures t status,
          Session.Tells net (fun _ => True) s t₀ tenures t ⟨s', none⟩ ∧
          t.saved = some status ∧ s'.saved = some status ∧
          ∀ {ρ : Type} (net' : Responder ρ) (other : Session ρ), other.saved = some status →
            ∀ raw' urls : List String, raw'.map PeerAddress.canonical = urls.map .ok →
              ∀ interval' logins', other.connect net' raw' interval' logins' =
                ({ other with
                    tracker := some ⟨urls.eraseDups, interval', logins', status, some status⟩
                    isReleased := false
                    keepAlive := {} }, .ok ()) := by
  have hsome : ∀ {acts t}, Course t₀ acts t → ∃ status, t.saved = some status := by
    intro acts t hcourse
    obtain ⟨deeds, hdeeds, -⟩ := exists_chronicle hcourse
    exact Option.isSome_iff_exists.1 (hdeeds.savesLast.isSome (saved_of_runs_connect hconnect))
  constructor
  · obtain ⟨start, opening, rfl, hlog, hopening⟩ := exists_opening_saved hconnect
    refine ⟨start, opening, hlog, fun acts t hcourse => ?_⟩
    have hall := hopening.append hcourse
    obtain ⟨status, hstatus⟩ := hsome hcourse
    refine ⟨hall, exists_chronicle hall, fun deeds hdeeds => hdeeds.savesLast, status, hstatus, ?_⟩
    intro raw' urls hurls interval' logins' now' log' outcome
    rw [hstatus]
    exact runs_connect_some_iff hurls
  · intro σ net s s' ht hleads
    obtain ⟨tenures, t, htells, -, hsaved⟩ := Session.exists_tenures_of_leads_saved ht hleads
    obtain ⟨status, hstatus⟩ := hsome htells.course
    refine ⟨tenures, t, status, htells, hstatus, hsaved.trans hstatus, ?_⟩
    intro ρ net' other hother raw' urls hurls interval' logins'
    exact Session.connect_of_saved net' hother hurls interval' logins'

/-- A tracker is connected with what another one has saved before it looked for a port in vain. -/
theorem Tracker.status_resumed_after_port_lookup : ∃ log t₀ acts t status,
    (connect ["http://[::1]:80"] (.ofSeconds 1) (.start none none) none 0).Runs log (.ok t₀) ∧
    Course t₀ acts t ∧ acts.map Act.operation = [.resolvePort "in"] ∧ t.saved = some status ∧
    (connect ["http://[::2]:80"] (.ofSeconds 5) (.start none none) t.saved 9).Runs []
      (.ok ⟨["http://[::2]:80/nifi-api"], .ofSeconds 5, .start none none, status, some status⟩) := by
  obtain ⟨log, t₀, acts, t, hconnect, hcourse, hoperations⟩ := exists_course
  obtain ⟨⟨start, opening, -, hacts⟩, -⟩ := saved_status_is_resumed hconnect
  obtain ⟨-, -, -, status, hstatus, hresumed⟩ := hacts acts t hcourse
  have hurls : ["http://[::2]:80"].map PeerAddress.canonical =
      ["http://[::2]:80/nifi-api"].map .ok := by
    decide +kernel
  refine ⟨log, t₀, acts, t, status, hconnect, hcourse, hoperations, hstatus, ?_⟩
  exact (hresumed _ _ hurls _ _ _ _ _).2 ⟨rfl, rfl⟩

end FlowPeers
