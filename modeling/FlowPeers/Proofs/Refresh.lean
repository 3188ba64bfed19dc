import FlowPeers.Proofs.Ranking
import FlowPeers.Proofs.Visit

/-!
# Refreshes

A refresh asks the peers in their order for the list of peers until one serves a usable list, and
adopts this list; without one the tracker keeps what it knows (`Tracker.runs_refresh_iff`).
-/

namespace FlowPeers

open Dialogue

namespace Tracker

/-- The tracker after the peers were asked in some visits from a time on: with the list of the
visit that has succeeded, if there is one. -/
def afterAsking (t : Tracker) (now : UInt64) (visits : List (Visit (List Peer))) : Tracker :=
  match Visit.outcome .noPeers visits with
  | .ok reported => { t with logins := Visit.finalLogins t.logins visits }.adopt reported now
  | .error _ => { t with logins := Visit.finalLogins t.logins visits }

section AfterAsking

variable (t : Tracker) (now : UInt64) (visits : List (Visit (List Peer)))

@[simp] theorem afterAsking_logins :
    (t.afterAsking now visits).logins = Visit.finalLogins t.logins visits := by
  rw [afterAsking]
  split <;> rfl

@[simp] theorem afterAsking_seeds : (t.afterAsking now visits).seeds = t.seeds := by
  rw [afterAsking]
  split <;> rfl

@[simp] theorem afterAsking_interval : (t.afterAsking now visits).interval = t.interval := by
  rw [afterAsking]
  split <;> rfl

end AfterAsking

theorem runs_refreshFrom_iff {now : UInt64} {t t' : Tracker} {failure : Failure}
    {peers : List Peer} {log : List Exchanged} {result : Except Failure Unit} :
    (refreshFrom now t failure peers).Runs log (t', result) ↔
      ∃ visits, Visits fetchPeers t.logins (peers.map (·.url)) visits ∧
        log = Visit.transcript visits ∧
        result = (Visit.outcome failure visits).map (fun _ => ()) ∧
        t' = t.afterAsking now visits := by
  induction peers generalizing t failure log with
  | nil =>
    rw [refreshFrom, runs_done_iff]
    constructor
    · rintro ⟨rfl, heq⟩
      cases heq
      exact ⟨[], .none _, rfl, rfl, rfl⟩
    · rintro ⟨visits, hvisits, rfl, rfl, rfl⟩
      cases hvisits
      exact ⟨rfl, rfl⟩
  | cons peer rest ih =>
    -- what is reported if all visits are in vain does not matter once there is a visit
    have hafter : ∀ {v : Visit (List Peer)} {failure' : Failure} (visits : List (Visit (List Peer))),
        v.result = .error failure' → t.afterAsking now (v :: visits) =
          { t with logins := v.after }.afterAsking now visits := by
      intro v failure' visits hresult
      rw [afterAsking, afterAsking, Visit.finalLogins_cons, Visit.outcome_cons visits hresult]
      cases visits with
      | nil => rfl
      | cons w visits => rfl
    rw [refreshFrom, Visit.runs_andThen_iff]
    constructor
    · rintro ⟨v, later, hv, hbefore, hurl, hnext, rfl⟩
      cases hresult : v.result with
      | ok reported =>
        have hfailed : v.hasFailed = false := Visit.hasFailed_eq_false_iff.2 ⟨reported, hresult⟩
        simp only [hresult] at hnext
        obtain ⟨rfl, heq⟩ := runs_done_iff.1 hnext
        cases heq
        refine ⟨[v], .success hv hbefore hurl hfailed, by simp, by simp [hresult, Except.map], ?_⟩
        simp [afterAsking, hresult, Visit.finalLogins_cons]
      | error failure' =>
        have hfailed : v.hasFailed := Visit.hasFailed_iff.2 ⟨failure', hresult⟩
        simp only [hresult] at hnext
        obtain ⟨visits, hvisits, rfl, rfl, rfl⟩ := ih.1 hnext
        refine ⟨v :: visits, .failure hv hbefore hurl hfailed hvisits, rfl, ?_, ?_⟩
        · rw [Visit.outcome_cons visits hresult]
        · rw [hafter visits hresult]
    · rintro ⟨visits, hvisits, rfl, rfl, rfl⟩
      cases hvisits with
      | @success _ _ _ v hv hbefore hurl hfailed =>
        obtain ⟨reported, hresult⟩ := Visit.hasFailed_eq_false_iff.1 hfailed
        refine ⟨v, [], hv, hbefore, hurl, ?_, by simp⟩
        simp [hresult, afterAsking, Visit.finalLogins_cons, Except.map]
      | @failure _ _ _ v visits hv hbefore hurl hfailed hvisits =>
        obtain ⟨failure', hresult⟩ := Visit.hasFailed_iff.1 hfailed
        refine ⟨v, Visit.transcript visits, hv, hbefore, hurl, ?_, rfl⟩
        simp only [hresult]
        refine ih.2 ⟨visits, hvisits, rfl, ?_, ?_⟩
        · rw [Visit.outcome_cons visits hresult]
        · rw [hafter visits hresult]

/-- A refresh visits the peers in order until one serves a usable list. -/
theorem runs_refresh_iff {now : UInt64} {t t' : Tracker} {log : List Exchanged}
    {result : Except Failure Unit} :
    (refresh now t).Runs log (t', result) ↔
      ∃ visits, Visits fetchPeers t.logins t.status.urls visits ∧
        log = Visit.transcript visits ∧
        result = (Visit.outcome .noPeers visits).map (fun _ => ()) ∧
        t' = t.afterAsking now visits :=
  runs_refreshFrom_iff

theorem runs_refreshIfStale_iff {now : UInt64} {t t' : Tracker} {log : List Exchanged}
    {result : Except Failure Unit} :
    (refreshIfStale now t).Runs log (t', result) ↔
      (t.status.isStale now t.interval = true ∧ (refresh now t).Runs log (t', result)) ∨
      (t.status.isStale now t.interval = false ∧ log = [] ∧ t' = t ∧ result = .ok ()) := by
  rw [refreshIfStale]
  cases t.status.isStale now t.interval <;> simp

end Tracker

end FlowPeers
