import FlowPeers.Proofs.Course
import FlowPeers.Proofs.Merge

/-!
# The form of a status along a course

A status may be read back in any order and with repeated addresses. Along a course its form never
gets worse, and it becomes a good one: after the first list that is adopted it is ranked and has no
repeats (`Tracker.Chronicle.hasNoRepeats`, `Tracker.Chronicle.isRanked`), and after an errand that
has failed on a peer it is ranked (`Tracker.Chronicle.isRanked_of_failed`).
-/

namespace FlowPeers

open Dialogue

namespace Tracker

/-! ## What one deed does to the form -/

theorem status_afterTrying_of_forall {t : Tracker} {visits : List (Visit Answer)}
    (h : ∀ v ∈ visits, v.hasFailed = false) : (t.afterTrying visits).status = t.status := by
  have hzero : Visit.failures visits = 0 := by
    rw [Visit.failures, List.countP_eq_zero]
    intro v hv
    simp [h v hv]
  rw [afterTrying, if_pos hzero]

theorem isRanked_afterTrying {t : Tracker} {visits : List (Visit Answer)}
    (h : ∃ v ∈ visits, v.hasFailed) : (t.afterTrying visits).status.IsRanked := by
  have hpos : Visit.failures visits ≠ 0 := by
    have : 0 < Visit.failures visits := List.countP_pos_iff.2 h
    omega
  rw [afterTrying, if_neg hpos]
  exact (isRankingOf_rank _).ordered

theorem isRanked_afterTrying_of_isRanked {t : Tracker} (h : t.status.IsRanked)
    (visits : List (Visit Answer)) : (t.afterTrying visits).status.IsRanked := by
  by_cases hfailed : ∃ v ∈ visits, v.hasFailed
  · exact isRanked_afterTrying hfailed
  · rw [status_afterTrying_of_forall]
    · exact h
    · intro v hv
      rw [Bool.eq_false_iff]
      intro hv'
      exact hfailed ⟨v, hv, hv'⟩

theorem urls_afterTrying_perm (t : Tracker) (visits : List (Visit Answer)) :
    (t.afterTrying visits).status.urls.Perm t.status.urls := by
  rw [afterTrying]
  split
  · exact .refl _
  · refine ((isRankingOf_rank _).perm.map _).trans ?_
    rw [map_markFirst fun _ => rfl]
    exact .refl _

end Tracker

namespace Deed

variable {d : Deed}

theorem Occurs.urls_perm (h : d.Occurs) : d.after.status.urls.Perm d.refreshed.status.urls := by
  rw [h.after_eq]
  exact d.refreshed.urls_afterTrying_perm d.tried

theorem Occurs.hasNoRepeats (h : d.Occurs)
    (hform : d.reported?.isSome ∨ d.before.status.HasNoRepeats) :
    d.after.status.HasNoRepeats := by
  refine h.urls_perm.nodup_iff.2 ?_
  rw [refreshed_status]
  split
  · exact Tracker.hasNoRepeats_adopt ..
  · next hnone =>
    rw [hnone] at hform
    exact hform.resolve_left (by simp)

theorem Occurs.isRanked (h : d.Occurs) (hform : d.reported?.isSome ∨ d.before.status.IsRanked) :
    d.after.status.IsRanked := by
  rw [h.after_eq]
  refine Tracker.isRanked_afterTrying_of_isRanked ?_ d.tried
  rw [refreshed_status]
  split
  · exact Tracker.isRanked_adopt ..
  · next hnone =>
    rw [hnone] at hform
    exact hform.resolve_left (by simp)

theorem Occurs.isRanked_of_failed (h : d.Occurs) (hfailed : ∃ v ∈ d.tried, v.hasFailed) :
    d.after.status.IsRanked := by
  rw [h.after_eq]
  exact Tracker.isRanked_afterTrying hfailed

end Deed

namespace Tracker

/-! ## What a course does to the form -/

variable {start t : Tracker} {deeds : List Deed}

/-- What every deed keeps and every adopted list brings about holds after a course that began with
it or adopted a list. -/
theorem Chronicle.keeps {form : PeerStatus → Prop}
    (hdeed : ∀ d : Deed, d.Occurs → (d.reported?.isSome ∨ form d.before.status) →
      form d.after.status)
    (h : Chronicle start deeds t)
    (hform : (∃ d ∈ deeds, d.reported?.isSome) ∨ form start.status) : form t.status := by
  induction h with
  | rest => simpa using hform
  | @step deeds d chronicle occurs ih =>
    refine hdeed d occurs ?_
    rcases hform with ⟨e, he, hreported⟩ | hstart
    · rcases List.mem_append.1 he with he | he
      · exact .inr (ih (.inl ⟨e, he, hreported⟩))
      · rw [List.mem_singleton.1 he] at hreported
        exact .inl hreported
    · exact .inr (ih (.inr hstart))

theorem Chronicle.hasNoRepeats (h : Chronicle start deeds t)
    (hform : (∃ d ∈ deeds, d.reported?.isSome) ∨ start.status.HasNoRepeats) :
    t.status.HasNoRepeats :=
  h.keeps (fun _ => Deed.Occurs.hasNoRepeats) hform

theorem Chronicle.isRanked (h : Chronicle start deeds t)
    (hform : (∃ d ∈ deeds, d.reported?.isSome) ∨ start.status.IsRanked) : t.status.IsRanked :=
  h.keeps (fun _ => Deed.Occurs.isRanked) hform

theorem Chronicle.isRanked_of_failed (h : Chronicle start deeds t) {d : Deed}
    (hlast : deeds.getLast? = some d) (hfailed : ∃ v ∈ d.tried, v.hasFailed) :
    t.status.IsRanked := by
  cases h with
  | rest => simp at hlast
  | step chronicle occurs =>
    rw [List.getLast?_concat, Option.some.injEq] at hlast
    subst hlast
    exact occurs.isRanked_of_failed hfailed

/-- A tracker that was connected without anything saved has adopted a list. -/
theorem form_of_runs_connect {raw : List String} {interval : Duration} {logins : Logins}
    {now : UInt64} {log : List Exchanged}
    (h : (connect raw interval logins none now).Runs log (.ok t)) :
    t.status.HasNoRepeats ∧ t.status.IsRanked := by
  obtain ⟨seeds, -, ⟨status, hsaved, -⟩ | ⟨-, d, hd, -, rfl, -, hreported⟩⟩ :=
    eq_or_exists_deed_of_runs_connect h
  · contradiction
  · exact ⟨hd.hasNoRepeats (.inl hreported), hd.isRanked (.inl hreported)⟩

/-- **The form of the status over whole runs.** Whatever is saved when a tracker is connected, and
whatever is then done with it: if the status begins without repeats it stays so, and if it begins
ranked it stays so. From the first list that is adopted on it is both, and after an errand that has
failed on a peer it is ranked. -/
theorem status_stays_in_form {raw : List String} {interval : Duration} {logins : Logins}
    {saved : Option PeerStatus} {now : UInt64} {log : List Exchanged} {t₀ t : Tracker}
    {acts : List Act} (hconnect : (connect raw interval logins saved now).Runs log (.ok t₀))
    (hcourse : Course t₀ acts t) :
    (∀ status, saved = some status → t₀.status = status) ∧
    (∃ deeds, Chronicle t₀ deeds t ∧ deeds.map Deed.act = acts) ∧
    ∀ deeds, Chronicle t₀ deeds t → deeds.map Deed.act = acts →
      (t₀.status.HasNoRepeats → t.status.HasNoRepeats) ∧
      (t₀.status.IsRanked → t.status.IsRanked) ∧
      ((saved = none ∨ ∃ d ∈ deeds, d.reported?.isSome) →
        t.status.HasNoRepeats ∧ t.status.IsRanked) ∧
      (∀ d, deeds.getLast? = some d → (∃ v ∈ d.tried, v.hasFailed) → t.status.IsRanked) := by
  refine ⟨?_, exists_chronicle hcourse, ?_⟩
  · rintro status rfl
    obtain ⟨seeds, -, ⟨status', hsaved, hstatus⟩ | ⟨hsaved, -⟩⟩ :=
      eq_or_exists_deed_of_runs_connect hconnect
    · cases hsaved
      exact hstatus
    · contradiction
  · intro deeds hdeeds _
    refine ⟨fun hstart => hdeeds.hasNoRepeats (.inr hstart),
      fun hstart => hdeeds.isRanked (.inr hstart), ?_, fun d => hdeeds.isRanked_of_failed⟩
    rintro (rfl | hreported)
    · obtain ⟨hrepeats, hranked⟩ := form_of_runs_connect hconnect
      exact ⟨hdeeds.hasNoRepeats (.inr hrepeats), hdeeds.isRanked (.inr hranked)⟩
    · exact ⟨hdeeds.hasNoRepeats (.inl hreported), hdeeds.isRanked (.inl hreported)⟩

/-- A tracker is connected where a peer serves a list, and a port is looked up in vain. The peers are in
form as a list was adopted. -/
theorem status_in_form_after_port_lookup : ∃ log t₀ acts t,
    (connect ["http://[::1]:80"] (.ofSeconds 1) (.start none none) none 0).Runs log (.ok t₀) ∧
    Course t₀ acts t ∧ acts.map Act.operation = [.resolvePort "in"] ∧
    t.status.HasNoRepeats ∧ t.status.IsRanked := by
  obtain ⟨log, t₀, acts, t, hconnect, hcourse, hoperations⟩ := exists_course
  obtain ⟨-, ⟨deeds, hdeeds, hacts⟩, hform⟩ := status_stays_in_form hconnect hcourse
  exact ⟨log, t₀, acts, t, hconnect, hcourse, hoperations,
    (hform deeds hdeeds hacts).2.2.1 (.inl rfl)⟩

end Tracker

end FlowPeers
