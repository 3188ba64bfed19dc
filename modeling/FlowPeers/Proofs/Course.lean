import FlowPeers.Network.Script
import FlowPeers.Proofs.Failover
import FlowPeers.Proofs.Refresh

/-!
# Courses of a tracker

A course is what is done with a tracker: operations one after the other, each at a time of the wall
clock and with what is exchanged in it (`Tracker.Course`). A `Deed` tells more of an operation than
its `Act` does, namely in which visits the peers were asked for their list and in which an errand
was tried; a `Chronicle` is a course told in deeds.

Deeds tell all that operations can do (`Tracker.runs_operate_iff`), so every course has its
chronicle (`Tracker.exists_chronicle`), and what is proved of the four kinds of deed
(`Deed.Occurs`) holds along every course.
-/

namespace FlowPeers

open Dialogue

/-- What is done with a tracker: an operation that begins at a time, what is exchanged in it and
what comes of it. -/
structure Act where
  operation : Operation
  /-- What the wall clock shows at the beginning. -/
  now : UInt64
  log : List Exchanged
  result : Except Failure Answer

/-- A course leads from a tracker by some acts, one after the other, to a tracker. -/
inductive Tracker.Course (start : Tracker) : List Act → Tracker → Prop
  | rest : Course start [] start
  | step {acts : List Act} {t t' : Tracker} {act : Act} (course : Course start acts t)
      (run : (t.operate act.operation act.now).Runs act.log (t', act.result)) :
      Course start (acts ++ [act]) t'

/-- The record of an act. -/
structure Deed where
  before : Tracker
  operation : Operation
  /-- What the wall clock shows at the beginning. -/
  now : UInt64
  /-- The visits in which the peers were asked for their list. -/
  asked : List (Visit (List Peer))
  /-- The visits in which an errand was tried. -/
  tried : List (Visit Answer)
  after : Tracker
  result : Except Failure Answer

namespace Deed

/-- The act that a record is of. -/
def act (d : Deed) : Act :=
  ⟨d.operation, d.now, Visit.transcript d.asked ++ Visit.transcript d.tried, d.result⟩

/-- The tracker after the peers were asked, if they were. -/
def refreshed (d : Deed) : Tracker :=
  d.before.afterAsking d.now d.asked

/-- The list of peers that was adopted, if one was. -/
def reported? (d : Deed) : Option (List Peer) :=
  (Visit.outcome .noPeers d.asked).toOption

/-- Whether a record is of something that happens: a refresh, an errand with a list of peers that is
fresh, an errand after a refresh, or an errand that ends with the failure to refresh. -/
inductive Occurs : Deed → Prop
  | refresh {t : Tracker} {now : UInt64} {asked : List (Visit (List Peer))}
      (hasked : Visits Tracker.fetchPeers t.logins t.status.urls asked) :
      Occurs ⟨t, .refresh, now, asked, [], t.afterAsking now asked,
        (Visit.outcome .noPeers asked).map fun _ => .done⟩
  | fresh (errand : Errand) {t : Tracker} {now : UInt64} {tried : List (Visit Answer)}
      (hfresh : t.status.isStale now t.interval = false)
      (htried : Visits errand.action t.logins t.status.urls tried) :
      Occurs ⟨t, errand.operation, now, [], tried, t.afterTrying tried,
        Visit.outcome .noPeers tried⟩
  | stale (errand : Errand) {t : Tracker} {now : UInt64} {asked : List (Visit (List Peer))}
      {tried : List (Visit Answer)} {reported : List Peer}
      (hstale : t.status.isStale now t.interval = true)
      (hasked : Visits Tracker.fetchPeers t.logins t.status.urls asked)
      (hreported : Visit.outcome .noPeers asked = .ok reported)
      (htried : Visits errand.action (t.afterAsking now asked).logins
        (t.afterAsking now asked).status.urls tried) :
      Occurs ⟨t, errand.operation, now, asked, tried, (t.afterAsking now asked).afterTrying tried,
        Visit.outcome .noPeers tried⟩
  | expired (errand : Errand) {t : Tracker} {now : UInt64} {asked : List (Visit (List Peer))}
      {failure : Failure} (hstale : t.status.isStale now t.interval = true)
      (hasked : Visits Tracker.fetchPeers t.logins t.status.urls asked)
      (hfailure : Visit.outcome .noPeers asked = .error failure) :
      Occurs ⟨t, errand.operation, now, asked, [], t.afterAsking now asked, .error failure⟩

end Deed

namespace Tracker

theorem eq_refresh_or_errand (operation : Operation) :
    operation = .refresh ∨ ∃ errand : Errand, operation = errand.operation := by
  cases operation with
  | refresh => exact .inl rfl
  | resolvePort name => exact .inr ⟨.resolvePort name, rfl⟩
  | openTransaction port => exact .inr ⟨.openTransaction port, rfl⟩

/-- A refresh runs as a deed says. -/
theorem exists_deed_of_runs_refresh {t t' : Tracker} {now : UInt64} {log : List Exchanged}
    {result : Except Failure Answer}
    (h : (t.operate .refresh now).Runs log (t', result)) :
    ∃ d : Deed, d.Occurs ∧ d.before = t ∧ d.after = t' ∧ d.act = ⟨.refresh, now, log, result⟩ := by
  obtain ⟨⟨t₁, outcome⟩, h, heq⟩ := runs_map_iff.1 h
  obtain ⟨asked, hasked, rfl, rfl, rfl⟩ := runs_refresh_iff.1 h
  cases heq
  refine ⟨_, .refresh hasked, rfl, rfl, ?_⟩
  simp only [Deed.act, Visit.transcript_nil, List.append_nil, Act.mk.injEq, true_and]
  cases Visit.outcome .noPeers asked <;> rfl

/-- An errand runs as a deed says, in one of three ways. -/
theorem exists_deed_of_runs_errand {errand : Errand} {t t' : Tracker} {now : UInt64}
    {log : List Exchanged} {result : Except Failure Answer}
    (h : (t.operate errand.operation now).Runs log (t', result)) :
    ∃ d : Deed, d.Occurs ∧ d.before = t ∧ d.after = t' ∧
      d.act = ⟨errand.operation, now, log, result⟩ := by
  rw [Errand.operate_eq_failover, runs_failover_iff] at h
  rcases h with ⟨failure, h, rfl⟩ | ⟨t₁, log₁, tried, h, htried, rfl, rfl, rfl⟩
  · rcases runs_refreshIfStale_iff.1 h with ⟨hstale, h⟩ | ⟨_, _, _, hfail⟩
    · obtain ⟨asked, hasked, rfl, hresult, rfl⟩ := runs_refresh_iff.1 h
      cases houtcome : Visit.outcome .noPeers asked with
      | ok reported =>
        rw [houtcome] at hresult
        contradiction
      | error failure' =>
        rw [houtcome] at hresult
        cases hresult
        exact ⟨_, .expired errand hstale hasked houtcome, rfl, rfl, by simp [Deed.act]⟩
    · contradiction
  · rcases runs_refreshIfStale_iff.1 h with ⟨hstale, h⟩ | ⟨hfresh, rfl, rfl, _⟩
    · obtain ⟨asked, hasked, rfl, hresult, rfl⟩ := runs_refresh_iff.1 h
      cases houtcome : Visit.outcome .noPeers asked with
      | ok reported => exact ⟨_, .stale errand hstale hasked houtcome htried, rfl, rfl, rfl⟩
      | error failure =>
        rw [houtcome] at hresult
        contradiction
    · exact ⟨_, .fresh errand hfresh htried, rfl, rfl, rfl⟩

/-- What a deed says can happen. -/
theorem runs_of_occurs {d : Deed} (h : d.Occurs) :
    (d.before.operate d.operation d.now).Runs d.act.log (d.after, d.result) := by
  cases h with
  | @refresh t now asked hasked =>
    refine runs_map_iff.2 ⟨_, runs_refresh_iff.2 ⟨asked, hasked, by simp [Deed.act], rfl, rfl⟩, ?_⟩
    cases Visit.outcome .noPeers asked <;> rfl
  | @fresh errand t now tried hfresh htried =>
    rw [Errand.operate_eq_failover, runs_failover_iff]
    exact .inr ⟨t, [], tried, runs_refreshIfStale_iff.2 (.inr ⟨hfresh, rfl, rfl, rfl⟩), htried,
      rfl, rfl, rfl⟩
  | @stale errand t now asked tried reported hstale hasked hreported htried =>
    rw [Errand.operate_eq_failover, runs_failover_iff]
    refine .inr ⟨_, _, tried, runs_refreshIfStale_iff.2 (.inl ⟨hstale, ?_⟩), htried, rfl, rfl, rfl⟩
    exact runs_refresh_iff.2 ⟨asked, hasked, rfl, by rw [hreported]; rfl, rfl⟩
  | @expired errand t now asked failure hstale hasked hfailure =>
    rw [Errand.operate_eq_failover, runs_failover_iff]
    refine .inl ⟨failure, runs_refreshIfStale_iff.2 (.inl ⟨hstale, ?_⟩), rfl⟩
    exact runs_refresh_iff.2 ⟨asked, hasked, by simp [Deed.act], by rw [hfailure]; rfl, rfl⟩

/-- **All that operations do.** An operation runs as the deeds say and in no other way. -/
theorem runs_operate_iff {t t' : Tracker} {act : Act} :
    (t.operate act.operation act.now).Runs act.log (t', act.result) ↔
      ∃ d : Deed, d.Occurs ∧ d.before = t ∧ d.after = t' ∧ d.act = act := by
  constructor
  · obtain ⟨operation, now, log, result⟩ := act
    intro h
    rcases eq_refresh_or_errand operation with rfl | ⟨errand, rfl⟩
    · exact exists_deed_of_runs_refresh h
    · exact exists_deed_of_runs_errand h
  · rintro ⟨d, hd, rfl, rfl, rfl⟩
    exact runs_of_occurs hd

/-- A course told in deeds. -/
inductive Chronicle (start : Tracker) : List Deed → Tracker → Prop
  | rest : Chronicle start [] start
  | step {deeds : List Deed} {d : Deed} (chronicle : Chronicle start deeds d.before)
      (occurs : d.Occurs) : Chronicle start (deeds ++ [d]) d.after

theorem exists_chronicle {start t : Tracker} {acts : List Act} (h : Course start acts t) :
    ∃ deeds, Chronicle start deeds t ∧ deeds.map Deed.act = acts := by
  induction h with
  | rest => exact ⟨[], .rest, rfl⟩
  | step course run ih =>
    obtain ⟨deeds, hdeeds, rfl⟩ := ih
    obtain ⟨d, hd, rfl, rfl, rfl⟩ := runs_operate_iff.1 run
    exact ⟨deeds ++ [d], .step hdeeds hd, by simp⟩

theorem Chronicle.occurs {start t : Tracker} {deeds : List Deed} (h : Chronicle start deeds t) :
    ∀ d ∈ deeds, d.Occurs := by
  induction h with
  | rest => simp
  | @step deeds d chronicle occurs ih =>
    intro e he
    rcases List.mem_append.1 he with he | he
    · exact ih e he
    · rw [List.mem_singleton.1 he]
      exact occurs

theorem Chronicle.eq_of_nil {start t : Tracker} (h : Chronicle start [] t) : t = start := by
  generalize hnil : ([] : List Deed) = deeds at h
  cases h with
  | rest => rfl
  | step => simp at hnil

/-- After its first deed a course goes on from where that one has led. -/
theorem Chronicle.of_cons {start t : Tracker} {first : Deed} {later : List Deed}
    (h : Chronicle start (first :: later) t) :
    first.Occurs ∧ first.before = start ∧ Chronicle first.after later t := by
  generalize hdeeds : first :: later = deeds at h
  induction h generalizing later with
  | rest => contradiction
  | @step deeds d chronicle occurs ih =>
    cases deeds with
    | nil =>
      cases hdeeds
      exact ⟨occurs, chronicle.eq_of_nil, .rest⟩
    | cons second deeds =>
      cases hdeeds
      obtain ⟨hfirst, hbefore, hlater⟩ := ih rfl
      exact ⟨hfirst, hbefore, .step hlater occurs⟩

/-- What every deed keeps holds before every deed and after the last one. -/
theorem Chronicle.forall_before {P : Tracker → Prop}
    (hdeed : ∀ d : Deed, d.Occurs → P d.before → P d.after) {start t : Tracker} {deeds : List Deed}
    (h : Chronicle start deeds t) (hstart : P start) : P t ∧ ∀ d ∈ deeds, P d.before := by
  induction h with
  | rest => exact ⟨hstart, by simp⟩
  | @step deeds d chronicle occurs ih =>
    obtain ⟨hbefore, hall⟩ := ih
    refine ⟨hdeed d occurs hbefore, fun e he => ?_⟩
    rcases List.mem_append.1 he with he | he
    · exact hall e he
    · rw [List.mem_singleton.1 he]
      exact hbefore

end Tracker

namespace Deed

variable {d : Deed}

theorem Occurs.after_eq (h : d.Occurs) : d.after = d.refreshed.afterTrying d.tried := by
  cases h <;> rfl

theorem Occurs.asked (h : d.Occurs) :
    d.asked = [] ∨ Visits Tracker.fetchPeers d.before.logins d.before.status.urls d.asked := by
  cases h with
  | refresh hasked => exact .inr hasked
  | fresh errand hfresh htried => exact .inl rfl
  | stale errand hstale hasked hreported htried => exact .inr hasked
  | expired errand hstale hasked hfailure => exact .inr hasked

theorem Occurs.tried (h : d.Occurs) :
    d.tried = [] ∨ ∃ errand : Errand, d.operation = errand.operation ∧
      Visits errand.action d.refreshed.logins d.refreshed.status.urls d.tried := by
  cases h with
  | refresh hasked => exact .inl rfl
  | fresh errand hfresh htried => exact .inr ⟨errand, rfl, htried⟩
  | stale errand hstale hasked hreported htried => exact .inr ⟨errand, rfl, htried⟩
  | expired errand hstale hasked hfailure => exact .inl rfl

/-- Asking the peers adopts a list or leaves the status as it is. -/
theorem refreshed_status (d : Deed) : d.refreshed.status =
    match d.reported? with
    | some reported => (d.before.adopt reported d.now).status
    | none => d.before.status := by
  rw [refreshed, Tracker.afterAsking, reported?]
  cases Visit.outcome .noPeers d.asked <;> rfl

end Deed

/-! ## Connecting -/

/-- A tracker begins with what was saved, or with the seeds and a refresh that has succeeded. -/
theorem Tracker.eq_or_exists_deed_of_runs_connect {raw : List String} {interval : Duration}
    {logins : Logins} {saved : Option PeerStatus} {now : UInt64} {log : List Exchanged}
    {t : Tracker} (h : (connect raw interval logins saved now).Runs log (.ok t)) :
    ∃ seeds, readSeeds [] raw = .ok seeds ∧
      ((∃ status, saved = some status ∧ t.status = status) ∨
      (saved = none ∧ ∃ d : Deed, d.Occurs ∧ d.before = ofSeeds seeds interval logins ∧
        d.after = t ∧ d.act = ⟨.refresh, now, log, .ok .done⟩ ∧ d.reported?.isSome)) := by
  rw [connect] at h
  split at h
  · obtain ⟨-, hfail⟩ := runs_done_iff.1 h
    contradiction
  · next seeds hseeds =>
    refine ⟨seeds, hseeds, ?_⟩
    unfold connectTo at h
    split at h
    · next status =>
      obtain ⟨-, hok⟩ := runs_done_iff.1 h
      cases hok
      exact .inl ⟨status, rfl, rfl⟩
    · obtain ⟨⟨t₁, result⟩, hrefresh, hok⟩ := runs_map_iff.1 h
      obtain ⟨asked, hasked, rfl, rfl, rfl⟩ := runs_refresh_iff.1 hrefresh
      cases houtcome : Visit.outcome .noPeers asked with
      | error failure =>
        rw [houtcome] at hok
        contradiction
      | ok reported =>
        rw [houtcome] at hok
        cases hok
        refine .inr ⟨rfl, _, .refresh hasked, rfl, rfl, ?_, ?_⟩
        · simp [Deed.act, houtcome, Except.map]
        · simp [Deed.reported?, houtcome, Except.toOption]

/-- A tracker is connected where a peer serves a list, and then asked for a port in vain. -/
theorem Tracker.exists_course : ∃ log t₀ acts t,
    (connect ["http://[::1]:80"] (.ofSeconds 1) (.start none none) none 0).Runs log (.ok t₀) ∧
    Course t₀ acts t ∧ acts.map Act.operation = [.resolvePort "in"] := by
  let list : Response := ⟨.ok, [], .ofText (PeerList.print [("::2", 80, 0)])⟩
  let script : Script := [{ replies := [(0, .response list)] }]
  obtain ⟨log, hrun⟩ := exists_runs_perform Script.responder 0 ⟨script, []⟩
    (connect ["http://[::1]:80"] (.ofSeconds 1) (.start none none) none 0)
  have hok : ((connect ["http://[::1]:80"] (.ofSeconds 1) (.start none none) none 0).perform
      Script.responder 0 ⟨script, []⟩).2.2.toOption.isSome := by
    decide +kernel
  generalize (Dialogue.perform _ _ _ _).2.2 = result at hrun hok
  cases result with
  | error failure => contradiction
  | ok t₀ =>
    obtain ⟨log', ⟨t, result⟩, hrun', -⟩ :=
      exists_runs (fun _ _ => .error .noPeers) (t₀.operate (.resolvePort "in") 7)
    exact ⟨log, t₀, [⟨.resolvePort "in", 7, log', result⟩], t, hrun, .step .rest hrun', rfl⟩

end FlowPeers
