import FlowPeers.Proofs.Scheduler

/-!
# Jobs and the handles of their users

Whoever gives a task to a scheduler keeps a handle: the ticket of the job, with the task. A scheduler
serves some handles (`KeepAlive.Serves`) if it has exactly one job for each of them that was accepted,
once it has received what it was told, and no other jobs; if it was shut down it has none.

Whatever is done with a scheduler it goes on to serve the handles that are then held: those of before
and the new one (`KeepAlive.serves_schedule`), or all but the one that was given back
(`KeepAlive.serves_cancel`). The passing of time changes nothing as long as the clock can tell the
ticks (`KeepAlive.serves_advance`).
-/

namespace FlowPeers

variable {σ τ : Type}

/-- The jobs that some handles stand for, each as its number and its task. -/
def jobsOf (handles : List (Ticket × τ)) : List (Nat × τ) :=
  (handles.filter (·.1.isActive)).map fun handle => (handle.1.id, handle.2)

theorem jobsOf_append (handles handles' : List (Ticket × τ)) :
    jobsOf (handles ++ handles') = jobsOf handles ++ jobsOf handles' := by
  simp [jobsOf]

theorem jobsOf_perm {handles handles' : List (Ticket × τ)} (h : handles.Perm handles') :
    (jobsOf handles).Perm (jobsOf handles') :=
  (h.filter _).map _

theorem jobsOf_eq_nil_iff {handles : List (Ticket × τ)} :
    jobsOf handles = [] ↔ ∀ handle ∈ handles, handle.1.isActive = false := by
  simp [jobsOf]

namespace Job

/-- What an instant leaves alone in every job it leaves alone in a table of jobs. -/
theorem map_fireAll {β : Type} {f : Job τ → β} {launch : Launch σ τ} {now : Nat}
    (hf : ∀ job s, f (job.fire launch now s).1 = f job) (jobs : List (Job τ)) (s : σ) :
    (fireAll launch now jobs s).1.map f = jobs.map f := by
  induction jobs generalizing s with
  | nil => rfl
  | cons job rest ih => rw [fireAll_cons, List.map_cons, List.map_cons, hf, ih]

/-- While time passes for which the clock can tell the ticks, no job gets stuck, and each keeps its
number, its interval and its task. -/
theorem exists_walk_eq (launch : Launch σ τ) {limit ms now : Nat} {jobs : List (Job τ)}
    (hlimit : now + ms ≤ limit) (hjobs : ∀ job ∈ jobs, limit + job.interval ≤ KeepAlive.lastInstant)
    (s : σ) : ∃ jobs' s', walk launch ms now jobs s = (some jobs', s') ∧
      jobs'.map (fun job => (job.id, job.interval, job.task)) =
        jobs.map fun job => (job.id, job.interval, job.task) := by
  induction ms generalizing now jobs s with
  | zero => exact ⟨jobs, s, rfl, rfl⟩
  | succ ms ih =>
    have hstuck : jobs.any (isStuck (now + 1)) = false := by
      rw [List.any_eq_false]
      intro job hjob hstuck
      have hfits := hjobs job hjob
      rw [isStuck, Bool.and_eq_true, decide_eq_true_eq, decide_eq_true_eq] at hstuck
      omega
    have hkeys : (fireAll launch (now + 1) jobs s).1.map
        (fun job => (job.id, job.interval, job.task)) =
          jobs.map fun job => (job.id, job.interval, job.task) :=
      map_fireAll (fun job s => by rw [fire_id, fire_interval, fire_task]) jobs s
    have hjobs' : ∀ job ∈ (fireAll launch (now + 1) jobs s).1,
        limit + job.interval ≤ KeepAlive.lastInstant :=
      forall_mem_fireAll (fun job hjob s => by rw [fire_interval]; exact hjobs job hjob) s
    have hlimit' : now + 1 + ms ≤ limit := by omega
    obtain ⟨jobs', s', hwalk, hmap⟩ := ih hlimit' hjobs' (fireAll launch (now + 1) jobs s).2
    exact ⟨jobs', s', by rw [walk_succ hstuck, hwalk], hmap.trans hkeys⟩

end Job

namespace KeepAlive

/-- The jobs of a scheduler, each as its number and its task. -/
def entries (k : KeepAlive τ) : List (Nat × τ) :=
  k.jobs.map fun job => (job.id, job.task)

/-- Whether the clock can tell, at any instant up to `limit`, an instant that is one interval
later. -/
structure IsTimely (limit : Nat) (k : KeepAlive τ) : Prop where
  jobs : ∀ job ∈ k.jobs, limit + job.interval ≤ lastInstant
  inbox : ∀ id interval task, .schedule id interval task ∈ k.inbox → limit + interval ≤ lastInstant

/-- Whether a scheduler stops when it was told to shut down, and has no jobs then. -/
structure Obeys (now : Nat) (k : KeepAlive τ) : Prop where
  stopped_of_shut : k.isShutDown → (k.settle now).isStopped
  jobs_eq_nil : k.isStopped → k.jobs = []

/-- Whether a scheduler has the jobs that some handles stand for. -/
structure Serves (now limit : Nat) (k : KeepAlive τ) (handles : List (Ticket × τ)) : Prop
    extends k.Obeys now where
  sound : k.IsSound now
  timely : k.IsTimely limit
  nodup : (handles.map (·.1.id)).Nodup
  numbered : ∀ handle ∈ handles, handle.1.id < k.nextId
  /-- It has exactly one job for each handle that was accepted, or none if it was shut down. -/
  perm : (k.settle now).entries.Perm (if k.isShutDown then [] else jobsOf handles)
  /-- Nothing that it was told stops it but to shut down. -/
  shut_of_stopped : (k.settle now).isStopped → k.isShutDown ∨ k.isStopped

variable {now limit : Nat} {k : KeepAlive τ} {handles : List (Ticket × τ)}

/-! ## Shutting down -/

/-- A scheduler that stops has no jobs then. -/
theorem jobs_settle_eq_nil (h : k.isStopped → k.jobs = []) (now : Nat)
    (hstopped : (k.settle now).isStopped) : (k.settle now).jobs = [] := by
  have hreceiveAll : ∀ (notices : List (Notice τ)) (k : KeepAlive τ),
      (k.isStopped → k.jobs = []) → (k.receiveAll now notices).isStopped →
        (k.receiveAll now notices).jobs = [] := by
    intro notices
    induction notices with
    | nil => exact fun k h => h
    | cons notice rest ih =>
      intro k h
      rw [receiveAll]
      split
      · exact h
      · next hrunning =>
        refine ih _ ?_
        cases notice with
        | schedule id interval task =>
          rw [receive]
          split
          · exact fun hstop => absurd hstop hrunning
          · exact fun _ => rfl
        | cancel id => exact fun hstop => absurd hstop hrunning
        | shutDown => exact fun _ => rfl
  exact hreceiveAll k.inbox { k with inbox := [] } h hstopped

theorem obeys_start (now : Nat) : ({} : KeepAlive τ).Obeys now :=
  ⟨fun h => (nomatch h), fun _ => rfl⟩

theorem obeys_schedule (h : k.Obeys now) (interval : Nat) (task : τ) :
    (k.schedule interval task).1.Obeys now where
  stopped_of_shut := by
    rw [schedule_isShutDown]
    intro hshut
    rw [schedule_of_isClosed (.inl hshut)]
    have hsettle := settle_renumber now (k.nextId + 1) k.isShutDown k
    exact (congrArg isStopped hsettle).trans (h.stopped_of_shut hshut)
  jobs_eq_nil := by simpa using h.jobs_eq_nil

theorem settle_cancel_isStopped (now : Nat) (k : KeepAlive τ) (ticket : Ticket) :
    ((k.cancel ticket).settle now).isStopped = (k.settle now).isStopped := by
  rw [settle_cancel]
  split <;> rfl

theorem obeys_cancel (h : k.Obeys now) (ticket : Ticket) : (k.cancel ticket).Obeys now where
  stopped_of_shut := by
    rw [cancel_isShutDown, settle_cancel_isStopped]
    exact h.stopped_of_shut
  jobs_eq_nil := by simpa using h.jobs_eq_nil

theorem obeys_foldl_cancel (h : k.Obeys now) (tickets : List Ticket) :
    (tickets.foldl cancel k).Obeys now :=
  List.foldlRecOn tickets cancel h fun _ h ticket _ => obeys_cancel h ticket

theorem obeys_shutDown (h : k.Obeys now) : k.shutDown.Obeys now where
  stopped_of_shut := by
    intro _
    cases hshut : k.isShutDown with
    | true =>
      rw [shutDown, if_pos hshut]
      exact h.stopped_of_shut hshut
    | false =>
      rw [settle_shutDown now hshut]
      cases hold : (k.settle now).isStopped with
      | true => exact hold
      | false => rfl
  jobs_eq_nil := by simpa using h.jobs_eq_nil

theorem obeys_settle (h : k.Obeys now) : (k.settle now).Obeys now where
  stopped_of_shut := by
    rw [settle_of_inbox_eq_nil (settle_inbox now k), settle_isShutDown]
    exact h.stopped_of_shut
  jobs_eq_nil := jobs_settle_eq_nil h.jobs_eq_nil now

theorem obeys_stop (now : Nat) (k : KeepAlive τ) : k.stop.Obeys now where
  stopped_of_shut := fun _ => by
    rw [settle_of_isStopped rfl]
    rfl
  jobs_eq_nil := fun _ => rfl

/-- A scheduler that has stopped starts nothing, and time that passes changes nothing. -/
theorem advance_of_isStopped (h : k.Obeys now) (hstopped : (k.settle now).isStopped)
    (launch : Launch σ τ) (limit : Nat) (s : σ) :
    k.advance launch limit now s = (k.settle now, s) := by
  have hjobs := jobs_settle_eq_nil h.jobs_eq_nil now hstopped
  have hidle : Job.advance launch limit now ([] : List (Job τ)) s = (some [], s) := by
    rw [Job.advance]
    cases limit - now <;> rfl
  rw [advance, hjobs, hidle]
  simp only [← hjobs]

theorem obeys_advance (h : k.Obeys now) (launch : Launch σ τ) (limit : Nat) (s : σ) :
    (k.advance launch limit now s).1.Obeys limit := by
  have hsettled := obeys_settle h
  cases hstopped : (k.settle now).isStopped with
  | true =>
    rw [advance_of_isStopped h hstopped]
    refine ⟨fun _ => ?_, hsettled.jobs_eq_nil⟩
    rwa [settle_of_inbox_eq_nil (settle_inbox now k)]
  | false =>
    have hopen : ¬ (k.advance launch limit now s).1.isShutDown := by
      rw [advance_isShutDown]
      exact fun hshut => absurd (h.stopped_of_shut hshut) (by simp [hstopped])
    refine ⟨fun hshut => absurd hshut hopen, ?_⟩
    rw [advance]
    split
    · exact fun hstop => absurd hstop (by simp [hstopped])
    · exact fun _ => rfl

/-! ## Serving handles -/

theorem isTimely_settle (h : k.IsTimely limit) : (k.settle now).IsTimely limit where
  jobs := forall_mem_settle h.jobs fun id interval task hmem _ => h.inbox id interval task hmem
  inbox := by simp

theorem serves_start (now limit : Nat) : ({} : KeepAlive τ).Serves now limit [] where
  sound := isSound_start now
  timely := ⟨by simp, by simp⟩
  nodup := List.nodup_nil
  numbered := by simp
  perm := .refl []
  shut_of_stopped := fun h => nomatch h
  toObeys := obeys_start now

theorem Serves.of_perm (h : k.Serves now limit handles) {handles' : List (Ticket × τ)}
    (hperm : handles.Perm handles') : k.Serves now limit handles' where
  sound := h.sound
  timely := h.timely
  nodup := (hperm.map _).nodup h.nodup
  numbered := fun handle hmem => h.numbered handle (hperm.mem_iff.2 hmem)
  perm := by
    refine h.perm.trans ?_
    cases k.isShutDown with
    | true => exact .refl _
    | false => exact jobsOf_perm hperm
  shut_of_stopped := h.shut_of_stopped
  toObeys := h.toObeys

theorem isTimely_schedule (h : k.IsTimely limit) {interval : Nat}
    (hfits : limit + max interval shortestInterval ≤ lastInstant) (task : τ) :
    (k.schedule interval task).1.IsTimely limit where
  jobs := by simpa using h.jobs
  inbox := by
    intro id interval' task' hmem
    rcases mem_inbox_schedule hmem with hmem | ⟨-, rfl, -⟩
    · exact h.inbox id interval' task' hmem
    · exact hfits

/-- A scheduler that was given a task serves one more handle, which is inert if it was shut down or
has stopped. -/
theorem serves_schedule (h : k.Serves now limit handles) (hnow : now ≤ limit) {interval : Nat}
    (hfits : limit + max interval shortestInterval ≤ lastInstant) (task : τ) :
    (k.schedule interval task).1.Serves now limit
      (handles ++ [((k.schedule interval task).2, task)]) := by
  have hids : ((handles ++ [((k.schedule interval task).2, task)]).map (·.1.id)).Nodup := by
    rw [List.map_append, List.nodup_append]
    refine ⟨h.nodup, by simp, ?_⟩
    simpa using fun id ticket task hmem heq => heq ▸ Nat.ne_of_lt (h.numbered _ hmem)
  have hnumbered : ∀ handle ∈ handles ++ [((k.schedule interval task).2, task)],
      handle.1.id < (k.schedule interval task).1.nextId := by
    rw [schedule_nextId]
    refine List.forall_mem_append.2 ⟨fun handle hmem => Nat.lt_succ_of_lt (h.numbered _ hmem), ?_⟩
    simp
  by_cases hclosed : k.isShutDown ∨ k.isStopped
  · have hsettle := settle_renumber now (k.nextId + 1) k.isShutDown k
    have hsound := isSound_schedule h.sound interval task
    have htimely := isTimely_schedule h.timely hfits task
    have hobeys := obeys_schedule h.toObeys interval task
    rw [schedule_of_isClosed hclosed] at hids hnumbered hsound htimely hobeys ⊢
    exact
      { sound := hsound
        timely := htimely
        nodup := hids
        numbered := hnumbered
        perm := by
          rw [jobsOf_append, show jobsOf [((⟨k.nextId, false⟩ : Ticket), task)] = [] from rfl,
            List.append_nil]
          exact (congrArg entries hsettle) ▸ h.perm
        shut_of_stopped := fun hstopped =>
          h.shut_of_stopped ((congrArg isStopped hsettle).symm.trans hstopped)
        toObeys := hobeys }
  · have hrunning : (k.settle now).isStopped = false := by
      rw [Bool.eq_false_iff]
      exact fun hstopped => hclosed (h.shut_of_stopped hstopped)
    rw [not_or, Bool.not_eq_true, Bool.not_eq_true] at hclosed
    obtain ⟨hopen, hgoing⟩ := hclosed
    have hsettle := settle_schedule hopen hrunning
      (show now + max interval shortestInterval ≤ lastInstant by omega) task
    have hactive : (k.schedule interval task).2 = ⟨k.nextId, true⟩ := by
      rw [schedule, if_neg (by simp [hopen, hgoing])]
    refine
      { sound := isSound_schedule h.sound interval task
        timely := isTimely_schedule h.timely hfits task
        nodup := hids
        numbered := hnumbered
        perm := ?_
        shut_of_stopped := ?_
        toObeys := obeys_schedule h.toObeys interval task }
    · have hperm := h.perm
      rw [hopen, if_neg Bool.false_ne_true] at hperm
      rw [schedule_isShutDown, hopen, if_neg Bool.false_ne_true, hsettle, hactive, jobsOf_append,
        entries, List.map_append]
      exact hperm.append_right _
    · rw [hsettle]
      exact fun hstopped => absurd hstopped (by simp [hrunning])

theorem isTimely_cancel (h : k.IsTimely limit) (ticket : Ticket) :
    (k.cancel ticket).IsTimely limit where
  jobs := by simpa using h.jobs
  inbox := by simpa using h.inbox

theorem isTimely_shutDown (h : k.IsTimely limit) : k.shutDown.IsTimely limit where
  jobs := by simpa using h.jobs
  inbox := by simpa using h.inbox

/-- The jobs of other handles have other numbers. -/
theorem filter_jobsOf_cons {ticket : Ticket} {task : τ}
    (h : (((ticket, task) :: handles).map (·.1.id)).Nodup) :
    (jobsOf ((ticket, task) :: handles)).filter (·.1 != ticket.id) = jobsOf handles := by
  obtain ⟨hnew, -⟩ := List.nodup_cons.1 h
  have hothers : (jobsOf handles).filter (·.1 != ticket.id) = jobsOf handles := by
    rw [List.filter_eq_self]
    intro entry hmem
    obtain ⟨handle, hhandle, rfl⟩ := List.mem_map.1 hmem
    rw [bne_iff_ne]
    exact fun heq => hnew (List.mem_map.2 ⟨handle, (List.mem_filter.1 hhandle).1, heq⟩)
  rw [← List.singleton_append, jobsOf_append, List.filter_append, hothers]
  cases hactive : ticket.isActive <;> simp [jobsOf, hactive]

/-- A scheduler that was told to take a job back serves the other handles. -/
theorem serves_cancel {ticket : Ticket} {task : τ}
    (h : k.Serves now limit ((ticket, task) :: handles)) :
    (k.cancel ticket).Serves now limit handles := by
  refine
    { sound := isSound_cancel h.sound ticket
      timely := isTimely_cancel h.timely ticket
      nodup := (List.nodup_cons.1 h.nodup).2
      numbered := ?_
      perm := ?_
      shut_of_stopped := ?_
      toObeys := obeys_cancel h.toObeys ticket }
  · rw [cancel_nextId]
    exact (List.forall_mem_cons.1 h.numbered).2
  · have hperm := h.perm
    rw [cancel_isShutDown, settle_cancel]
    cases hshut : k.isShutDown with
    | true =>
      rw [hshut, if_pos rfl] at hperm
      rwa [h.stopped_of_shut hshut, Bool.not_true, Bool.and_false, if_neg Bool.false_ne_true,
        if_pos rfl]
    | false =>
      rw [hshut, if_neg Bool.false_ne_true] at hperm
      rw [if_neg Bool.false_ne_true]
      have hfilter := hperm.filter (·.1 != ticket.id)
      rw [filter_jobsOf_cons h.nodup] at hfilter
      split
      · rw [entries, List.filter_map] at hfilter
        exact hfilter
      · next hkept =>
        -- nothing is taken back as the handle stands for no job
        have hinactive : ticket.isActive = false := by
          rw [Bool.eq_false_iff]
          intro hactive
          have hnil := jobs_settle_eq_nil h.jobs_eq_nil now (by simpa [hactive] using hkept)
          have hlength := hperm.length_eq
          simp [entries, hnil, jobsOf, hactive] at hlength
        have hother : jobsOf ((ticket, task) :: handles) = jobsOf handles := by
          simp [jobsOf, hinactive]
        rwa [hother] at hperm
  · rw [cancel_isShutDown, cancel_isStopped, settle_cancel_isStopped]
    exact h.shut_of_stopped

theorem serves_shutDown (h : k.Serves now limit handles) :
    k.shutDown.Serves now limit handles := by
  have hobeys := obeys_shutDown h.toObeys
  have hnil := jobs_settle_eq_nil hobeys.jobs_eq_nil now (hobeys.stopped_of_shut (by simp))
  exact
    { sound := isSound_shutDown h.sound
      timely := isTimely_shutDown h.timely
      nodup := h.nodup
      numbered := by simpa using h.numbered
      perm := by rw [shutDown_isShutDown, if_pos rfl, entries, hnil]; exact .refl []
      shut_of_stopped := fun _ => .inl (by simp)
      toObeys := hobeys }

theorem serves_settle (h : k.Serves now limit handles) :
    (k.settle now).Serves now limit handles := by
  have hsettle : (k.settle now).settle now = k.settle now :=
    settle_of_inbox_eq_nil (settle_inbox now k)
  exact
    { sound := isSound_settle h.sound
      timely := isTimely_settle h.timely
      nodup := h.nodup
      numbered := by simpa using h.numbered
      perm := by rw [hsettle, settle_isShutDown]; exact h.perm
      shut_of_stopped := by rw [hsettle]; exact .inr
      toObeys := obeys_settle h.toObeys }

/-- A scheduler that has received everything may stop if no handle stands for a job. -/
theorem serves_stop (h : k.Serves now limit handles) (hinbox : k.inbox = [])
    (hhandles : jobsOf handles = []) : k.stop.Serves now limit handles := by
  have hsettle : k.stop.settle now = k.stop := settle_of_inbox_eq_nil hinbox
  exact
    { sound := isSound_stop h.sound
      timely := ⟨by simp [stop], h.timely.inbox⟩
      nodup := h.nodup
      numbered := h.numbered
      perm := by rw [hsettle, hhandles, ite_self]; exact .refl []
      shut_of_stopped := fun _ => .inr rfl
      toObeys := obeys_stop now k }

/-- While time passes a scheduler keeps its jobs. -/
theorem exists_advance_eq (h : k.Serves now limit handles) {now' : Nat} (hnow : now ≤ now')
    (hlimit : now' ≤ limit) (launch : Launch σ τ) (s : σ) :
    ∃ jobs s', k.advance launch now' now s = ({ k.settle now with jobs := jobs }, s') ∧
      jobs.map (fun job => (job.id, job.interval, job.task)) =
        (k.settle now).jobs.map fun job => (job.id, job.interval, job.task) := by
  have htime : now + (now' - now) ≤ limit := by omega
  obtain ⟨jobs, s', hwalk, hkeys⟩ :=
    Job.exists_walk_eq launch htime (isTimely_settle h.timely).jobs s
  refine ⟨jobs, s', ?_, hkeys⟩
  rw [advance_eq_walk h.sound, hwalk]
  rfl

/-- While time passes a scheduler goes on to serve the same handles. -/
theorem serves_advance (h : k.Serves now limit handles) {now' : Nat} (hnow : now ≤ now')
    (hlimit : now' ≤ limit) (launch : Launch σ τ) (s : σ) :
    (k.advance launch now' now s).1.Serves now' limit handles := by
  have hsound : (k.advance launch now' now s).1.IsSound now' := isSound_advance h.sound hnow s
  have hobeys := obeys_advance h.toObeys launch now' s
  obtain ⟨jobs, s', hadvance, hkeys⟩ := exists_advance_eq h hnow hlimit launch s
  rw [hadvance] at hsound hobeys ⊢
  have hsettle : settle now' { k.settle now with jobs := jobs } =
      { k.settle now with jobs := jobs } :=
    settle_of_inbox_eq_nil (settle_inbox now k)
  have hentries : entries { k.settle now with jobs := jobs } = (k.settle now).entries := by
    have hmap := congrArg (List.map fun key : Nat × Nat × τ => (key.1, key.2.2)) hkeys
    simpa [entries, Function.comp_def] using hmap
  have hintervals : ∀ job ∈ jobs, limit + job.interval ≤ lastInstant := by
    intro job hjob
    have hmem : (job.id, job.interval, job.task) ∈
        (k.settle now).jobs.map fun job => (job.id, job.interval, job.task) :=
      hkeys ▸ List.mem_map_of_mem hjob
    obtain ⟨old, hold, heq⟩ := List.mem_map.1 hmem
    rw [← (Prod.mk.inj (Prod.mk.inj heq).2).1]
    exact (isTimely_settle h.timely).jobs old hold
  refine
    { sound := hsound
      timely := ⟨hintervals, by simp⟩
      nodup := h.nodup
      numbered := by simpa using h.numbered
      perm := ?_
      shut_of_stopped := ?_
      toObeys := hobeys }
  · rw [hsettle, hentries]
    simpa using h.perm
  · rw [hsettle]
    exact .inr

/-- A scheduler that was told to take some jobs of a task back serves the other handles. -/
theorem serves_foldl_cancel {task : τ} {tickets : List Ticket}
    (h : k.Serves now limit (tickets.map (·, task) ++ handles)) :
    (tickets.foldl cancel k).Serves now limit handles := by
  induction tickets generalizing k with
  | nil => exact h
  | cons ticket rest ih => exact ih (serves_cancel h)

end KeepAlive

end FlowPeers
