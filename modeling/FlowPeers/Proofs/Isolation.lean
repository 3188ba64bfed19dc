import FlowPeers.Proofs.Scheduler

/-!
# What one job is to the others

A `Timeline` is a scheduler in time whose jobs do nothing but write down that they were started,
each under its number; what is done with it and the times that pass are `Turn`s. How long runs last
is arbitrary, but is a matter of the job and the instant alone.

Leaving a job out of a timeline leaves all others as they are, as long as the clock can tell the
ticks of that job (`Timeline.follow_without`): the others are started at the same instants, and what
is scheduled later is accepted and runs as it would.
-/

namespace FlowPeers

/-- A scheduler in time, and the runs that were started: when, and the numbers of their jobs. -/
structure Timeline where
  now : Nat
  keepAlive : KeepAlive Nat
  starts : List (Nat × Nat)

/-- What is done with a scheduler, or a time that passes. -/
inductive Turn where
  | schedule (interval : Nat)
  | cancel (ticket : Ticket)
  | shutDown
  | pass (ms : Nat)

namespace Timeline

/-- Writes down that a job is started; `lengths` says how long its runs last. -/
def launch (lengths : Nat → Nat → Option Nat) : Launch (List (Nat × Nat)) Nat :=
  fun now id starts => (starts ++ [(now, id)], lengths id now)

/-- A timeline after a turn. What is scheduled has its number as its task. -/
def take (lengths : Nat → Nat → Option Nat) (t : Timeline) : Turn → Timeline
  | .schedule interval =>
    { t with keepAlive := (t.keepAlive.schedule interval t.keepAlive.nextId).1 }
  | .cancel ticket => { t with keepAlive := t.keepAlive.cancel ticket }
  | .shutDown => { t with keepAlive := t.keepAlive.shutDown }
  | .pass ms =>
    let (keepAlive, starts) := t.keepAlive.advance (launch lengths) (t.now + ms) t.now t.starts
    ⟨t.now + ms, keepAlive, starts⟩

/-- A timeline after some turns. -/
def follow (lengths : Nat → Nat → Option Nat) (t : Timeline) : List Turn → Timeline
  | [] => t
  | turn :: rest => follow lengths (t.take lengths turn) rest

variable {lengths : Nat → Nat → Option Nat}

theorem follow_append (t : Timeline) (turns turns' : List Turn) :
    t.follow lengths (turns ++ turns') = (t.follow lengths turns).follow lengths turns' := by
  induction turns generalizing t with
  | nil => rfl
  | cons turn rest ih => exact ih (t.take lengths turn)

theorem now_le_take (t : Timeline) (turn : Turn) : t.now ≤ (t.take lengths turn).now := by
  cases turn with
  | pass ms => exact Nat.le_add_right t.now ms
  | _ => exact Nat.le_refl _

theorem now_le_follow (t : Timeline) (turns : List Turn) :
    t.now ≤ (t.follow lengths turns).now := by
  induction turns generalizing t with
  | nil => exact Nat.le_refl _
  | cons turn rest ih => exact Nat.le_trans (t.now_le_take turn) (ih (t.take lengths turn))

end Timeline

/-! ## Leaving a job out -/

/-- Whether a notice schedules a task. -/
def Notice.isFor (n : Nat) : Notice Nat → Bool
  | .schedule _ _ task => task == n
  | _ => false

/-- The scheduler without the jobs of a task. -/
def KeepAlive.without (n : Nat) (k : KeepAlive Nat) : KeepAlive Nat :=
  { k with inbox := k.inbox.filter (!·.isFor n), jobs := k.jobs.filter (·.task != n) }

/-- The timeline without the jobs of a task, and without their runs. -/
def Timeline.without (n : Nat) (t : Timeline) : Timeline where
  now := t.now
  keepAlive := t.keepAlive.without n
  starts := t.starts.filter (·.2 != n)

/-- Whether a job has a tick at an instant to come. -/
def Job.LeadsTo (last : Nat) (job : Job Nat) : Prop :=
  ∃ m, job.next + m * job.interval = last

namespace Job

variable {lengths : Nat → Nat → Option Nat} {n last now : Nat} {job : Job Nat}

theorem fire_without_of_ne (h : job.task ≠ n) (starts : List (Nat × Nat)) :
    job.fire (Timeline.launch lengths) now (starts.filter (·.2 != n)) =
      ((job.fire (Timeline.launch lengths) now starts).1,
        (job.fire (Timeline.launch lengths) now starts).2.filter (·.2 != n)) := by
  rw [fire, fire]
  split
  · split
    · rfl
    · simp [Timeline.launch, h]
  · rfl

theorem fire_without_of_eq (h : job.task = n) (starts : List (Nat × Nat)) :
    (job.fire (Timeline.launch lengths) now starts).2.filter (·.2 != n) =
      starts.filter (·.2 != n) := by
  rw [fire]
  split
  · split
    · rfl
    · simp [Timeline.launch, h]
  · rfl

/-- At an instant the other jobs do not notice that one is left out. -/
theorem fireAll_without (jobs : List (Job Nat)) (starts : List (Nat × Nat)) :
    fireAll (Timeline.launch lengths) now (jobs.filter (·.task != n)) (starts.filter (·.2 != n)) =
      ((fireAll (Timeline.launch lengths) now jobs starts).1.filter (·.task != n),
        (fireAll (Timeline.launch lengths) now jobs starts).2.filter (·.2 != n)) := by
  induction jobs generalizing starts with
  | nil => rfl
  | cons job rest ih =>
    rw [fireAll_cons]
    by_cases h : job.task = n
    · rw [List.filter_cons_of_neg (by simpa using h), List.filter_cons_of_neg (by simpa using h),
        ← fire_without_of_eq h starts, ih]
    · rw [List.filter_cons_of_pos (by simpa using h), List.filter_cons_of_pos (by simpa using h),
        fireAll_cons, fire_without_of_ne h, ih]

/-- A job that has a tick later on is not stuck before it, if the clock can tell that tick. -/
theorem LeadsTo.isStuck_eq_false (h : job.LeadsTo last) (hwaiting : job.IsWaiting now)
    (hnow : now + 1 < last) (hlast : last ≤ KeepAlive.lastInstant) :
    job.isStuck (now + 1) = false := by
  obtain ⟨m, rfl⟩ := h
  have hlt := hwaiting.lt_next
  rw [Bool.eq_false_iff]
  intro hstuck
  simp only [isStuck, Bool.and_eq_true, decide_eq_true_eq] at hstuck
  cases m with
  | zero => omega
  | succ m =>
    rw [Nat.add_mul, Nat.one_mul] at hlast
    omega

theorem LeadsTo.fire (h : job.LeadsTo last) (hwaiting : job.IsWaiting now) (hnow : now + 1 < last)
    (starts : List (Nat × Nat)) :
    (job.fire (Timeline.launch lengths) (now + 1) starts).1.LeadsTo last := by
  obtain ⟨m, hm⟩ := h
  have hlt := hwaiting.lt_next
  rw [LeadsTo, fire_next, fire_interval]
  split
  · cases m with
    | zero => omega
    | succ m =>
      refine ⟨m, ?_⟩
      rw [← hm, Nat.add_mul, Nat.one_mul]
      omega
  · exact ⟨m, hm⟩

theorem any_isStuck_without (n now : Nat) {jobs : List (Job Nat)}
    (h : ∀ job ∈ jobs, job.task = n → job.isStuck now = false) :
    (jobs.filter (·.task != n)).any (isStuck now) = jobs.any (isStuck now) := by
  rw [List.any_filter, Bool.eq_iff_iff, List.any_eq_true, List.any_eq_true]
  constructor
  · rintro ⟨job, hjob, hstuck⟩
    exact ⟨job, hjob, (Bool.and_eq_true_iff.1 hstuck).2⟩
  · rintro ⟨job, hjob, hstuck⟩
    refine ⟨job, hjob, Bool.and_eq_true_iff.2 ⟨?_, hstuck⟩⟩
    rw [bne_iff_ne]
    intro hn
    rw [h job hjob hn] at hstuck
    contradiction

/-- While time passes the other jobs do not notice that one is left out whose ticks the clock can
tell. -/
theorem walk_without (lengths : Nat → Nat → Option Nat) {ms : Nat} {jobs : List (Job Nat)}
    (starts : List (Nat × Nat)) (hlast : last ≤ KeepAlive.lastInstant) (hms : now + ms < last)
    (hwaiting : ∀ job ∈ jobs, job.IsWaiting now)
    (hleads : ∀ job ∈ jobs, job.task = n → job.LeadsTo last) :
    walk (Timeline.launch lengths) ms now (jobs.filter (·.task != n)) (starts.filter (·.2 != n)) =
      ((walk (Timeline.launch lengths) ms now jobs starts).1.map (·.filter (·.task != n)),
        (walk (Timeline.launch lengths) ms now jobs starts).2.filter (·.2 != n)) := by
  induction ms generalizing now jobs starts with
  | zero => rfl
  | succ ms ih =>
    have hany := any_isStuck_without n (now + 1) fun job hjob hn =>
      (hleads job hjob hn).isStuck_eq_false (hwaiting job hjob) (by omega) hlast
    cases hstuck : jobs.any (isStuck (now + 1)) with
    | true =>
      rw [walk_succ_of_any (hany.trans hstuck), walk_succ_of_any hstuck]
      rfl
    | false =>
      rw [walk_succ (hany.trans hstuck), walk_succ hstuck, fireAll_without]
      refine ih _ (by omega) ?_ ?_
      · exact forall_mem_fireAll (fun job hjob s =>
          isWaiting_fire (hwaiting job hjob).interval_pos _ s) starts
      · refine forall_mem_fireAll (P := fun job => job.task = n → job.LeadsTo last) ?_ starts
        intro job hjob s hn
        rw [fire_task] at hn
        exact (hleads job hjob hn).fire (hwaiting job hjob) (by omega) s

end Job

namespace KeepAlive

variable {n now : Nat} {k : KeepAlive Nat}

theorem without_schedule {task : Nat} (h : task ≠ n) (k : KeepAlive Nat) (interval : Nat) :
    ((k.without n).schedule interval task).1 = (k.schedule interval task).1.without n := by
  rw [schedule, schedule]
  split
  · next hclosed => rw [if_pos (by exact hclosed), without, without]
  · next hopen =>
    rw [if_neg (by exact hopen), without, without]
    simp [Notice.isFor, h]

theorem without_cancel (k : KeepAlive Nat) (ticket : Ticket) :
    (k.without n).cancel ticket = (k.cancel ticket).without n := by
  rw [cancel, cancel]
  split
  · simp [without, Notice.isFor]
  · rfl

theorem without_shutDown (k : KeepAlive Nat) : (k.without n).shutDown = k.shutDown.without n := by
  rw [shutDown, shutDown]
  split
  · next hshut => rw [if_pos (by exact hshut)]
  · next hshut =>
    rw [if_neg (by exact hshut)]
    simp [without, Notice.isFor]

theorem receive_without_of_not_isFor {notice : Notice Nat} (h : notice.isFor n = false)
    (k : KeepAlive Nat) : (k.without n).receive now notice = (k.receive now notice).without n := by
  cases notice with
  | schedule id interval task =>
    rw [receive, receive]
    split
    · simp only [Notice.isFor, beq_eq_false_iff_ne] at h
      simp [without, h]
    · rfl
  | cancel id =>
    simp only [receive, without, List.filter_filter]
    congr 2
    funext job
    exact Bool.and_comm ..
  | shutDown => rfl

theorem receive_without_of_isFor {id interval : Nat} (h : now + interval ≤ lastInstant)
    (k : KeepAlive Nat) : (k.receive now (.schedule id interval n)).without n = k.without n := by
  rw [receive, if_pos h]
  simp [without]

/-- What a scheduler is told it receives as it would without a job whose first tick the clock can
tell. -/
theorem receiveAll_without {notices : List (Notice Nat)}
    (h : ∀ id interval, .schedule id interval n ∈ notices → now + interval ≤ lastInstant)
    (k : KeepAlive Nat) : (k.without n).receiveAll now (notices.filter (!·.isFor n)) =
      (k.receiveAll now notices).without n := by
  induction notices generalizing k with
  | nil => rfl
  | cons notice rest ih =>
    have hrest : ∀ id interval, .schedule id interval n ∈ rest → now + interval ≤ lastInstant :=
      fun id interval hmem => h id interval (List.mem_cons_of_mem _ hmem)
    have hstopped : (k.without n).isStopped = k.isStopped := rfl
    cases hfor : notice.isFor n with
    | true =>
      rw [List.filter_cons_of_neg (by simp [hfor]), receiveAll]
      split
      · next hstop => cases rest.filter (!·.isFor n) <;> simp [receiveAll, hstopped, hstop]
      · obtain ⟨id, interval, rfl⟩ : ∃ id interval, notice = .schedule id interval n := by
          cases notice with
          | schedule id interval task =>
            rw [Notice.isFor, beq_iff_eq] at hfor
            exact ⟨id, interval, by rw [hfor]⟩
          | cancel id => contradiction
          | shutDown => contradiction
        rw [← ih hrest, receive_without_of_isFor (h id interval (List.mem_cons_self ..))]
    | false =>
      rw [List.filter_cons_of_pos (by simp [hfor]), receiveAll, receiveAll, hstopped]
      split
      · rfl
      · rw [receive_without_of_not_isFor hfor, ih hrest]

theorem settle_without
    (h : ∀ id interval, .schedule id interval n ∈ k.inbox → now + interval ≤ lastInstant) :
    (k.without n).settle now = (k.settle now).without n :=
  receiveAll_without h { k with inbox := [] }

end KeepAlive

namespace Timeline

variable {lengths : Nat → Nat → Option Nat} {n last : Nat} {t : Timeline}

/-- Whether a task, the first of whose runs is still to come, has a tick at an instant to come, in
each of its jobs. -/
structure Leads (n last : Nat) (t : Timeline) : Prop where
  sound : t.keepAlive.IsSound t.now
  jobs : ∀ job ∈ t.keepAlive.jobs, job.task = n → job.LeadsTo last
  inbox : ∀ id interval, .schedule id interval n ∈ t.keepAlive.inbox →
    ∃ m, t.now + (m + 1) * interval = last
  lt_nextId : n < t.keepAlive.nextId

theorem Leads.fits (h : t.Leads n last) (hlast : last ≤ KeepAlive.lastInstant) (id interval : Nat)
    (hmem : .schedule id interval n ∈ t.keepAlive.inbox) :
    t.now + interval ≤ KeepAlive.lastInstant := by
  obtain ⟨m, hm⟩ := h.inbox id interval hmem
  rw [Nat.add_mul, Nat.one_mul] at hm
  omega

theorem Leads.settled (h : t.Leads n last) :
    ∀ job ∈ (t.keepAlive.settle t.now).jobs, job.task = n → job.LeadsTo last := by
  refine KeepAlive.forall_mem_settle h.jobs ?_
  rintro id interval task hmem - rfl
  obtain ⟨m, hm⟩ := h.inbox id interval hmem
  refine ⟨m, ?_⟩
  show t.now + interval + m * interval = last
  rw [← hm, Nat.add_mul, Nat.one_mul]
  omega

/-- When time has passed nothing is left to be received. -/
theorem inbox_pass (h : t.keepAlive.IsSound t.now) (ms : Nat) :
    (t.take lengths (.pass ms)).keepAlive.inbox = [] := by
  simp [take, KeepAlive.advance_eq_walk h]

/-- The passing of time does not notice that a job is left out. -/
theorem pass_without (h : t.Leads n last) (hlast : last ≤ KeepAlive.lastInstant) {ms : Nat}
    (hms : t.now + ms < last) :
    (t.without n).take lengths (.pass ms) = (t.take lengths (.pass ms)).without n := by
  have hsettle := KeepAlive.settle_without (h.fits hlast)
  have hsound : (t.keepAlive.without n).IsSound t.now :=
    { waiting := fun job hjob => h.sound.waiting job (List.mem_filter.1 hjob).1
      numbered := fun job hjob => h.sound.numbered job (List.mem_filter.1 hjob).1
      noticed := fun id interval task hmem =>
        h.sound.noticed id interval task (List.mem_filter.1 hmem).1 }
  have hwalk := Job.walk_without lengths t.starts hlast hms
    (KeepAlive.isSound_settle h.sound).waiting h.settled
  simp only [take, without]
  rw [KeepAlive.advance_eq_walk h.sound, KeepAlive.advance_eq_walk hsound, hsettle]
  simp only [Nat.add_sub_cancel_left]
  rw [show ((t.keepAlive.settle t.now).without n).jobs =
    (t.keepAlive.settle t.now).jobs.filter (·.task != n) from rfl, hwalk]
  cases (Job.walk (launch lengths) ms t.now (t.keepAlive.settle t.now).jobs t.starts).1 <;> rfl

theorem leads_pass (h : t.Leads n last) {ms : Nat} (hms : t.now + ms < last) :
    (t.take lengths (.pass ms)).Leads n last := by
  have hadvance := KeepAlive.advance_eq_walk h.sound (launch lengths) (t.now + ms) t.starts
  have hsettle := KeepAlive.isSound_settle h.sound
  rw [Nat.add_sub_cancel_left] at hadvance
  refine
    { sound := KeepAlive.isSound_advance h.sound (Nat.le_add_right _ _) t.starts
      jobs := ?_
      inbox := ?_
      lt_nextId := ?_ }
  · simp only [take, hadvance]
    cases hwalk : Job.walk (launch lengths) ms t.now (t.keepAlive.settle t.now).jobs t.starts with
    | mk jobs? starts =>
      cases jobs? with
      | none => simp [KeepAlive.resume, KeepAlive.stop]
      | some jobs =>
        have hkept := Job.forall_mem_walk
          (P := fun now job => job.IsWaiting now ∧ (job.task = n → job.LeadsTo last))
          (fun now hle hlt job s hjob _ => ⟨Job.isWaiting_fire hjob.1.interval_pos _ s, fun hn =>
            (hjob.2 (by rwa [Job.fire_task] at hn)).fire hjob.1 (by omega) s⟩)
          hwalk fun job hjob => ⟨hsettle.waiting job hjob, h.settled job hjob⟩
        exact fun job hjob => (hkept job hjob).2
  · simp [inbox_pass h.sound]
  · simpa [take, hadvance] using h.lt_nextId

/-- No turn notices that a job is left out whose ticks the clock can tell. -/
theorem take_without (h : t.Leads n last) (hlast : last ≤ KeepAlive.lastInstant) {turn : Turn}
    (hnow : (t.take lengths turn).now < last) :
    (t.without n).take lengths turn = (t.take lengths turn).without n ∧
      (t.take lengths turn).Leads n last := by
  cases turn with
  | schedule interval =>
    have hne : t.keepAlive.nextId ≠ n := Nat.ne_of_gt h.lt_nextId
    refine ⟨?_, KeepAlive.isSound_schedule h.sound interval _, ?_, ?_, ?_⟩
    · exact congrArg (Timeline.mk t.now · _) (KeepAlive.without_schedule hne t.keepAlive interval)
    · simpa [take] using h.jobs
    · intro id interval' hmem
      rcases KeepAlive.mem_inbox_schedule hmem with hmem | ⟨-, -, htask⟩
      · exact h.inbox id interval' hmem
      · exact absurd htask.symm hne
    · simpa [take] using Nat.lt_succ_of_lt h.lt_nextId
  | cancel ticket =>
    refine ⟨?_, KeepAlive.isSound_cancel h.sound ticket, ?_, ?_, ?_⟩
    · exact congrArg (Timeline.mk t.now · _) (KeepAlive.without_cancel t.keepAlive ticket)
    · simpa [take] using h.jobs
    · simpa [take] using h.inbox
    · simpa [take] using h.lt_nextId
  | shutDown =>
    refine ⟨?_, KeepAlive.isSound_shutDown h.sound, ?_, ?_, ?_⟩
    · exact congrArg (Timeline.mk t.now · _) (KeepAlive.without_shutDown t.keepAlive)
    · simpa [take] using h.jobs
    · simpa [take] using h.inbox
    · simpa [take] using h.lt_nextId
  | pass ms => exact ⟨pass_without h hlast hnow, leads_pass h hnow⟩

/-- **Jobs are isolated.** As long as the clock can tell the ticks of a job, nothing that is done
with a scheduler has another effect than it has without that job. -/
theorem follow_without (h : t.Leads n last) (hlast : last ≤ KeepAlive.lastInstant)
    {turns : List Turn} (hnow : (t.follow lengths turns).now < last) :
    (t.without n).follow lengths turns = (t.follow lengths turns).without n ∧
      (t.follow lengths turns).Leads n last := by
  induction turns generalizing t with
  | nil => exact ⟨rfl, h⟩
  | cons turn rest ih =>
    have hturn : (t.take lengths turn).now < last :=
      Nat.lt_of_le_of_lt ((t.take lengths turn).now_le_follow rest) hnow
    obtain ⟨heq, hleads⟩ := take_without h hlast hturn
    rw [follow, follow, heq]
    exact ih hleads hnow

end Timeline

end FlowPeers
