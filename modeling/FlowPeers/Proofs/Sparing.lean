import FlowPeers.Proofs.Isolation

/-!
# Whether a new job spares the others

What becomes of a scheduler that is given a job is compared with what becomes of it without
(`KeepAlive.joined`, `KeepAlive.spared`). The job spares the others until an instant
(`KeepAlive.Spares`) if they are started at the same instants whatever is done until then, and if
what is scheduled later is accepted and runs, wherever the scheduler would run without the job.

A job does so if and only if the clock can tell its first tick after that instant
(`KeepAlive.spares_iff`).
-/

namespace FlowPeers

variable {τ : Type}

/-! ## Numbers as tasks -/

/-- A notice with the number of its job as the task. -/
def Notice.label : Notice τ → Notice Nat
  | .schedule id interval _ => .schedule id interval id
  | .cancel id => .cancel id
  | .shutDown => .shutDown

/-- A job with its number as its task. -/
def Job.label (job : Job τ) : Job Nat :=
  ⟨job.id, job.interval, job.next, job.id, job.busyUntil⟩

namespace KeepAlive

/-- A scheduler whose jobs have their numbers as tasks. -/
def label (k : KeepAlive τ) : KeepAlive Nat where
  nextId := k.nextId
  isShutDown := k.isShutDown
  isStopped := k.isStopped
  inbox := k.inbox.map Notice.label
  jobs := k.jobs.map Job.label

theorem label_schedule (k : KeepAlive τ) (interval : Nat) (task : τ) :
    (k.schedule interval task).1.label = (k.label.schedule interval k.nextId).1 := by
  rw [schedule, schedule]
  split
  · next hclosed => rw [if_pos (by exact hclosed), label, label]
  · next hopen =>
    rw [if_neg (by exact hopen), label, label]
    simp [Notice.label]

theorem schedule_mem_label {k : KeepAlive τ} {id interval n : Nat}
    (h : .schedule id interval n ∈ k.label.inbox) :
    n = id ∧ ∃ task, .schedule id interval task ∈ k.inbox := by
  obtain ⟨notice, hmem, heq⟩ := List.mem_map.1 h
  cases notice with
  | schedule id' interval' task =>
    simp only [Notice.label, Notice.schedule.injEq] at heq
    obtain ⟨rfl, rfl, rfl⟩ := heq
    exact ⟨rfl, task, hmem⟩
  | cancel id' => cases heq
  | shutDown => cases heq

theorem isSound_label {now : Nat} {k : KeepAlive τ} (h : k.IsSound now) : k.label.IsSound now where
  waiting := by
    intro job hjob
    obtain ⟨old, hold, rfl⟩ := List.mem_map.1 hjob
    exact ⟨(h.waiting old hold).lt_next, (h.waiting old hold).interval_pos⟩
  numbered := by
    intro job hjob
    obtain ⟨old, hold, rfl⟩ := List.mem_map.1 hjob
    exact h.numbered old hold
  noticed := by
    intro id interval n hmem
    obtain ⟨-, task, hmem⟩ := schedule_mem_label hmem
    exact h.noticed id interval task hmem

/-! ## With and without a new job -/

/-- A scheduler from an instant at which it is given a job. -/
def joined (k : KeepAlive τ) (now interval : Nat) : Timeline :=
  ⟨now, (k.label.schedule interval k.nextId).1, []⟩

/-- The same scheduler without the job, whose number is passed over. -/
def spared (k : KeepAlive τ) (now : Nat) : Timeline :=
  ⟨now, { k.label with nextId := k.nextId + 1 }, []⟩

/-- A number that was not given out yet is nowhere. -/
theorem label_without {now : Nat} {k : KeepAlive τ} (h : k.IsSound now) :
    k.label.without k.nextId = k.label := by
  have hjobs : k.label.jobs.filter (·.task != k.nextId) = k.label.jobs := by
    rw [List.filter_eq_self]
    intro job hjob
    obtain ⟨old, hold, rfl⟩ := List.mem_map.1 hjob
    simpa [Job.label] using Nat.ne_of_lt (h.numbered old hold)
  have hinbox : k.label.inbox.filter (!·.isFor k.nextId) = k.label.inbox := by
    rw [List.filter_eq_self]
    intro notice hmem
    cases notice with
    | schedule id interval n =>
      obtain ⟨rfl, task, hmem⟩ := schedule_mem_label hmem
      simpa [Notice.isFor] using Nat.ne_of_lt (h.noticed _ interval task hmem).2
    | cancel id => rfl
    | shutDown => rfl
  rw [without, hjobs, hinbox]

theorem joined_without {now : Nat} {k : KeepAlive τ} (h : k.IsSound now) (interval : Nat) :
    (k.joined now interval).without k.nextId = k.spared now := by
  have hschedule : (k.label.schedule interval k.nextId).1.without k.nextId =
      { k.label.without k.nextId with nextId := k.nextId + 1 } := by
    rw [schedule]
    split
    · rfl
    · simp [without, Notice.isFor, label]
  rw [joined, spared, Timeline.without, hschedule, label_without h]
  rfl

end KeepAlive

/-! ## Schedulers that run -/

theorem Job.mem_starts_fireAll_of_mem {lengths : Nat → Nat → Option Nat} {now : Nat}
    {x : Nat × Nat} {starts : List (Nat × Nat)} (h : x ∈ starts) (jobs : List (Job Nat)) :
    x ∈ (fireAll (Timeline.launch lengths) now jobs starts).2 := by
  induction jobs generalizing starts with
  | nil => exact h
  | cons job rest ih =>
    rw [fireAll_cons]
    refine ih ?_
    rw [fire]
    split
    · split
      · exact h
      · exact List.mem_append_left _ h
    · exact h

/-- A job that is due is started, unless its last run is in flight. -/
theorem Job.mem_starts_fireAll {lengths : Nat → Nat → Option Nat} {now : Nat}
    {jobs : List (Job Nat)} {job : Job Nat} (h : job ∈ jobs) (hdue : job.next ≤ now)
    (hidle : job.isBusy now = false) (starts : List (Nat × Nat)) :
    (now, job.task) ∈ (fireAll (Timeline.launch lengths) now jobs starts).2 := by
  induction jobs generalizing starts with
  | nil => contradiction
  | cons first rest ih =>
    rw [fireAll_cons]
    rcases List.mem_cons.1 h with rfl | h
    · refine mem_starts_fireAll_of_mem ?_ rest
      rw [fire, if_pos hdue, hidle]
      simp [Timeline.launch]
    · exact ih h _

namespace Timeline

/-- Whether a scheduler runs: it was not shut down, and it does not stop for what it was told. -/
def IsRunning (t : Timeline) : Prop :=
  t.keepAlive.isShutDown = false ∧ (t.keepAlive.settle t.now).isStopped = false

variable {lengths : Nat → Nat → Option Nat} {t : Timeline}

theorem now_follow_eq (t t' : Timeline) (h : t.now = t'.now) (turns : List Turn) :
    (t.follow lengths turns).now = (t'.follow lengths turns).now := by
  induction turns generalizing t t' with
  | nil => exact h
  | cons turn rest ih =>
    refine ih _ _ ?_
    cases turn with
    | pass ms => exact congrArg (· + ms) h
    | _ => exact h

/-- A scheduler that runs after some time has run before it, and no job got stuck. -/
theorem IsRunning.of_pass {ms : Nat} (hsound : t.keepAlive.IsSound t.now)
    (h : (t.take lengths (.pass ms)).IsRunning) :
    t.IsRunning ∧ ∃ jobs starts,
      Job.walk (launch lengths) ms t.now (t.keepAlive.settle t.now).jobs t.starts =
        (some jobs, starts) ∧ (t.take lengths (.pass ms)).starts = starts := by
  have hadvance := KeepAlive.advance_eq_walk hsound (launch lengths) (t.now + ms) t.starts
  rw [Nat.add_sub_cancel_left] at hadvance
  obtain ⟨hshut, hstopped⟩ := h
  have hstopped := KeepAlive.isStopped_of_settle hstopped
  simp only [take, hadvance] at hshut hstopped ⊢
  cases hwalk : Job.walk (launch lengths) ms t.now (t.keepAlive.settle t.now).jobs t.starts with
  | mk jobs? starts =>
    rw [hwalk] at hshut hstopped
    cases jobs? with
    | none => contradiction
    | some jobs =>
      rw [KeepAlive.resume_isShutDown, KeepAlive.settle_isShutDown] at hshut
      exact ⟨⟨hshut, hstopped⟩, jobs, starts, rfl, rfl⟩

/-- What is scheduled is started one interval later, if the scheduler still runs then. -/
theorem mem_starts_of_isRunning (hsound : t.keepAlive.IsSound t.now) {interval : Nat}
    (h : (t.follow lengths
      [.schedule interval, .pass (max interval KeepAlive.shortestInterval)]).IsRunning) :
    (t.now + max interval KeepAlive.shortestInterval, t.keepAlive.nextId) ∈
      (t.follow lengths [.schedule interval, .pass (max interval KeepAlive.shortestInterval)]).starts
    := by
  rw [follow, follow, follow] at h ⊢
  have hpos : 0 < max interval KeepAlive.shortestInterval := by
    rw [KeepAlive.shortestInterval]
    omega
  obtain ⟨⟨hshut, hstopped⟩, jobs, starts, hwalk, hstarts⟩ :=
    h.of_pass (KeepAlive.isSound_schedule hsound interval _)
  obtain ⟨-, hmem⟩ := KeepAlive.mem_jobs_settle_schedule
    (by simpa only [take, KeepAlive.schedule_isShutDown] using hshut) hstopped
  rw [hstarts]
  simp only [take] at hwalk
  generalize max interval KeepAlive.shortestInterval = d at hpos hwalk hmem ⊢
  -- the job waits until the last millisecond and is due in it
  obtain ⟨d, rfl⟩ : ∃ m, d = m + 1 := ⟨d - 1, by omega⟩
  rw [Job.walk_add] at hwalk
  cases hwait : Job.walk (launch lengths) d t.now
      ((t.keepAlive.schedule interval t.keepAlive.nextId).1.settle t.now).jobs t.starts with
  | mk jobs? starts₁ =>
    rw [hwait] at hwalk
    cases jobs? with
    | none => cases hwalk
    | some jobs₁ =>
      obtain ⟨job, hjob, rfl⟩ := Job.exists_mem_walk (P := fun _ job => job =
          ⟨t.keepAlive.nextId, d + 1, t.now + (d + 1), t.keepAlive.nextId, some 0⟩)
        (fun now _ hlt job s hjob _ => by
          rw [Job.fire_of_lt (by rw [hjob]; show now + 1 < t.now + (d + 1); omega), hjob])
        hwait ⟨_, hmem, rfl⟩
      simp only at hwalk
      cases hstuck : jobs₁.any (Job.isStuck (t.now + d + 1)) with
      | true =>
        rw [Job.walk_succ_of_any hstuck] at hwalk
        cases hwalk
      | false =>
        rw [Job.walk_succ hstuck] at hwalk
        have hstart : (t.now + d + 1, t.keepAlive.nextId) ∈
            (Job.fireAll (launch lengths) (t.now + d + 1) jobs₁ starts₁).2 :=
          Job.mem_starts_fireAll hjob (Nat.le_of_eq (Nat.add_assoc ..).symm)
            (by simp [Job.isBusy]) starts₁
        cases hwalk
        exact hstart

end Timeline

/-! ## Sparing the others -/

/-- Whether a job that is given to a scheduler at an instant spares the others until `limit`. -/
structure KeepAlive.Spares (k : KeepAlive τ) (now interval limit : Nat) : Prop where
  /-- The others are started as they would be without it. -/
  starts : ∀ lengths turns, ((k.spared now).follow lengths turns).now ≤ limit →
    ((k.joined now interval).follow lengths turns).starts.filter (·.2 != k.nextId) =
      ((k.spared now).follow lengths turns).starts
  /-- What is scheduled later is accepted. -/
  accepts : ∀ lengths turns, ((k.spared now).follow lengths turns).now ≤ limit →
    ((k.spared now).follow lengths turns).IsRunning → ∀ interval' task,
      (((k.joined now interval).follow lengths turns).keepAlive.schedule interval' task).2.isActive
  /-- What is scheduled later is started one interval later. -/
  serves : ∀ lengths turns interval',
    let later := [.schedule interval', .pass (max interval' shortestInterval)]
    ((k.spared now).follow lengths (turns ++ later)).now ≤ limit →
    ((k.spared now).follow lengths (turns ++ later)).IsRunning →
      let t := (k.joined now interval).follow lengths turns
      (t.now + max interval' shortestInterval, t.keepAlive.nextId) ∈ (t.follow lengths later).starts

namespace KeepAlive

variable {k : KeepAlive τ} {now interval limit : Nat}

/-- The first tick after `limit` of a job that is given to a scheduler at an instant. -/
def tickAfter (now interval limit : Nat) : Nat :=
  now + ((limit - now) / max interval shortestInterval + 1) * max interval shortestInterval

theorem max_shortestInterval_pos (interval : Nat) : 0 < max interval shortestInterval := by
  rw [shortestInterval]
  omega

theorem lt_tickAfter (now interval limit : Nat) : limit < tickAfter now interval limit := by
  have hlt := Nat.lt_mul_div_succ (limit - now) (max_shortestInterval_pos interval)
  rw [Nat.mul_comm] at hlt
  rw [tickAfter]
  omega

theorem tickAfter_le (interval : Nat) (h : now ≤ limit) :
    tickAfter now interval limit ≤ limit + max interval shortestInterval := by
  have hle := Nat.div_mul_le_self (limit - now) (max interval shortestInterval)
  rw [tickAfter, Nat.add_mul, Nat.one_mul]
  omega

theorem isSound_joined (h : k.IsSound now) : (k.joined now interval).keepAlive.IsSound now :=
  isSound_schedule (isSound_label h) interval _

theorem isSound_spared (h : k.IsSound now) : (k.spared now).keepAlive.IsSound now where
  waiting := (isSound_label h).waiting
  numbered := fun job hjob => Nat.lt_succ_of_lt ((isSound_label h).numbered job hjob)
  noticed := fun id interval task hmem =>
    ⟨((isSound_label h).noticed id interval task hmem).1,
      Nat.lt_succ_of_lt ((isSound_label h).noticed id interval task hmem).2⟩

theorem leads_joined (h : k.IsSound now) :
    (k.joined now interval).Leads k.nextId (tickAfter now interval limit) where
  sound := isSound_joined h
  jobs := by
    intro job hjob hn
    rw [joined, schedule_jobs] at hjob
    obtain ⟨old, hold, rfl⟩ := List.mem_map.1 hjob
    have hlt := h.numbered old hold
    simp only [Job.label] at hn
    omega
  inbox := by
    intro id interval' hmem
    rcases mem_inbox_schedule hmem with hmem | ⟨-, rfl, -⟩
    · obtain ⟨rfl, task, hmem⟩ := schedule_mem_label hmem
      exact absurd (h.noticed _ interval' task hmem).2 (Nat.lt_irrefl _)
    · exact ⟨(limit - now) / max interval shortestInterval, rfl⟩
  lt_nextId := by
    rw [joined, schedule_nextId]
    exact Nat.lt_succ_self _

/-- A job leaves a scheduler running or not, as long as the clock can tell its ticks. -/
theorem isRunning_without_iff {t : Timeline} {n last : Nat} (h : t.Leads n last)
    (hlast : last ≤ lastInstant) : (t.without n).IsRunning ↔ t.IsRunning := by
  have hsettle := settle_without (h.fits hlast)
  rw [Timeline.IsRunning, Timeline.without, hsettle]
  rfl

theorem isActive_of_isRunning {t : Timeline} (h : t.IsRunning) (interval task : Nat) :
    (t.keepAlive.schedule interval task).2.isActive := by
  obtain ⟨hshut, hstopped⟩ := h
  have hstopped := isStopped_of_settle hstopped
  rw [schedule, hshut, hstopped]
  rfl

/-- A job spares the others as long as the clock can tell its ticks. -/
theorem spares_of_tickAfter_le (h : k.IsSound now)
    (hlast : tickAfter now interval limit ≤ lastInstant) : k.Spares now interval limit := by
  have hfollow : ∀ lengths turns, ((k.spared now).follow lengths turns).now ≤ limit →
      (k.spared now).follow lengths turns =
        ((k.joined now interval).follow lengths turns).without k.nextId ∧
      ((k.joined now interval).follow lengths turns).Leads k.nextId
        (tickAfter now interval limit) := by
    intro lengths turns hlimit
    rw [Timeline.now_follow_eq (k.spared now) (k.joined now interval) rfl] at hlimit
    rw [← joined_without h interval]
    exact Timeline.follow_without (leads_joined h) hlast
      (Nat.lt_of_le_of_lt hlimit (lt_tickAfter now interval limit))
  refine
    { starts := ?_
      accepts := ?_
      serves := ?_ }
  · intro lengths turns hlimit
    rw [(hfollow lengths turns hlimit).1]
    rfl
  · intro lengths turns hlimit hrunning interval' task
    obtain ⟨heq, hleads⟩ := hfollow lengths turns hlimit
    rw [heq, isRunning_without_iff hleads hlast] at hrunning
    exact isActive_of_isRunning hrunning interval' task
  · intro lengths turns interval' later hlimit hrunning
    obtain ⟨heq, hleads⟩ := hfollow lengths (turns ++ later) hlimit
    rw [heq, isRunning_without_iff hleads hlast, Timeline.follow_append] at hrunning
    have hearlier : ((k.spared now).follow lengths turns).now ≤ limit := by
      rw [Timeline.follow_append] at hlimit
      exact Nat.le_trans (Timeline.now_le_follow _ later) hlimit
    exact Timeline.mem_starts_of_isRunning (hfollow lengths turns hearlier).2.sound hrunning

/-- A scheduler that was given a job and runs has reckoned with its first tick after that time. -/
theorem tickAfter_le_of_isRunning {lengths : Nat → Nat → Option Nat} (h : k.IsSound now)
    (hlimit : now ≤ limit) (hopen : k.isShutDown = false)
    (hrunning : ((k.joined now interval).take lengths (.pass (limit - now))).IsRunning) :
    tickAfter now interval limit ≤ lastInstant := by
  obtain ⟨⟨-, hstopped⟩, jobs, starts, hwalk, -⟩ := hrunning.of_pass (isSound_joined h)
  obtain ⟨hfirst, hmem⟩ := mem_jobs_settle_schedule (k := k.label) hopen hstopped
  have hpos := max_shortestInterval_pos interval
  have hle := tickAfter_le interval hlimit
  have hlt := lt_tickAfter now interval limit
  have hleads : Job.LeadsTo (tickAfter now interval limit) ⟨k.nextId, max interval shortestInterval,
      now + max interval shortestInterval, k.nextId, some 0⟩ := by
    refine ⟨(limit - now) / max interval shortestInterval, ?_⟩
    rw [tickAfter, Nat.add_mul, Nat.one_mul, Nat.add_assoc, Nat.add_comm (max _ _)]
  -- the job keeps its interval and the way to the last of its ticks, and each next one is told
  obtain ⟨job, -, hinterval, hnext, ⟨m, hm⟩, hlate⟩ := Job.exists_mem_walk
    (P := fun t job => job.interval = max interval shortestInterval ∧ job.next ≤ lastInstant ∧
      job.LeadsTo (tickAfter now interval limit) ∧ t < job.next)
    (fun t _ ht job s ⟨hinterval, hnext, hleads, hlt'⟩ hstuck => by
      have hwaiting : job.IsWaiting t := ⟨hlt', by rw [hinterval]; exact hpos⟩
      have ht : t + 1 < tickAfter now interval limit := by
        simp only [joined] at ht
        omega
      refine ⟨by rw [Job.fire_interval, hinterval], ?_, hleads.fire hwaiting ht s,
        (Job.isWaiting_fire hwaiting.interval_pos _ s).lt_next⟩
      rw [Job.fire_next]
      split
      · next hdue => simpa [Job.isStuck, hdue] using hstuck
      · exact hnext)
    hwalk ⟨_, hmem, rfl, hfirst, hleads, Nat.lt_add_of_pos_right hpos⟩
  simp only [joined] at hlate
  rw [hinterval] at hm
  cases m with
  | zero => omega
  | succ m =>
    rw [Nat.add_mul, Nat.one_mul] at hm
    omega

theorem isRunning_of_isActive {t : Timeline} (hinbox : t.keepAlive.inbox = []) {interval task : Nat}
    (h : (t.keepAlive.schedule interval task).2.isActive) : t.IsRunning := by
  rw [schedule] at h
  split at h
  · contradiction
  · next hopen =>
    rw [Bool.or_eq_true, not_or, Bool.not_eq_true, Bool.not_eq_true] at hopen
    rw [Timeline.IsRunning, settle_of_inbox_eq_nil hinbox]
    exact hopen

/-- **When a job spares the others.** A job that is given to a scheduler spares the others until an
instant up to which the scheduler runs without it if and only if the clock can tell the first tick
of the job after that instant. -/
theorem spares_iff {lengths : Nat → Nat → Option Nat} (h : k.IsSound now) (hlimit : now ≤ limit)
    (hrunning : ((k.spared now).take lengths (.pass (limit - now))).IsRunning) :
    k.Spares now interval limit ↔ tickAfter now interval limit ≤ lastInstant := by
  constructor
  · intro hspares
    have hend : ((k.spared now).take lengths (.pass (limit - now))).now ≤ limit := by
      show now + (limit - now) ≤ limit
      omega
    have hactive := hspares.accepts lengths [.pass (limit - now)] hend hrunning 0 0
    have hopen : k.isShutDown = false := (hrunning.of_pass (isSound_spared h)).1.1
    exact tickAfter_le_of_isRunning h hlimit hopen
      (isRunning_of_isActive (Timeline.inbox_pass (isSound_joined h) _) hactive)
  · exact spares_of_tickAfter_le h

end KeepAlive

end FlowPeers
