import FlowPeers.Proofs.Timetable

/-!
# What a scheduler keeps

A scheduler is sound (`KeepAlive.IsSound`) if its jobs wait for ticks to come, what it is told has
intervals that are no less than a millisecond, and all numbers were given out before. All that can
be done with a scheduler keeps it sound, and so does the passing of time
(`KeepAlive.isSound_advance`), which goes from instant to instant (`KeepAlive.advance_eq_walk`).
-/

namespace FlowPeers

variable {σ τ : Type}

namespace KeepAlive

/-- What holds of a scheduler at an instant. -/
structure IsSound (now : Nat) (k : KeepAlive τ) : Prop where
  waiting : ∀ job ∈ k.jobs, job.IsWaiting now
  numbered : ∀ job ∈ k.jobs, job.id < k.nextId
  noticed : ∀ id interval task, .schedule id interval task ∈ k.inbox →
    0 < interval ∧ id < k.nextId

theorem isSound_start (now : Nat) : IsSound now ({} : KeepAlive τ) where
  waiting := by simp
  numbered := by simp
  noticed := by simp

/-! ## Telling it something -/

section Telling

variable (k : KeepAlive τ) (interval : Nat) (task : τ) (ticket : Ticket)

@[simp] theorem schedule_jobs : (k.schedule interval task).1.jobs = k.jobs := by
  rw [schedule]
  split <;> rfl

@[simp] theorem schedule_nextId : (k.schedule interval task).1.nextId = k.nextId + 1 := by
  rw [schedule]
  split <;> rfl

@[simp] theorem schedule_ticket_id : (k.schedule interval task).2.id = k.nextId := by
  rw [schedule]
  split <;> rfl

@[simp] theorem schedule_isShutDown : (k.schedule interval task).1.isShutDown = k.isShutDown := by
  rw [schedule]
  split <;> rfl

@[simp] theorem schedule_isStopped : (k.schedule interval task).1.isStopped = k.isStopped := by
  rw [schedule]
  split <;> rfl

@[simp] theorem cancel_jobs : (k.cancel ticket).jobs = k.jobs := by
  rw [cancel]
  split <;> rfl

@[simp] theorem cancel_nextId : (k.cancel ticket).nextId = k.nextId := by
  rw [cancel]
  split <;> rfl

@[simp] theorem cancel_isShutDown : (k.cancel ticket).isShutDown = k.isShutDown := by
  rw [cancel]
  split <;> rfl

@[simp] theorem cancel_isStopped : (k.cancel ticket).isStopped = k.isStopped := by
  rw [cancel]
  split <;> rfl

@[simp] theorem shutDown_jobs : k.shutDown.jobs = k.jobs := by
  rw [shutDown]
  split <;> rfl

@[simp] theorem shutDown_nextId : k.shutDown.nextId = k.nextId := by
  rw [shutDown]
  split <;> rfl

@[simp] theorem shutDown_isShutDown : k.shutDown.isShutDown = true := by
  rw [shutDown]
  split
  · assumption
  · rfl

@[simp] theorem shutDown_isStopped : k.shutDown.isStopped = k.isStopped := by
  rw [shutDown]
  split <;> rfl

variable (tickets : List Ticket)

@[simp] theorem foldl_cancel_nextId : (tickets.foldl cancel k).nextId = k.nextId :=
  List.foldlRecOn (motive := fun k' : KeepAlive τ => k'.nextId = k.nextId) tickets cancel rfl
    fun _ h ticket _ => (cancel_nextId _ ticket).trans h

@[simp] theorem foldl_cancel_isShutDown : (tickets.foldl cancel k).isShutDown = k.isShutDown :=
  List.foldlRecOn (motive := fun k' : KeepAlive τ => k'.isShutDown = k.isShutDown) tickets cancel rfl
    fun _ h ticket _ => (cancel_isShutDown _ ticket).trans h

@[simp] theorem foldl_cancel_isStopped : (tickets.foldl cancel k).isStopped = k.isStopped :=
  List.foldlRecOn (motive := fun k' : KeepAlive τ => k'.isStopped = k.isStopped) tickets cancel rfl
    fun _ h ticket _ => (cancel_isStopped _ ticket).trans h

end Telling

/-- What a scheduler is told to schedule is what it was told before and the new task. -/
theorem mem_inbox_schedule {k : KeepAlive τ} {interval interval' id : Nat} {task task' : τ}
    (h : .schedule id interval' task' ∈ (k.schedule interval task).1.inbox) :
    .schedule id interval' task' ∈ k.inbox ∨
      (id = k.nextId ∧ interval' = max interval shortestInterval ∧ task' = task) := by
  rw [schedule] at h
  split at h
  · exact .inl h
  · simpa using h

@[simp] theorem schedule_mem_inbox_cancel {k : KeepAlive τ} {ticket : Ticket} {id interval : Nat}
    {task : τ} : .schedule id interval task ∈ (k.cancel ticket).inbox ↔
      .schedule id interval task ∈ k.inbox := by
  rw [cancel]
  split <;> simp

@[simp] theorem schedule_mem_inbox_shutDown {k : KeepAlive τ} {id interval : Nat} {task : τ} :
    .schedule id interval task ∈ k.shutDown.inbox ↔ .schedule id interval task ∈ k.inbox := by
  rw [shutDown]
  split <;> simp

theorem isSound_schedule {now : Nat} {k : KeepAlive τ} (h : k.IsSound now) (interval : Nat)
    (task : τ) : (k.schedule interval task).1.IsSound now where
  waiting := by simpa using h.waiting
  numbered := by
    rw [schedule_jobs, schedule_nextId]
    exact fun job hjob => Nat.lt_succ_of_lt (h.numbered job hjob)
  noticed := by
    intro id interval' task' hmem
    rw [schedule_nextId]
    rcases mem_inbox_schedule hmem with hmem | ⟨rfl, rfl, -⟩
    · obtain ⟨hpos, hid⟩ := h.noticed id interval' task' hmem
      exact ⟨hpos, Nat.lt_succ_of_lt hid⟩
    · exact ⟨by rw [shortestInterval]; omega, Nat.lt_succ_self _⟩

theorem isSound_cancel {now : Nat} {k : KeepAlive τ} (h : k.IsSound now) (ticket : Ticket) :
    (k.cancel ticket).IsSound now where
  waiting := by simpa using h.waiting
  numbered := by simpa using h.numbered
  noticed := by simpa using h.noticed

theorem isSound_foldl_cancel {now : Nat} {k : KeepAlive τ} (h : k.IsSound now)
    (tickets : List Ticket) : (tickets.foldl cancel k).IsSound now :=
  List.foldlRecOn tickets cancel h fun _ h ticket _ => isSound_cancel h ticket

theorem isSound_shutDown {now : Nat} {k : KeepAlive τ} (h : k.IsSound now) :
    k.shutDown.IsSound now where
  waiting := by simpa using h.waiting
  numbered := by simpa using h.numbered
  noticed := by simpa using h.noticed

theorem isSound_stop {now : Nat} {k : KeepAlive τ} (h : k.IsSound now) : k.stop.IsSound now where
  waiting := by simp [stop]
  numbered := by simp [stop]
  noticed := h.noticed

/-! ## Receiving what it was told -/

theorem receive_keeps (now : Nat) (k : KeepAlive τ) (notice : Notice τ) :
    (k.receive now notice).inbox = k.inbox ∧ (k.receive now notice).nextId = k.nextId ∧
      (k.receive now notice).isShutDown = k.isShutDown := by
  cases notice with
  | schedule id interval task =>
    rw [receive]
    split
    · exact ⟨rfl, rfl, rfl⟩
    · exact ⟨rfl, rfl, rfl⟩
  | cancel id => exact ⟨rfl, rfl, rfl⟩
  | shutDown => exact ⟨rfl, rfl, rfl⟩

theorem receiveAll_keeps (now : Nat) (k : KeepAlive τ) (notices : List (Notice τ)) :
    (k.receiveAll now notices).inbox = k.inbox ∧ (k.receiveAll now notices).nextId = k.nextId ∧
      (k.receiveAll now notices).isShutDown = k.isShutDown := by
  induction notices generalizing k with
  | nil => exact ⟨rfl, rfl, rfl⟩
  | cons notice rest ih =>
    rw [receiveAll]
    split
    · exact ⟨rfl, rfl, rfl⟩
    · obtain ⟨hinbox, hnextId, hshut⟩ := receive_keeps now k notice
      obtain ⟨hinbox', hnextId', hshut'⟩ := ih (k.receive now notice)
      exact ⟨hinbox'.trans hinbox, hnextId'.trans hnextId, hshut'.trans hshut⟩

@[simp] theorem settle_inbox (now : Nat) (k : KeepAlive τ) : (k.settle now).inbox = [] :=
  (receiveAll_keeps now _ k.inbox).1

@[simp] theorem settle_nextId (now : Nat) (k : KeepAlive τ) : (k.settle now).nextId = k.nextId :=
  (receiveAll_keeps now _ k.inbox).2.1

@[simp] theorem settle_isShutDown (now : Nat) (k : KeepAlive τ) :
    (k.settle now).isShutDown = k.isShutDown :=
  (receiveAll_keeps now _ k.inbox).2.2

/-- A scheduler that has stopped receives nothing. -/
theorem settle_of_isStopped {now : Nat} {k : KeepAlive τ} (h : k.isStopped) :
    k.settle now = { k with inbox := [] } := by
  rw [settle]
  cases hinbox : k.inbox with
  | nil => rfl
  | cons notice rest => rw [receiveAll, if_pos h]

theorem isStopped_of_settle {now : Nat} {k : KeepAlive τ} (h : (k.settle now).isStopped = false) :
    k.isStopped = false := by
  rw [Bool.eq_false_iff]
  intro hstopped
  rw [settle_of_isStopped hstopped, hstopped] at h
  contradiction

theorem receiveAll_append (now : Nat) (k : KeepAlive τ) (notices notices' : List (Notice τ)) :
    k.receiveAll now (notices ++ notices') = (k.receiveAll now notices).receiveAll now notices' := by
  induction notices generalizing k with
  | nil => rfl
  | cons notice rest ih =>
    rw [List.cons_append, receiveAll, receiveAll]
    split
    · next hstopped =>
      cases notices' with
      | nil => rfl
      | cons notice' rest' => rw [receiveAll, if_pos hstopped]
    · exact ih (k.receive now notice)

/-- What is told last is received last, unless the scheduler has stopped by then. -/
theorem settle_tell (now : Nat) (k : KeepAlive τ) (notice : Notice τ) :
    settle now { k with inbox := k.inbox ++ [notice] } =
      if (k.settle now).isStopped then k.settle now else (k.settle now).receive now notice :=
  receiveAll_append now { k with inbox := [] } k.inbox [notice]

/-- Neither the next number nor whether it was shut down matters to what a scheduler receives. -/
theorem receiveAll_renumber (now n : Nat) (b : Bool) (k : KeepAlive τ)
    (notices : List (Notice τ)) :
    receiveAll now { k with nextId := n, isShutDown := b } notices =
      { k.receiveAll now notices with nextId := n, isShutDown := b } := by
  induction notices generalizing k with
  | nil => rfl
  | cons notice rest ih =>
    have hreceive : receive now { k with nextId := n, isShutDown := b } notice =
        { k.receive now notice with nextId := n, isShutDown := b } := by
      cases notice with
      | schedule id interval task =>
        rw [receive, receive]
        split <;> rfl
      | cancel id => rfl
      | shutDown => rfl
    rw [receiveAll, receiveAll, hreceive, ih]
    split <;> rfl

theorem settle_renumber (now n : Nat) (b : Bool) (k : KeepAlive τ) :
    settle now { k with nextId := n, isShutDown := b } =
      { k.settle now with nextId := n, isShutDown := b } :=
  receiveAll_renumber now n b { k with inbox := [] } k.inbox

/-- A scheduler that was told to schedule a task has one job more then. -/
theorem settle_schedule {now interval : Nat} {k : KeepAlive τ}
    (hopen : k.isShutDown = false) (hrunning : (k.settle now).isStopped = false)
    (hfits : now + max interval shortestInterval ≤ lastInstant) (task : τ) :
    (k.schedule interval task).1.settle now =
      { k.settle now with
        nextId := k.nextId + 1
        jobs := (k.settle now).jobs ++ [⟨k.nextId, max interval shortestInterval,
          now + max interval shortestInterval, task, some 0⟩] } := by
  have hstopped := isStopped_of_settle hrunning
  rw [schedule, if_neg (by simp [hopen, hstopped])]
  refine (settle_renumber now (k.nextId + 1) k.isShutDown
    { k with inbox := k.inbox ++ [.schedule k.nextId (max interval shortestInterval) task] }).trans
    ?_
  rw [settle_tell, hrunning, if_neg Bool.false_ne_true, receive, if_pos hfits]
  simp only [settle_isShutDown]

theorem schedule_of_isClosed {k : KeepAlive τ} (h : k.isShutDown ∨ k.isStopped) (interval : Nat)
    (task : τ) :
    k.schedule interval task = ({ k with nextId := k.nextId + 1 }, ⟨k.nextId, false⟩) := by
  rw [schedule, if_pos (Bool.or_eq_true_iff.2 h)]

/-- A scheduler that was told to take a job back is without it then. -/
theorem settle_cancel (now : Nat) (k : KeepAlive τ) (ticket : Ticket) :
    (k.cancel ticket).settle now =
      if ticket.isActive && !(k.settle now).isStopped then
        { k.settle now with jobs := (k.settle now).jobs.filter (·.id != ticket.id) }
      else k.settle now := by
  rw [cancel]
  cases ticket.isActive with
  | false => rfl
  | true =>
    rw [if_pos rfl, settle_tell]
    cases (k.settle now).isStopped <;> rfl

/-- A scheduler that was told to shut down has stopped then. -/
theorem settle_shutDown (now : Nat) {k : KeepAlive τ} (hopen : k.isShutDown = false) :
    k.shutDown.settle now =
      { (if (k.settle now).isStopped then k.settle now else (k.settle now).stop) with
        isShutDown := true } := by
  rw [shutDown, if_neg (by simp [hopen])]
  refine (settle_renumber now k.nextId true { k with inbox := k.inbox ++ [.shutDown] }).trans ?_
  rw [settle_tell]
  split
  · rw [← settle_nextId now k]
  · rw [← settle_nextId now k]
    rfl

/-- What a scheduler is told last to schedule is among its jobs then, unless it has stopped. -/
theorem mem_jobs_settle_schedule {now interval : Nat} {k : KeepAlive τ} {task : τ}
    (hopen : k.isShutDown = false)
    (h : ((k.schedule interval task).1.settle now).isStopped = false) :
    now + max interval shortestInterval ≤ lastInstant ∧
      ⟨k.nextId, max interval shortestInterval, now + max interval shortestInterval, task, some 0⟩ ∈
        ((k.schedule interval task).1.settle now).jobs := by
  have hstopped : k.isStopped = false := by simpa using isStopped_of_settle h
  rw [schedule, hopen, hstopped, Bool.or_false, if_neg Bool.false_ne_true, settle,
    receiveAll_append] at h ⊢
  simp only [receiveAll] at h ⊢
  split at h
  · next hstop =>
    rw [hstop] at h
    contradiction
  · next hstop =>
    rw [if_neg hstop]
    simp only [receive] at h ⊢
    split at h
    · next hle =>
      rw [if_pos hle]
      exact ⟨hle, List.mem_append_right _ (List.mem_singleton_self _)⟩
    · contradiction

theorem settle_of_inbox_eq_nil {now : Nat} {k : KeepAlive τ} (h : k.inbox = []) :
    k.settle now = k := by
  rw [settle, h]
  cases k
  cases h
  rfl

/-- What holds of all jobs and of those that it was told of holds of all jobs then. -/
theorem forall_mem_receiveAll {P : Job τ → Prop} {now : Nat} {k : KeepAlive τ}
    {notices : List (Notice τ)} (hjobs : ∀ job ∈ k.jobs, P job)
    (hnotices : ∀ id interval task, .schedule id interval task ∈ notices →
      now + interval ≤ lastInstant → P ⟨id, interval, now + interval, task, some 0⟩) :
    ∀ job ∈ (k.receiveAll now notices).jobs, P job := by
  induction notices generalizing k with
  | nil => exact hjobs
  | cons notice rest ih =>
    rw [receiveAll]
    split
    · exact hjobs
    · refine ih ?_ fun id interval task hmem =>
        hnotices id interval task (List.mem_cons_of_mem _ hmem)
      cases notice with
      | schedule id interval task =>
        rw [receive]
        split
        · next hle =>
          intro job hjob
          rcases List.mem_append.1 hjob with hjob | hjob
          · exact hjobs job hjob
          · rw [List.mem_singleton.1 hjob]
            exact hnotices id interval task (List.mem_cons_self ..) hle
        · simp [stop]
      | cancel id => exact fun job hjob => hjobs job (List.mem_filter.1 hjob).1
      | shutDown => simp [receive, stop]

theorem forall_mem_settle {P : Job τ → Prop} {now : Nat} {k : KeepAlive τ}
    (hjobs : ∀ job ∈ k.jobs, P job)
    (hinbox : ∀ id interval task, .schedule id interval task ∈ k.inbox →
      now + interval ≤ lastInstant → P ⟨id, interval, now + interval, task, some 0⟩) :
    ∀ job ∈ (k.settle now).jobs, P job :=
  forall_mem_receiveAll hjobs hinbox

theorem isSound_settle {now : Nat} {k : KeepAlive τ} (h : k.IsSound now) :
    (k.settle now).IsSound now where
  waiting := by
    refine forall_mem_settle h.waiting ?_
    intro id interval task hmem _
    have hpos := (h.noticed id interval task hmem).1
    exact ⟨Nat.lt_add_of_pos_right hpos, hpos⟩
  numbered := by
    rw [settle_nextId]
    exact forall_mem_settle (P := (·.id < k.nextId)) h.numbered
      fun id interval task hmem _ => (h.noticed id interval task hmem).2
  noticed := by simp

/-! ## Letting time pass -/

/-- The scheduler with the jobs that a time has left, or stopped if there are none. -/
def resume (k : KeepAlive τ) : Option (List (Job τ)) → KeepAlive τ
  | some jobs => { k with jobs := jobs }
  | none => k.stop

@[simp] theorem resume_nextId (k : KeepAlive τ) (jobs? : Option (List (Job τ))) :
    (k.resume jobs?).nextId = k.nextId := by
  cases jobs? <;> rfl

@[simp] theorem resume_isShutDown (k : KeepAlive τ) (jobs? : Option (List (Job τ))) :
    (k.resume jobs?).isShutDown = k.isShutDown := by
  cases jobs? <;> rfl

@[simp] theorem resume_inbox (k : KeepAlive τ) (jobs? : Option (List (Job τ))) :
    (k.resume jobs?).inbox = k.inbox := by
  cases jobs? <;> rfl

/-- A sound scheduler lets time pass from instant to instant. -/
theorem advance_eq_walk {now : Nat} {k : KeepAlive τ} (h : k.IsSound now) (launch : Launch σ τ)
    (limit : Nat) (s : σ) : k.advance launch limit now s =
      ((k.settle now).resume (Job.walk launch (limit - now) now (k.settle now).jobs s).1,
        (Job.walk launch (limit - now) now (k.settle now).jobs s).2) := by
  rw [advance, Job.advance_eq_walk (isSound_settle h).waiting]
  cases Job.walk launch (limit - now) now (k.settle now).jobs s with
  | mk jobs? s => cases jobs? <;> rfl

@[simp] theorem advance_nextId (launch : Launch σ τ) (limit now : Nat) (k : KeepAlive τ) (s : σ) :
    (k.advance launch limit now s).1.nextId = k.nextId := by
  rw [advance]
  split
  · exact settle_nextId now k
  · exact settle_nextId now k

@[simp] theorem advance_isShutDown (launch : Launch σ τ) (limit now : Nat) (k : KeepAlive τ)
    (s : σ) : (k.advance launch limit now s).1.isShutDown = k.isShutDown := by
  rw [advance]
  split
  · exact settle_isShutDown now k
  · exact settle_isShutDown now k

theorem isSound_advance {launch : Launch σ τ} {limit now : Nat} {k : KeepAlive τ}
    (h : k.IsSound now) (hlimit : now ≤ limit) (s : σ) :
    (k.advance launch limit now s).1.IsSound limit := by
  rw [advance_eq_walk h]
  have hsettle := isSound_settle h
  cases hwalk : Job.walk launch (limit - now) now (k.settle now).jobs s with
  | mk jobs? s' =>
    cases jobs? with
    | none =>
      exact
        { waiting := by simp [resume, stop]
          numbered := by simp [resume, stop]
          noticed := by simp }
    | some jobs =>
      have hwaiting := Job.isWaiting_walk hwalk hsettle.waiting
      rw [Nat.add_sub_cancel' hlimit] at hwaiting
      refine
        { waiting := hwaiting
          numbered := ?_
          noticed := by simp }
      exact Job.forall_mem_walk (P := fun _ job => job.id < (k.settle now).nextId)
        (fun t _ _ job s hjob _ => by rwa [Job.fire_id]) hwalk hsettle.numbered

end KeepAlive

end FlowPeers
