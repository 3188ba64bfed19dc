import FlowPeers.Proofs.Scheduler

/-!
# What a scheduler does

A scheduler starts the tasks of its jobs, and every job comes from what it was told to schedule. If
all these tasks are of a kind (`KeepAlive.DoesOnly`), what is kept by starting a task of that kind is
kept while time passes (`KeepAlive.advance_keeps`).
-/

namespace FlowPeers

variable {σ τ : Type} {launch : Launch σ τ} {P : σ → Prop} {Q : τ → Prop}

namespace Job

theorem fire_keeps (hlaunch : ∀ now task s, Q task → P s → P (launch now task s).1) {job : Job τ}
    (hjob : Q job.task) (now : Nat) {s : σ} (h : P s) : P (job.fire launch now s).2 := by
  rw [fire]
  split
  · split
    · exact h
    · exact hlaunch now job.task s hjob h
  · exact h

theorem fireAll_keeps (hlaunch : ∀ now task s, Q task → P s → P (launch now task s).1)
    {jobs : List (Job τ)} (hjobs : ∀ job ∈ jobs, Q job.task) (now : Nat) {s : σ} (h : P s) :
    P (fireAll launch now jobs s).2 := by
  induction jobs generalizing s with
  | nil => exact h
  | cons job rest ih =>
    obtain ⟨hjob, hrest⟩ := List.forall_mem_cons.1 hjobs
    rw [fireAll_cons]
    exact ih hrest (fire_keeps hlaunch hjob now h)

/-- From tick to tick the jobs that are left do what they did. -/
theorem advanceBy_keeps (hlaunch : ∀ now task s, Q task → P s → P (launch now task s).1)
    (limit ticks : Nat) {jobs : List (Job τ)} (hjobs : ∀ job ∈ jobs, Q job.task) {s : σ} (h : P s) :
    (∀ jobs', (advanceBy launch limit ticks jobs s).1 = some jobs' → ∀ job ∈ jobs', Q job.task) ∧
      P (advanceBy launch limit ticks jobs s).2 := by
  have hsame : ∀ jobs', some jobs = some jobs' → ∀ job ∈ jobs', Q job.task := by
    rintro _ ⟨⟩
    exact hjobs
  induction ticks generalizing jobs s with
  | zero => exact ⟨hsame, h⟩
  | succ ticks ih =>
    rw [advanceBy]
    split
    · exact ⟨hsame, h⟩
    · next t _ =>
      split
      · split
        · exact ⟨by simp, h⟩
        · have hfired : ∀ job ∈ (fireAll launch t jobs s).1, Q job.task :=
            forall_mem_fireAll (fun job hjob s => by
              rw [fire_task]
              exact hjobs job hjob) s
          refine ih hfired (fireAll_keeps hlaunch hjobs t h) ?_
          rintro _ ⟨⟩
          exact hfired
      · exact ⟨hsame, h⟩

end Job

namespace KeepAlive

/-- Whether all that a scheduler does, and all that it was told to do, is of a kind. -/
structure DoesOnly (Q : τ → Prop) (k : KeepAlive τ) : Prop where
  jobs : ∀ job ∈ k.jobs, Q job.task
  told : ∀ id interval task, .schedule id interval task ∈ k.inbox → Q task

namespace DoesOnly

variable {k : KeepAlive τ}

theorem start : DoesOnly Q ({} : KeepAlive τ) where
  jobs := by simp
  told := by simp

theorem mono {Q' : τ → Prop} (h : k.DoesOnly Q) (hle : ∀ task, Q task → Q' task) :
    k.DoesOnly Q' where
  jobs := fun job hjob => hle _ (h.jobs job hjob)
  told := fun id interval task hmem => hle _ (h.told id interval task hmem)

theorem schedule (h : k.DoesOnly Q) (interval : Nat) {task : τ} (htask : Q task) :
    (k.schedule interval task).1.DoesOnly Q where
  jobs := by simpa using h.jobs
  told := by
    intro id interval' task' hmem
    rcases mem_inbox_schedule hmem with hmem | ⟨-, -, rfl⟩
    · exact h.told id interval' task' hmem
    · exact htask

theorem cancel (h : k.DoesOnly Q) (ticket : Ticket) : (k.cancel ticket).DoesOnly Q where
  jobs := by simpa using h.jobs
  told := by simpa using h.told

theorem foldl_cancel (h : k.DoesOnly Q) (tickets : List Ticket) :
    (tickets.foldl KeepAlive.cancel k).DoesOnly Q :=
  List.foldlRecOn tickets KeepAlive.cancel h fun _ h ticket _ => h.cancel ticket

theorem shutDown (h : k.DoesOnly Q) : k.shutDown.DoesOnly Q where
  jobs := by simpa using h.jobs
  told := by simpa using h.told

theorem stop (h : k.DoesOnly Q) : k.stop.DoesOnly Q where
  jobs := by simp [KeepAlive.stop]
  told := h.told

theorem settle (h : k.DoesOnly Q) (now : Nat) : (k.settle now).DoesOnly Q where
  jobs := forall_mem_settle (P := fun job => Q job.task) h.jobs
    fun id interval task hmem _ => h.told id interval task hmem
  told := by simp

end DoesOnly

/-- What starting a task of a kind keeps is kept while time passes, and the scheduler goes on to do
only what is of that kind. -/
theorem advance_keeps (hlaunch : ∀ now task s, Q task → P s → P (launch now task s).1)
    {k : KeepAlive τ} (hk : k.DoesOnly Q) (limit now : Nat) {s : σ} (h : P s) :
    (k.advance launch limit now s).1.DoesOnly Q ∧ P (k.advance launch limit now s).2 := by
  have hsettle := hk.settle now
  obtain ⟨hjobs, hs⟩ := Job.advanceBy_keeps hlaunch limit (limit - now) hsettle.jobs h
  rw [advance]
  simp only [Job.advance]
  cases hadvance : Job.advanceBy launch limit (limit - now) (k.settle now).jobs s with
  | mk jobs? s' =>
    rw [hadvance] at hjobs hs
    cases jobs? with
    | none => exact ⟨hsettle.stop, hs⟩
    | some jobs => exact ⟨⟨hjobs jobs rfl, hsettle.told⟩, hs⟩

end KeepAlive

end FlowPeers
