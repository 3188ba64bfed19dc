import FlowPeers.KeepAlive
import Mathlib.Tactic.Common

/-!
# From instant to instant

A scheduler goes from tick to tick, as nothing happens in between. For jobs that wait for ticks to
come (`Job.IsWaiting`) this is the same as going from one millisecond to the next (`Job.walk`), each
instant starting what is due at it (`Job.advance_eq_walk`). What is proved of one instant then holds
of all times that pass: times can be put behind one another (`Job.walk_add`), and what an instant
keeps of each job is kept (`Job.forall_mem_walk`, `Job.exists_mem_walk`).
-/

namespace FlowPeers

variable {σ τ : Type}

namespace Job

/-- Whether the next tick of a job is still to come and the ones after it are later. -/
structure IsWaiting (now : Nat) (job : Job τ) : Prop where
  lt_next : now < job.next
  interval_pos : 0 < job.interval

/-- Lets some milliseconds pass, one after the other, and starts at each instant what is due; no
jobs are left if one of them is stuck. -/
def walk (launch : Launch σ τ) : Nat → Nat → List (Job τ) → σ → Option (List (Job τ)) × σ
  | 0, _, jobs, s => (some jobs, s)
  | ms + 1, now, jobs, s =>
    if jobs.any (isStuck (now + 1)) then (none, s)
    else
      let (jobs, s) := fireAll launch (now + 1) jobs s
      walk launch ms (now + 1) jobs s

/-! ## One instant -/

/-- A job is in flight unless its last run is known to end by then. -/
theorem isBusy_eq_not_any (job : Job τ) (now : Nat) :
    job.isBusy now = !job.busyUntil.any (· ≤ now) := by
  rw [isBusy]
  cases job.busyUntil with
  | none => rfl
  | some t =>
    rw [Option.any_some, ← decide_not, decide_eq_decide]
    exact Nat.not_le.symm

theorem fire_of_lt {now : Nat} {job : Job τ} (h : now < job.next) (launch : Launch σ τ) (s : σ) :
    job.fire launch now s = (job, s) := by
  rw [fire, if_neg (by omega)]

/-- An instant changes nothing of a job but its next tick and when its last run ends. -/
theorem exists_fire_eq (launch : Launch σ τ) (now : Nat) (job : Job τ) (s : σ) :
    ∃ busyUntil, (job.fire launch now s).1 = { job with
      next := if job.next ≤ now then now + job.interval else job.next
      busyUntil := busyUntil } := by
  rw [fire]
  split
  · split
    · exact ⟨_, rfl⟩
    · exact ⟨_, rfl⟩
  · exact ⟨_, rfl⟩

@[simp] theorem fire_id (launch : Launch σ τ) (now : Nat) (job : Job τ) (s : σ) :
    (job.fire launch now s).1.id = job.id := by
  obtain ⟨busyUntil, heq⟩ := exists_fire_eq launch now job s
  rw [heq]

@[simp] theorem fire_interval (launch : Launch σ τ) (now : Nat) (job : Job τ) (s : σ) :
    (job.fire launch now s).1.interval = job.interval := by
  obtain ⟨busyUntil, heq⟩ := exists_fire_eq launch now job s
  rw [heq]

@[simp] theorem fire_task (launch : Launch σ τ) (now : Nat) (job : Job τ) (s : σ) :
    (job.fire launch now s).1.task = job.task := by
  obtain ⟨busyUntil, heq⟩ := exists_fire_eq launch now job s
  rw [heq]

theorem fire_next (launch : Launch σ τ) (now : Nat) (job : Job τ) (s : σ) :
    (job.fire launch now s).1.next =
      if job.next ≤ now then now + job.interval else job.next := by
  obtain ⟨busyUntil, heq⟩ := exists_fire_eq launch now job s
  rw [heq]

theorem isWaiting_fire {now : Nat} {job : Job τ} (h : 0 < job.interval) (launch : Launch σ τ)
    (s : σ) : (job.fire launch now s).1.IsWaiting now where
  lt_next := by
    rw [fire_next]
    split <;> omega
  interval_pos := by rwa [fire_interval]

theorem fireAll_cons (launch : Launch σ τ) (now : Nat) (job : Job τ) (rest : List (Job τ)) (s : σ) :
    fireAll launch now (job :: rest) s =
      ((job.fire launch now s).1 :: (fireAll launch now rest (job.fire launch now s).2).1,
        (fireAll launch now rest (job.fire launch now s).2).2) :=
  rfl

theorem fireAll_of_forall_lt {now : Nat} {jobs : List (Job τ)} (h : ∀ job ∈ jobs, now < job.next)
    (launch : Launch σ τ) (s : σ) : fireAll launch now jobs s = (jobs, s) := by
  induction jobs generalizing s with
  | nil => rfl
  | cons job rest ih =>
    obtain ⟨hjob, hrest⟩ := List.forall_mem_cons.1 h
    rw [fireAll_cons, fire_of_lt hjob, ih hrest]

/-- What holds of each job after an instant holds of all of them. -/
theorem forall_mem_fireAll {P : Job τ → Prop} {launch : Launch σ τ} {now : Nat}
    {jobs : List (Job τ)} (h : ∀ job ∈ jobs, ∀ s, P (job.fire launch now s).1) (s : σ) :
    ∀ job ∈ (fireAll launch now jobs s).1, P job := by
  induction jobs generalizing s with
  | nil => simp [fireAll]
  | cons job rest ih =>
    obtain ⟨hjob, hrest⟩ := List.forall_mem_cons.1 h
    rw [fireAll_cons]
    exact List.forall_mem_cons.2 ⟨hjob s, ih hrest _⟩

theorem exists_mem_fireAll (launch : Launch σ τ) (now : Nat) {jobs : List (Job τ)} {job : Job τ}
    (h : job ∈ jobs) (s : σ) : ∃ s', (job.fire launch now s').1 ∈ (fireAll launch now jobs s).1 := by
  induction jobs generalizing s with
  | nil => contradiction
  | cons first rest ih =>
    rw [fireAll_cons]
    rcases List.mem_cons.1 h with rfl | h
    · exact ⟨s, List.mem_cons_self ..⟩
    · obtain ⟨s', hs'⟩ := ih h (first.fire launch now s).2
      exact ⟨s', List.mem_cons_of_mem _ hs'⟩

theorem any_isStuck_of_forall_lt {now : Nat} {jobs : List (Job τ)}
    (h : ∀ job ∈ jobs, now < job.next) : jobs.any (isStuck now) = false := by
  rw [List.any_eq_false]
  intro job hjob hstuck
  have hlt := h job hjob
  simp only [isStuck, Bool.and_eq_true, decide_eq_true_eq] at hstuck
  omega

/-! ## Times that pass -/

theorem walk_succ_of_any {launch : Launch σ τ} {ms now : Nat} {jobs : List (Job τ)}
    (h : jobs.any (isStuck (now + 1))) (s : σ) : walk launch (ms + 1) now jobs s = (none, s) := by
  rw [walk, if_pos h]

theorem walk_succ {launch : Launch σ τ} {ms now : Nat} {jobs : List (Job τ)}
    (h : jobs.any (isStuck (now + 1)) = false) (s : σ) :
    walk launch (ms + 1) now jobs s = walk launch ms (now + 1)
      (fireAll launch (now + 1) jobs s).1 (fireAll launch (now + 1) jobs s).2 := by
  rw [walk, if_neg (by simp [h])]

/-- Nothing happens before the first tick. -/
theorem walk_of_forall_lt {ms now : Nat} {jobs : List (Job τ)}
    (h : ∀ job ∈ jobs, now + ms < job.next) (launch : Launch σ τ) (s : σ) :
    walk launch ms now jobs s = (some jobs, s) := by
  induction ms generalizing now with
  | zero => rfl
  | succ ms ih =>
    have hnow : ∀ job ∈ jobs, now + 1 < job.next := by
      intro job hjob
      have := h job hjob
      omega
    rw [walk_succ (any_isStuck_of_forall_lt hnow), fireAll_of_forall_lt hnow]
    refine ih ?_
    intro job hjob
    have := h job hjob
    omega

theorem walk_add (launch : Launch σ τ) (ms ms' now : Nat) (jobs : List (Job τ)) (s : σ) :
    walk launch (ms + ms') now jobs s =
      match walk launch ms now jobs s with
      | (some jobs, s) => walk launch ms' (now + ms) jobs s
      | (none, s) => (none, s) := by
  induction ms generalizing now jobs s with
  | zero => simp [walk]
  | succ ms ih =>
    rw [show ms + 1 + ms' = ms + ms' + 1 by omega]
    cases hstuck : jobs.any (isStuck (now + 1)) with
    | true => rw [walk_succ_of_any hstuck, walk_succ_of_any hstuck]
    | false =>
      rw [walk_succ hstuck, walk_succ hstuck, ih, show now + 1 + ms = now + (ms + 1) by omega]

/-- What each instant keeps of a table of jobs is kept while time passes. -/
theorem walk_keeps {Q : Nat → List (Job τ) → Prop} {launch : Launch σ τ} {ms now : Nat}
    {jobs jobs' : List (Job τ)} {s s' : σ}
    (hQ : ∀ t, now ≤ t → t < now + ms → ∀ jobs s, Q t jobs →
      jobs.any (isStuck (t + 1)) = false → Q (t + 1) (fireAll launch (t + 1) jobs s).1)
    (h : walk launch ms now jobs s = (some jobs', s')) (hjobs : Q now jobs) :
    Q (now + ms) jobs' := by
  induction ms generalizing now jobs s with
  | zero =>
    cases h
    exact hjobs
  | succ ms ih =>
    cases hstuck : jobs.any (isStuck (now + 1)) with
    | true =>
      rw [walk_succ_of_any hstuck] at h
      cases h
    | false =>
      rw [walk_succ hstuck] at h
      rw [show now + (ms + 1) = now + 1 + ms by omega]
      exact ih (fun t hle hlt => hQ t (by omega) (by omega)) h
        (hQ now (by omega) (by omega) jobs s hjobs hstuck)

theorem isStuck_of_any_eq_false {now : Nat} {jobs : List (Job τ)} {job : Job τ}
    (h : jobs.any (isStuck now) = false) (hjob : job ∈ jobs) : job.isStuck now = false := by
  simpa using List.any_eq_false.1 h job hjob

/-- What each instant keeps of all jobs is kept while time passes. -/
theorem forall_mem_walk {P : Nat → Job τ → Prop} {launch : Launch σ τ} {ms now : Nat}
    {jobs jobs' : List (Job τ)} {s s' : σ}
    (hP : ∀ t, now ≤ t → t < now + ms → ∀ job s, P t job → job.isStuck (t + 1) = false →
      P (t + 1) (job.fire launch (t + 1) s).1)
    (h : walk launch ms now jobs s = (some jobs', s')) (hjobs : ∀ job ∈ jobs, P now job) :
    ∀ job ∈ jobs', P (now + ms) job := by
  refine walk_keeps (Q := fun t jobs => ∀ job ∈ jobs, P t job) ?_ h hjobs
  intro t hle hlt jobs s hall hstuck
  exact forall_mem_fireAll (fun job hjob s =>
    hP t hle hlt job s (hall job hjob) (isStuck_of_any_eq_false hstuck hjob)) s

/-- What each instant keeps of one job is kept while time passes. -/
theorem exists_mem_walk {P : Nat → Job τ → Prop} {launch : Launch σ τ} {ms now : Nat}
    {jobs jobs' : List (Job τ)} {s s' : σ}
    (hP : ∀ t, now ≤ t → t < now + ms → ∀ job s, P t job → job.isStuck (t + 1) = false →
      P (t + 1) (job.fire launch (t + 1) s).1)
    (h : walk launch ms now jobs s = (some jobs', s')) (hjobs : ∃ job ∈ jobs, P now job) :
    ∃ job ∈ jobs', P (now + ms) job := by
  refine walk_keeps (Q := fun t jobs => ∃ job ∈ jobs, P t job) ?_ h hjobs
  rintro t hle hlt jobs s ⟨job, hjob, hnow⟩ hstuck
  obtain ⟨s₁, hmem⟩ := exists_mem_fireAll launch (t + 1) hjob s
  exact ⟨_, hmem, hP t hle hlt job s₁ hnow (isStuck_of_any_eq_false hstuck hjob)⟩

theorem isWaiting_walk {launch : Launch σ τ} {ms now : Nat} {jobs jobs' : List (Job τ)} {s s' : σ}
    (h : walk launch ms now jobs s = (some jobs', s')) (hjobs : ∀ job ∈ jobs, job.IsWaiting now) :
    ∀ job ∈ jobs', job.IsWaiting (now + ms) :=
  forall_mem_walk (P := IsWaiting)
    (fun _ _ _ _ s hjob _ => isWaiting_fire hjob.interval_pos launch s) h hjobs

/-! ## Going from tick to tick -/

theorem earliest?_eq_none_iff {jobs : List (Job τ)} : earliest? jobs = none ↔ jobs = [] := by
  cases jobs with
  | nil => simp [earliest?]
  | cons job rest =>
    rw [earliest?]
    cases earliest? rest <;> simp

theorem le_next_of_earliest? {jobs : List (Job τ)} {t : Nat} (h : earliest? jobs = some t) :
    ∀ job ∈ jobs, t ≤ job.next := by
  induction jobs generalizing t with
  | nil => simp
  | cons first rest ih =>
    rw [earliest?] at h
    intro job hjob
    cases hrest : earliest? rest with
    | none =>
      rw [earliest?_eq_none_iff.1 hrest, List.mem_singleton] at hjob
      rw [hrest] at h
      cases h
      exact Nat.le_of_eq (congrArg next hjob.symm)
    | some t' =>
      rw [hrest] at h
      cases h
      rcases List.mem_cons.1 hjob with rfl | hjob
      · omega
      · have := ih hrest job hjob
        omega

theorem exists_next_eq_of_earliest? {jobs : List (Job τ)} {t : Nat}
    (h : earliest? jobs = some t) : ∃ job ∈ jobs, job.next = t := by
  induction jobs generalizing t with
  | nil => simp [earliest?] at h
  | cons first rest ih =>
    rw [earliest?] at h
    cases hrest : earliest? rest with
    | none =>
      rw [hrest] at h
      cases h
      exact ⟨first, List.mem_cons_self .., rfl⟩
    | some t' =>
      rw [hrest] at h
      cases h
      rcases Nat.le_total first.next t' with hle | hle
      · exact ⟨first, List.mem_cons_self .., (Nat.min_eq_left hle).symm⟩
      · obtain ⟨job, hjob, hnext⟩ := ih hrest
        refine ⟨job, List.mem_cons_of_mem _ hjob, ?_⟩
        rw [hnext, Nat.min_eq_right hle]

theorem advanceBy_eq_walk {launch : Launch σ τ} {limit now ticks : Nat} {jobs : List (Job τ)}
    (hjobs : ∀ job ∈ jobs, job.IsWaiting now) (hticks : limit - now ≤ ticks) (s : σ) :
    advanceBy launch limit ticks jobs s = walk launch (limit - now) now jobs s := by
  induction ticks generalizing now jobs s with
  | zero =>
    rw [show limit - now = 0 by omega]
    rfl
  | succ ticks ih =>
    rw [advanceBy]
    cases hfirst : earliest? jobs with
    | none =>
      rw [earliest?_eq_none_iff.1 hfirst]
      exact (walk_of_forall_lt (by simp) launch s).symm
    | some t =>
      have hle := le_next_of_earliest? hfirst
      simp only
      split
      · next hlimit =>
        obtain ⟨first, hmem, rfl⟩ := exists_next_eq_of_earliest? hfirst
        have hlt := (hjobs first hmem).lt_next
        -- nothing happens until the millisecond before the first tick
        have hidle : ∀ job ∈ jobs, now + (first.next - now - 1) < job.next := by
          intro job hjob
          have := hle job hjob
          omega
        rw [show limit - now = first.next - now - 1 + (limit - first.next + 1) by omega, walk_add,
          walk_of_forall_lt hidle]
        simp only
        have hnext : now + (first.next - now - 1) + 1 = first.next := by omega
        cases hstuck : jobs.any (isStuck first.next) with
        | true => rw [walk_succ_of_any (by rw [hnext, hstuck]), if_pos rfl]
        | false =>
          rw [walk_succ (by rw [hnext, hstuck]), if_neg Bool.false_ne_true, hnext]
          refine ih ?_ (by omega) _
          exact forall_mem_fireAll
            (fun job hjob s => isWaiting_fire (hjobs job hjob).interval_pos launch s) s
      · next hlimit =>
        refine (walk_of_forall_lt ?_ launch s).symm
        intro job hjob
        have := hle job hjob
        have := (hjobs job hjob).lt_next
        omega

/-- Going from tick to tick is going from instant to instant. -/
theorem advance_eq_walk {launch : Launch σ τ} {limit now : Nat} {jobs : List (Job τ)}
    (hjobs : ∀ job ∈ jobs, job.IsWaiting now) (s : σ) :
    advance launch limit now jobs s = walk launch (limit - now) now jobs s :=
  advanceBy_eq_walk hjobs (Nat.le_refl _) s

end Job

end FlowPeers
