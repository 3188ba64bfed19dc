import FlowPeers.Proofs.Plan

/-!
# The runs that a scheduler starts

A scheduler keeps nothing of the runs that it has started but when the last one of each job ends.
Here they are told: a `Start` is a run with its surroundings before and after, `Job.startsFor` and
`KeepAlive.starts` list those of a time that passes, and one leads to the next until the surroundings
are what that time has made of them (`Start.Chain`, `KeepAlive.chain_advance`).

A job follows a plan if it is what its scheduler should keep of the plan, given the runs that have
started (`Job.Follows`). Every instant keeps this (`Job.Follows.fire`), so does time that passes
(`Job.Follows.walk`), and the runs start as the plan says then (`Job.Follows.isKept`), whatever other
jobs the scheduler has. A scheduler minds a plan if exactly one of its jobs has the number of the plan
and follows it (`KeepAlive.Minds`), which it does from the moment at which the job was scheduled
(`KeepAlive.minds_schedule_self`) until it is taken back.

Nothing of this needs the clock to go on for ever: it has to tell the ticks that come
(`Job.HasTime`).
-/

namespace FlowPeers

variable {σ τ : Type}

/-- A run of a job, as it starts. -/
structure Start (σ τ : Type) where
  /-- The number of the job. -/
  number : Nat
  /-- When it starts. -/
  time : Nat
  /-- What is done. -/
  task : τ
  /-- The surroundings in which it starts. -/
  before : σ
  /-- What starting it makes of them. -/
  after : σ
  /-- How long it takes, if it ever ends. -/
  length : Option Nat

namespace Start

/-- Whether starts lead from surroundings to others: each finds what the one before has left, and
makes of it what its task does. -/
inductive Chain (launch : Launch σ τ) : σ → List (Start σ τ) → σ → Prop
  | nil (s : σ) : Chain launch s [] s
  | cons {x : Start σ τ} {rest : List (Start σ τ)} {s' : σ}
      (h : launch x.time x.task x.before = (x.after, x.length)) (later : Chain launch x.after rest s') :
      Chain launch x.before (x :: rest) s'

/-- How long the run takes that has started at an instant. -/
def lengthIn (starts : List (Start σ τ)) (t : Nat) : Option Nat :=
  (starts.find? (·.time == t)).bind (·.length)

variable {launch : Launch σ τ} {s s' s'' : σ} {starts starts' : List (Start σ τ)}

theorem Chain.append (h : Chain launch s starts s') (h' : Chain launch s' starts' s'') :
    Chain launch s (starts ++ starts') s'' := by
  induction h with
  | nil s => exact h'
  | cons h _ ih => exact .cons h (ih h')

theorem Chain.launch_eq (h : Chain launch s starts s') :
    ∀ x ∈ starts, launch x.time x.task x.before = (x.after, x.length) := by
  induction h with
  | nil s => simp
  | cons h _ ih => exact List.forall_mem_cons.2 ⟨h, ih⟩

/-- What only grows when a task starts has grown since each start. -/
theorem Chain.grows {R : σ → σ → Prop} (hrefl : ∀ s, R s s)
    (htrans : ∀ s s' s'', R s s' → R s' s'' → R s s'')
    (hlaunch : ∀ now task s, R s (launch now task s).1) (h : Chain launch s starts s') :
    R s s' ∧ ∀ x ∈ starts, R x.after s' := by
  induction h with
  | nil s => exact ⟨hrefl s, by simp⟩
  | @cons x rest s' h _ ih =>
    obtain ⟨hrest, hlater⟩ := ih
    have hfirst := hlaunch x.time x.task x.before
    rw [h] at hfirst
    exact ⟨htrans _ _ _ hfirst hrest, List.forall_mem_cons.2 ⟨hrest, hlater⟩⟩

theorem lengthIn_of_mem (hsorted : starts.Pairwise (·.time < ·.time)) {x : Start σ τ}
    (hx : x ∈ starts) : lengthIn starts x.time = x.length := by
  induction starts with
  | nil => contradiction
  | cons first rest ih =>
    obtain ⟨hfirst, hrest⟩ := List.pairwise_cons.1 hsorted
    rcases List.mem_cons.1 hx with rfl | hx
    · simp [lengthIn]
    · have hne : (first.time == x.time) = false := beq_false_of_ne (Nat.ne_of_lt (hfirst x hx))
      rw [lengthIn, List.find?_cons_of_neg (by simp [hne])]
      exact ih hrest hx

end Start

/-! ## Runs that keep a plan -/

namespace Plan

variable {p : Plan} {length : Nat → Option Nat} {stop : Nat} {starts : List Nat}

/-- Runs start no sooner than one interval after the beginning of the job, -/
theorem IsKept.since_add_le (h : p.IsKept length stop starts) {t : Nat} (ht : t ∈ starts) :
    p.since + p.interval ≤ t := by
  obtain ⟨k, hpos, rfl, -⟩ := h.ticks t ht
  have hle : 1 * p.interval ≤ k * p.interval := Nat.mul_le_mul_right _ hpos
  rw [tick]
  omega

/-- and no sooner than one interval after one another. -/
theorem IsKept.apart (h : p.IsKept length stop starts) (hinterval : 0 < p.interval) :
    starts.Pairwise fun t t' => t + p.interval ≤ t' := by
  refine h.sorted.imp_of_mem fun {t t'} ht ht' hlt => ?_
  obtain ⟨k, -, rfl, -⟩ := h.ticks t ht
  obtain ⟨k', -, rfl, -⟩ := h.ticks t' ht'
  rw [← tick_succ, tick_le_tick hinterval]
  exact (tick_lt_tick hinterval).1 hlt

/-- If every run is over by the next tick, every tick starts one. -/
theorem IsKept.tick_mem (h : p.IsKept length stop starts) (hinterval : 0 < p.interval)
    (hquick : ∀ t ∈ starts, ∃ ms, length t = some ms ∧ ms ≤ p.interval) {k : Nat} (hpos : 0 < k)
    (hle : p.tick k ≤ stop) : p.tick k ∈ starts := by
  rw [h.mem_iff k hpos hle]
  intro t ht hlt
  obtain ⟨ms, hms, hshort⟩ := hquick t ht
  obtain ⟨j, -, rfl, -⟩ := h.ticks t ht
  have hnext : p.tick (j + 1) ≤ p.tick k :=
    (tick_le_tick hinterval).2 ((tick_lt_tick hinterval).1 hlt)
  rw [tick_succ] at hnext
  exact ⟨ms, hms, by omega⟩

theorem IsKept.eq_ticks (h : p.IsKept length stop starts) (hinterval : 0 < p.interval)
    (hsince : p.since ≤ stop)
    (hquick : ∀ t ∈ starts, ∃ ms, length t = some ms ∧ ms ≤ p.interval) :
    starts = (List.range (p.ticksBy stop)).map fun k => p.tick (k + 1) := by
  have hticks : ((List.range (p.ticksBy stop)).map fun k => p.tick (k + 1)).Pairwise (· < ·) := by
    rw [List.pairwise_map]
    exact List.pairwise_lt_range.imp fun hlt => (tick_lt_tick hinterval).2 (Nat.succ_lt_succ hlt)
  refine h.sorted.eq_of_mem_iff hticks fun t => ?_
  rw [List.mem_map]
  constructor
  · intro ht
    obtain ⟨k, hpos, rfl, hle⟩ := h.ticks t ht
    have hk := (le_ticksBy_iff hinterval hsince).2 hle
    exact ⟨k - 1, List.mem_range.2 (by omega), by rw [Nat.sub_add_cancel hpos]⟩
  · rintro ⟨k, hk, rfl⟩
    exact h.tick_mem hinterval hquick (Nat.succ_pos k)
      ((le_ticksBy_iff hinterval hsince).1 (List.mem_range.1 hk))

/-- In every time of the length of an interval there is a tick. -/
theorem exists_tick_mem (p : Plan) (hinterval : 0 < p.interval) {t : Nat} (hsince : p.since ≤ t) :
    ∃ k, 0 < k ∧ t < p.tick k ∧ p.tick k ≤ t + p.interval := by
  refine ⟨p.ticksBy t + 1, Nat.succ_pos _, ?_, ?_⟩
  · exact (IsUnderWay.mk hinterval hsince).lt_tick
  · have hlast := (le_ticksBy_iff hinterval hsince).1 (Nat.le_refl (p.ticksBy t))
    rw [tick_succ]
    omega

end Plan

/-! ## The starts of a time that passes -/

namespace Job

/-- The run of a job that starts at an instant, if one does. -/
def start? (launch : Launch σ τ) (now : Nat) (job : Job τ) (s : σ) : Option (Start σ τ) :=
  if job.next ≤ now ∧ job.isBusy now = false then
    some ⟨job.id, now, job.task, s, (launch now job.task s).1, (launch now job.task s).2⟩
  else none

/-- The runs that start at an instant. -/
def startsAt (launch : Launch σ τ) (now : Nat) : List (Job τ) → σ → List (Start σ τ)
  | [], _ => []
  | job :: rest, s =>
    (job.start? launch now s).toList ++ startsAt launch now rest (job.fire launch now s).2

/-- The runs that start in some milliseconds, unless a job gets stuck. -/
def startsFor (launch : Launch σ τ) : Nat → Nat → List (Job τ) → σ → List (Start σ τ)
  | 0, _, _, _ => []
  | ms + 1, now, jobs, s =>
    if jobs.any (isStuck (now + 1)) then []
    else
      startsAt launch (now + 1) jobs s ++
        startsFor launch ms (now + 1) (fireAll launch (now + 1) jobs s).1
          (fireAll launch (now + 1) jobs s).2

variable {launch : Launch σ τ} {now n : Nat} {job : Job τ} {jobs : List (Job τ)} {s : σ}

theorem start?_eq_some_iff {x : Start σ τ} : job.start? launch now s = some x ↔
    (job.next ≤ now ∧ job.isBusy now = false) ∧
      ⟨job.id, now, job.task, s, (launch now job.task s).1, (launch now job.task s).2⟩ = x := by
  rw [start?]
  split
  · next h => simp [h]
  · next h => simp [h]

theorem start?_eq_none_iff :
    job.start? launch now s = none ↔ (job.next ≤ now → job.isBusy now = true) := by
  rw [start?]
  split
  · next h => simp [h]
  · next h => simpa using h

/-- A job at an instant at which a run of it starts. -/
theorem fire_of_start?_eq_some {x : Start σ τ} (h : job.start? launch now s = some x) :
    job.fire launch now s =
      ({ job with next := now + job.interval, busyUntil := x.length.map (now + ·) }, x.after) := by
  obtain ⟨⟨hdue, hidle⟩, rfl⟩ := start?_eq_some_iff.1 h
  rw [fire, if_pos hdue, if_neg (by simp [hidle])]

/-- A job at an instant at which no run of it starts. -/
theorem fire_of_start?_eq_none (h : job.start? launch now s = none) :
    job.fire launch now s =
      ({ job with next := if job.next ≤ now then now + job.interval else job.next }, s) := by
  rw [start?_eq_none_iff] at h
  rw [fire]
  split
  · next hdue => rw [if_pos (h hdue)]
  · rfl

theorem chain_fire (launch : Launch σ τ) (now : Nat) (job : Job τ) (s : σ) :
    Start.Chain launch s (job.start? launch now s).toList (job.fire launch now s).2 := by
  cases h : job.start? launch now s with
  | none =>
    rw [fire_of_start?_eq_none h]
    exact .nil s
  | some x =>
    rw [fire_of_start?_eq_some h]
    obtain ⟨-, rfl⟩ := start?_eq_some_iff.1 h
    exact .cons (x := ⟨job.id, now, job.task, s, _, _⟩) rfl (.nil _)

theorem chain_fireAll (launch : Launch σ τ) (now : Nat) (jobs : List (Job τ)) (s : σ) :
    Start.Chain launch s (startsAt launch now jobs s) (fireAll launch now jobs s).2 := by
  induction jobs generalizing s with
  | nil => exact .nil s
  | cons job rest ih => exact (chain_fire launch now job s).append (ih _)

theorem startsFor_succ {ms : Nat} (h : jobs.any (isStuck (now + 1)) = false) (s : σ) :
    startsFor launch (ms + 1) now jobs s = startsAt launch (now + 1) jobs s ++
      startsFor launch ms (now + 1) (fireAll launch (now + 1) jobs s).1
        (fireAll launch (now + 1) jobs s).2 := by
  rw [startsFor, if_neg (by simp [h])]

/-- What becomes of the surroundings while time passes is what the starts make of them. -/
theorem chain_walk (launch : Launch σ τ) (ms now : Nat) (jobs : List (Job τ)) (s : σ) :
    Start.Chain launch s (startsFor launch ms now jobs s) (walk launch ms now jobs s).2 := by
  induction ms generalizing now jobs s with
  | zero => exact .nil s
  | succ ms ih =>
    cases hstuck : jobs.any (isStuck (now + 1)) with
    | true =>
      rw [walk_succ_of_any hstuck, startsFor, if_pos hstuck]
      exact .nil s
    | false =>
      rw [walk_succ hstuck, startsFor_succ hstuck]
      exact (chain_fireAll launch (now + 1) jobs s).append (ih _ _ _)

/-! ## One job among others -/

theorem filter_start?_of_ne (h : job.id ≠ n) :
    (job.start? launch now s).toList.filter (·.number == n) = [] := by
  cases hstart : job.start? launch now s with
  | none => rfl
  | some x =>
    obtain ⟨-, rfl⟩ := start?_eq_some_iff.1 hstart
    simp [h]

theorem filter_start?_self :
    (job.start? launch now s).toList.filter (·.number == job.id) =
      (job.start? launch now s).toList := by
  cases hstart : job.start? launch now s with
  | none => rfl
  | some x =>
    obtain ⟨-, rfl⟩ := start?_eq_some_iff.1 hstart
    simp

/-- Without jobs of a number no run of that number starts. -/
theorem filter_fireAll_eq_nil (h : jobs.filter (·.id == n) = []) (launch : Launch σ τ) (now : Nat)
    (s : σ) : (fireAll launch now jobs s).1.filter (·.id == n) = [] ∧
      (startsAt launch now jobs s).filter (·.number == n) = [] := by
  induction jobs generalizing s with
  | nil => exact ⟨rfl, rfl⟩
  | cons first rest ih =>
    rw [List.filter_cons] at h
    split at h
    · contradiction
    · next hid =>
      have hne : first.id ≠ n := by simpa using hid
      obtain ⟨hjobs, hstarts⟩ := ih h (first.fire launch now s).2
      rw [fireAll_cons, startsAt, List.filter_append, filter_start?_of_ne hne,
        List.filter_cons_of_neg (by simpa using hne)]
      exact ⟨hjobs, hstarts⟩

/-- The one job of a number is fired at an instant like all others, and its are the runs of that
number which start. -/
theorem exists_filter_fireAll (h : jobs.filter (·.id == n) = [job]) (launch : Launch σ τ) (now : Nat)
    (s : σ) : ∃ s', (fireAll launch now jobs s).1.filter (·.id == n) =
        [(job.fire launch now s').1] ∧
      (startsAt launch now jobs s).filter (·.number == n) =
        (job.start? launch now s').toList := by
  induction jobs generalizing s with
  | nil => contradiction
  | cons first rest ih =>
    rw [List.filter_cons] at h
    rw [fireAll_cons, startsAt, List.filter_append]
    split at h
    · next hid =>
      obtain ⟨rfl, hrest⟩ := List.cons.inj h
      obtain ⟨hjobs, hstarts⟩ := filter_fireAll_eq_nil hrest launch now (first.fire launch now s).2
      rw [beq_iff_eq] at hid
      subst hid
      refine ⟨s, ?_, ?_⟩
      · rw [List.filter_cons_of_pos (by simp), hjobs]
      · rw [filter_start?_self, hstarts, List.append_nil]
    · next hid =>
      have hne : first.id ≠ n := by simpa using hid
      obtain ⟨s', hjobs, hstarts⟩ := ih h (first.fire launch now s).2
      refine ⟨s', ?_, ?_⟩
      · rw [List.filter_cons_of_neg (by simpa using hne), hjobs]
      · rw [filter_start?_of_ne hne, hstarts, List.nil_append]

/-! ## Following a plan -/

/-- Whether a job is what is to be kept of a plan at an instant, some runs of it having started. -/
structure Follows (p : Plan) (now : Nat) (starts : List (Start σ τ)) (job : Job τ) : Prop where
  underWay : p.IsUnderWay now
  interval_eq : job.interval = p.interval
  next_eq : job.next = p.tick (p.ticksBy now + 1)
  /-- The runs are those of the timetable, if this goes by their lengths. -/
  runs_eq : ∀ length, (∀ x ∈ starts, length x.time = x.length) →
    p.runs length (p.ticksBy now) = (job.busyUntil, starts.map (·.time))
  tasks : ∀ x ∈ starts, x.task = job.task
  le_now : ∀ x ∈ starts, x.time ≤ now
  sorted : starts.Pairwise (·.time < ·.time)

variable {p : Plan} {starts : List (Start σ τ)}

/-- The runs of a job that follows a plan start as the plan says. -/
theorem Follows.isKept (h : job.Follows p now starts) :
    p.IsKept (Start.lengthIn starts) now (starts.map (·.time)) := by
  have hruns := h.runs_eq (Start.lengthIn starts) fun x hx => Start.lengthIn_of_mem h.sorted hx
  have hkept : p.IsKept (Start.lengthIn starts) now (p.startsBy (Start.lengthIn starts) now) :=
    Plan.isKept_startsBy h.underWay.interval_pos h.underWay.since_le
  rwa [Plan.startsBy, hruns] at hkept

/-- A job that follows its plan until an instant follows it until the next one. -/
theorem Follows.fire (h : job.Follows p now starts) (launch : Launch σ τ) (s : σ) :
    (job.fire launch (now + 1) s).1.Follows p (now + 1)
      (starts ++ (job.start? launch (now + 1) s).toList) := by
  have hlt := h.underWay.lt_tick
  have hsucc := Plan.ticksBy_succ h.underWay.interval_pos h.underWay.since_le
  have hafter := p.tick_succ (p.ticksBy now + 1)
  have hnext := h.next_eq
  have hunderWay := h.underWay.mono (Nat.le_succ now)
  have hle : ∀ x ∈ starts, x.time ≤ now + 1 := fun x hx => Nat.le_succ_of_le (h.le_now x hx)
  -- the number of ticks goes up exactly if the job is due, also when an earlier run is in flight
  cases hstart : job.start? launch (now + 1) s with
  | some x =>
    rw [fire_of_start?_eq_some hstart]
    obtain ⟨⟨hdue, hidle⟩, rfl⟩ := start?_eq_some_iff.1 hstart
    have htick : p.tick (p.ticksBy now + 1) = now + 1 := by omega
    rw [if_pos htick] at hsucc
    rw [isBusy_eq_not_any, Bool.not_eq_false'] at hidle
    refine
      { underWay := hunderWay
        interval_eq := h.interval_eq
        next_eq := by rw [hsucc, hafter, htick, h.interval_eq]
        runs_eq := ?_
        tasks := ?_
        le_now := ?_
        sorted := ?_ }
    · intro length hlength
      obtain ⟨hbefore, hnew⟩ := List.forall_mem_append.1 hlength
      have hnow : length (now + 1) = (launch (now + 1) job.task s).2 :=
        hnew _ (List.mem_singleton_self _)
      rw [hsucc, Plan.runs, h.runs_eq length hbefore, htick]
      simp only [hidle, if_true, Option.toList_some, List.map_append, List.map_singleton, hnow]
    · exact List.forall_mem_append.2 ⟨h.tasks, by simp⟩
    · exact List.forall_mem_append.2 ⟨hle, by simp⟩
    · refine List.pairwise_append.2 ⟨h.sorted, by simp, fun x hx y hy => ?_⟩
      simp only [Option.toList_some, List.mem_singleton] at hy
      rw [hy]
      exact Nat.lt_succ_of_le (h.le_now x hx)
  | none =>
    rw [fire_of_start?_eq_none hstart, Option.toList_none, List.append_nil]
    rw [start?_eq_none_iff, isBusy_eq_not_any, Bool.not_eq_true'] at hstart
    refine
      { underWay := hunderWay
        interval_eq := h.interval_eq
        next_eq := ?_
        runs_eq := ?_
        tasks := h.tasks
        le_now := hle
        sorted := h.sorted }
    · simp only
      rw [hsucc, h.interval_eq]
      split <;> split <;> omega
    · intro length hlength
      have hruns := h.runs_eq length hlength
      rw [hsucc]
      split
      · next htick =>
        rw [Plan.runs, hruns, htick]
        simp only [hstart (by omega), Bool.false_eq_true, if_false]
      · exact hruns

/-- A job that follows its plan goes on to do so while time passes, whatever other jobs there are. -/
theorem Follows.walk {ms : Nat} {jobs' : List (Job τ)} {s' : σ}
    (hjobs : jobs.filter (·.id == n) = [job]) (h : job.Follows p now starts)
    (hwalk : walk launch ms now jobs s = (some jobs', s')) :
    ∃ job', jobs'.filter (·.id == n) = [job'] ∧ job'.task = job.task ∧
      job'.Follows p (now + ms)
        (starts ++ (startsFor launch ms now jobs s).filter (·.number == n)) := by
  induction ms generalizing now job jobs s starts with
  | zero =>
    cases hwalk
    exact ⟨job, hjobs, rfl, by simpa [startsFor] using h⟩
  | succ ms ih =>
    cases hstuck : jobs.any (isStuck (now + 1)) with
    | true =>
      rw [walk_succ_of_any hstuck] at hwalk
      cases hwalk
    | false =>
      rw [walk_succ hstuck] at hwalk
      -- the other jobs only decide in which surroundings this one is fired
      obtain ⟨s₁, hfire, hnew⟩ := exists_filter_fireAll hjobs launch (now + 1) s
      obtain ⟨job', hjobs', htask, hfollows⟩ := ih hfire (h.fire launch s₁) hwalk
      refine ⟨job', hjobs', by rw [htask, fire_task], ?_⟩
      rw [startsFor_succ hstuck, List.filter_append, hnew, ← List.append_assoc,
        show now + (ms + 1) = now + 1 + ms by omega]
      exact hfollows

/-! ## Time enough -/

/-- Whether the clock can tell, of each tick up to an instant, the tick after it. -/
def HasTime (limit : Nat) (job : Job τ) : Prop :=
  ∀ k, job.next + k * job.interval ≤ limit →
    job.next + (k + 1) * job.interval ≤ KeepAlive.lastInstant

theorem HasTime.isStuck {limit : Nat} (h : job.HasTime limit) (hwaiting : job.IsWaiting now)
    (hlimit : now + 1 ≤ limit) : job.isStuck (now + 1) = false := by
  have hfirst := h 0
  have hlt := hwaiting.lt_next
  rw [Nat.zero_mul, Nat.zero_add, Nat.one_mul] at hfirst
  rw [Bool.eq_false_iff]
  intro hstuck
  rw [Job.isStuck, Bool.and_eq_true, decide_eq_true_eq, decide_eq_true_eq] at hstuck
  omega

theorem HasTime.fire {limit : Nat} (h : job.HasTime limit) (hwaiting : job.IsWaiting now)
    (launch : Launch σ τ) (s : σ) : (job.fire launch (now + 1) s).1.HasTime limit := by
  have hlt := hwaiting.lt_next
  intro k
  rw [fire_next, fire_interval]
  split
  · -- the ticks that are left are those after the one that has come
    have hnext := h (k + 1)
    rw [Nat.succ_mul k, Nat.succ_mul (k + 1)] at hnext
    rw [Nat.succ_mul k] at hnext ⊢
    omega
  · exact h k

/-- No job gets stuck while the clock can tell the ticks. -/
theorem exists_walk_of_hasTime (launch : Launch σ τ) {limit ms : Nat} (hlimit : now + ms ≤ limit)
    (hwaiting : ∀ job ∈ jobs, job.IsWaiting now) (hjobs : ∀ job ∈ jobs, job.HasTime limit) (s : σ) :
    ∃ jobs' s', walk launch ms now jobs s = (some jobs', s') := by
  induction ms generalizing now jobs s with
  | zero => exact ⟨jobs, s, rfl⟩
  | succ ms ih =>
    have hstuck : jobs.any (Job.isStuck (now + 1)) = false := by
      rw [List.any_eq_false]
      intro job hjob
      rw [(hjobs job hjob).isStuck (hwaiting job hjob) (by omega)]
      exact Bool.false_ne_true
    rw [walk_succ hstuck]
    have hlimit' : now + 1 + ms ≤ limit := by omega
    exact ih hlimit'
      (forall_mem_fireAll (fun job hjob s =>
        isWaiting_fire (hwaiting job hjob).interval_pos launch s) s)
      (forall_mem_fireAll (fun job hjob s => (hjobs job hjob).fire (hwaiting job hjob) launch s) s) _

end Job

namespace KeepAlive

/-- The runs that a scheduler starts until an instant. -/
def starts (launch : Launch σ τ) (limit now : Nat) (k : KeepAlive τ) (s : σ) : List (Start σ τ) :=
  Job.startsFor launch (limit - now) now (k.settle now).jobs s

/-- Whether exactly one job of a scheduler has the number of a plan, when it has received what it was
told, and this job does a task by the plan, some runs having started. -/
def Minds (now : Nat) (p : Plan) (task : τ) (starts : List (Start σ τ)) (k : KeepAlive τ) : Prop :=
  ∃ job, (k.settle now).jobs.filter (·.id == p.number) = [job] ∧ job.task = task ∧
    job.Follows p now (starts.filter (·.number == p.number))

variable {now limit : Nat} {k : KeepAlive τ} {launch : Launch σ τ} {p : Plan} {task : τ}
  {starts : List (Start σ τ)}

/-- A sound scheduler makes of the surroundings what the runs make of them that it starts. -/
theorem chain_advance (h : k.IsSound now) (launch : Launch σ τ) (limit : Nat) (s : σ) :
    Start.Chain launch s (k.starts launch limit now s) (k.advance launch limit now s).2 := by
  rw [advance_eq_walk h]
  exact Job.chain_walk ..

theorem exists_advance_of_hasTime (h : k.IsSound now) (hnow : now ≤ limit)
    (hjobs : ∀ job ∈ (k.settle now).jobs, job.HasTime limit) (launch : Launch σ τ) (s : σ) :
    ∃ jobs s', Job.walk launch (limit - now) now (k.settle now).jobs s = (some jobs, s') ∧
      k.advance launch limit now s = ({ k.settle now with jobs := jobs }, s') := by
  have hlimit : now + (limit - now) ≤ limit := by omega
  obtain ⟨jobs, s', hwalk⟩ :=
    Job.exists_walk_of_hasTime launch hlimit (isSound_settle h).waiting hjobs s
  refine ⟨jobs, s', hwalk, ?_⟩
  rw [advance_eq_walk h, hwalk]
  rfl

theorem follows_new {interval id : Nat} (hpos : 0 < interval) (now : Nat) (task : τ) :
    (⟨id, interval, now + interval, task, some 0⟩ : Job τ).Follows ⟨id, now, interval, none⟩ now
      ([] : List (Start σ τ)) where
  underWay := ⟨hpos, Nat.le_refl now⟩
  interval_eq := rfl
  next_eq := by
    rw [Plan.ticksBy_since, Plan.tick]
    simp
  runs_eq := by
    intro length _
    rw [Plan.ticksBy_since]
    rfl
  tasks := by simp
  le_now := by simp
  sorted := .nil

/-- A scheduler minds what it was just told to do. -/
theorem minds_schedule_self (h : k.IsSound now) {interval : Nat} (hopen : k.isShutDown = false)
    (hrunning : (k.settle now).isStopped = false)
    (hfits : now + max interval shortestInterval ≤ lastInstant) (task : τ) :
    (k.schedule interval task).1.Minds now
      ⟨k.nextId, now, max interval shortestInterval, none⟩ task ([] : List (Start σ τ)) := by
  have hpos : 0 < max interval shortestInterval := by
    rw [shortestInterval]
    omega
  have hothers : (k.settle now).jobs.filter (·.id == k.nextId) = [] := by
    rw [List.filter_eq_nil_iff]
    intro job hjob
    have hlt := (isSound_settle h).numbered job hjob
    rw [settle_nextId] at hlt
    simpa using Nat.ne_of_lt hlt
  refine ⟨_, ?_, rfl, follows_new hpos now task⟩
  rw [settle_schedule hopen hrunning hfits, List.filter_append, hothers,
    List.filter_cons_of_pos (by simp)]
  rfl

/-- Another task changes nothing. -/
theorem Minds.schedule (h : k.Minds now p task starts) (hnumber : p.number < k.nextId)
    {interval : Nat} (hopen : k.isShutDown = false) (hrunning : (k.settle now).isStopped = false)
    (hfits : now + max interval shortestInterval ≤ lastInstant) (task' : τ) :
    (k.schedule interval task').1.Minds now p task starts := by
  obtain ⟨job, hjob, hrest⟩ := h
  refine ⟨job, ?_, hrest⟩
  rw [settle_schedule hopen hrunning hfits, List.filter_append, hjob,
    List.filter_cons_of_neg (by simpa using Nat.ne_of_gt hnumber)]
  rfl

/-- Neither does that another job is taken back. -/
theorem Minds.cancel (h : k.Minds now p task starts) {ticket : Ticket}
    (hother : ticket.id ≠ p.number) : (k.cancel ticket).Minds now p task starts := by
  obtain ⟨job, hjob, hrest⟩ := h
  refine ⟨job, ?_, hrest⟩
  rw [settle_cancel]
  split
  · rw [List.filter_filter, ← hjob]
    refine List.filter_congr fun other _ => ?_
    by_cases heq : other.id = p.number
    · simp [heq, hother.symm]
    · simp [heq]
  · exact hjob

theorem Minds.foldl_cancel (h : k.Minds now p task starts) {tickets : List Ticket}
    (hothers : ∀ ticket ∈ tickets, ticket.id ≠ p.number) :
    (tickets.foldl KeepAlive.cancel k).Minds now p task starts :=
  List.foldlRecOn (motive := fun k : KeepAlive τ => k.Minds now p task starts) tickets
    KeepAlive.cancel h fun _ h ticket hmem => h.cancel (hothers ticket hmem)

theorem Minds.settle (h : k.Minds now p task starts) :
    (k.settle now).Minds now p task starts := by
  rwa [Minds, settle_of_inbox_eq_nil (settle_inbox now k)]

/-- While time passes a scheduler goes on to mind a plan, and the runs that it starts are told. -/
theorem Minds.advance (h : k.Minds now p task starts) (hsound : k.IsSound now) (hnow : now ≤ limit)
    (hjobs : ∀ job ∈ (k.settle now).jobs, job.HasTime limit) (launch : Launch σ τ) (s : σ) :
    (k.advance launch limit now s).1.Minds limit p task
      (starts ++ k.starts launch limit now s) := by
  obtain ⟨job, hjob, htask, hfollows⟩ := h
  obtain ⟨jobs, s', hwalk, hadvance⟩ := exists_advance_of_hasTime hsound hnow hjobs launch s
  obtain ⟨job', hjob', htask', hfollows'⟩ := hfollows.walk hjob hwalk
  rw [Nat.add_sub_cancel' hnow, ← List.filter_append] at hfollows'
  have hsettle : KeepAlive.settle limit { k.settle now with jobs := jobs } =
      { k.settle now with jobs := jobs } :=
    settle_of_inbox_eq_nil (settle_inbox now k)
  refine ⟨job', ?_, htask'.trans htask, hfollows'⟩
  rw [hadvance, hsettle]
  exact hjob'

end KeepAlive

end FlowPeers
