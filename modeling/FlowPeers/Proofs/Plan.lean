import FlowPeers.Proofs.Isolation
import Mathlib.Data.List.Sort

/-!
# The timetable of one job

A `Plan` is a job as its user knows it: when it was scheduled, with what interval, and when it was
taken back. Its ticks are whole intervals away from its beginning (`Plan.tick`), and each of them
starts a run unless an earlier one is in flight. `Plan.IsKept` says so of the instants at which runs
start, and determines them from the plan and the lengths of the job's own runs
(`Plan.IsKept.unique`); `Plan.startsBy` computes them (`Plan.isKept_startsBy`).

What a scheduler keeps of a job at an instant is then known too (`Plan.job`), and an instant turns it
into what is to be kept at the next one (`Plan.fire_job`).
-/

namespace FlowPeers

/-- A job as it was scheduled, and when it was taken back, if so. -/
structure Plan where
  /-- The number of the job. -/
  number : Nat
  /-- When it was scheduled. -/
  since : Nat
  /-- The time between two ticks. -/
  interval : Nat
  /-- When it was taken back, alone or with all others. -/
  ended : Option Nat
  deriving DecidableEq, Repr

/-- Whether a run that starts at an instant is over at another. -/
def HasEnded (length : Nat → Option Nat) (start now : Nat) : Prop :=
  ∃ ms, length start = some ms ∧ start + ms ≤ now

theorem HasEnded.mono {length : Nat → Option Nat} {start now now' : Nat}
    (h : HasEnded length start now) (hle : now ≤ now') : HasEnded length start now' := by
  obtain ⟨ms, hms, hend⟩ := h
  exact ⟨ms, hms, Nat.le_trans hend hle⟩

namespace Plan

/-- The ticks of the job. -/
def tick (p : Plan) (k : Nat) : Nat :=
  p.since + k * p.interval

/-- How many ticks there are up to an instant. -/
def ticksBy (p : Plan) (now : Nat) : Nat :=
  (now - p.since) / p.interval

/-- The last instant up to now at which the job can have a tick. -/
def stop (p : Plan) (now : Nat) : Nat :=
  p.ended.getD now

/-- Whether the job was not taken back. -/
def isOpen (p : Plan) : Bool :=
  p.ended.isNone

/-- When the last of the runs ends that the first ticks start, if ever, and when they start. -/
def runs (length : Nat → Option Nat) (p : Plan) : Nat → Option Nat × List Nat
  | 0 => (some 0, [])
  | k + 1 =>
    if (p.runs length k).1.any (· ≤ p.tick (k + 1)) then
      ((length (p.tick (k + 1))).map (p.tick (k + 1) + ·),
        (p.runs length k).2 ++ [p.tick (k + 1)])
    else p.runs length k

/-- When the runs start that ticks up to an instant start. -/
def startsBy (length : Nat → Option Nat) (p : Plan) (now : Nat) : List Nat :=
  (p.runs length (p.ticksBy now)).2

/-- When the runs of the job have started by now. -/
def starts (length : Nat → Option Nat) (p : Plan) (now : Nat) : List Nat :=
  p.startsBy length (p.stop now)

/-- Whether some instants are those at which runs of the job start until another: at each tick,
unless a run that has started before is in flight. -/
structure IsKept (length : Nat → Option Nat) (stop : Nat) (p : Plan) (starts : List Nat) :
    Prop where
  sorted : starts.Pairwise (· < ·)
  ticks : ∀ t ∈ starts, ∃ k, 0 < k ∧ t = p.tick k ∧ p.tick k ≤ stop
  mem_iff : ∀ k, 0 < k → p.tick k ≤ stop →
    (p.tick k ∈ starts ↔ ∀ t ∈ starts, t < p.tick k → HasEnded length t (p.tick k))

variable {length : Nat → Option Nat} {p : Plan} {stop now : Nat}

/-! ## Ticks -/

theorem tick_lt_tick (h : 0 < p.interval) {k k' : Nat} : p.tick k < p.tick k' ↔ k < k' := by
  rw [tick, tick, Nat.add_lt_add_iff_left, Nat.mul_lt_mul_right h]

theorem tick_le_tick (h : 0 < p.interval) {k k' : Nat} : p.tick k ≤ p.tick k' ↔ k ≤ k' := by
  rw [← Nat.not_lt, ← Nat.not_lt, tick_lt_tick h]

theorem tick_succ (p : Plan) (k : Nat) : p.tick (k + 1) = p.tick k + p.interval := by
  rw [tick, tick, Nat.add_mul, Nat.one_mul, Nat.add_assoc]

theorem le_ticksBy_iff (hinterval : 0 < p.interval) (hsince : p.since ≤ now) {k : Nat} :
    k ≤ p.ticksBy now ↔ p.tick k ≤ now := by
  rw [ticksBy, Nat.le_div_iff_mul_le hinterval, tick]
  omega

theorem ticksBy_since (p : Plan) : p.ticksBy p.since = 0 := by
  rw [ticksBy, Nat.sub_self, Nat.zero_div]

/-- From one millisecond to the next there is at most one tick. -/
theorem ticksBy_succ (hinterval : 0 < p.interval) (hsince : p.since ≤ now) :
    p.ticksBy (now + 1) =
      if p.tick (p.ticksBy now + 1) = now + 1 then p.ticksBy now + 1 else p.ticksBy now := by
  have hiff : ∀ k, k ≤ p.ticksBy (now + 1) ↔ p.tick k ≤ now + 1 := fun k =>
    le_ticksBy_iff hinterval (Nat.le_succ_of_le hsince)
  have hlast : p.tick (p.ticksBy now) ≤ now := (le_ticksBy_iff hinterval hsince).1 (Nat.le_refl _)
  have hnext : ¬ p.tick (p.ticksBy now + 1) ≤ now := fun hle =>
    absurd ((le_ticksBy_iff hinterval hsince).2 hle) (Nat.not_succ_le_self _)
  have hafter := p.tick_succ (p.ticksBy now + 1)
  split
  · next htick =>
    have hle := (hiff (p.ticksBy now + 1)).2 (by omega)
    have hnot : ¬ p.ticksBy now + 1 + 1 ≤ p.ticksBy (now + 1) := fun hle => by
      have := (hiff _).1 hle
      omega
    omega
  · next htick =>
    have hle := (hiff (p.ticksBy now)).2 (by omega)
    have hnot : ¬ p.ticksBy now + 1 ≤ p.ticksBy (now + 1) := fun hle => by
      have := (hiff _).1 hle
      omega
    omega

/-! ## The instants at which runs start -/

/-- The job is idle after some ticks if and only if all their runs are over. -/
theorem runs_any_le_iff (hinterval : 0 < p.interval) {k : Nat} (hnow : p.tick k ≤ now) :
    (p.runs length k).1.any (· ≤ now) ↔ ∀ t ∈ (p.runs length k).2, HasEnded length t now := by
  induction k generalizing now with
  | zero => simp [runs]
  | succ k ih =>
    have hlt : p.tick k < p.tick (k + 1) := (tick_lt_tick hinterval).2 (Nat.lt_succ_self k)
    rw [runs]
    split
    · next hidle =>
      rw [ih (Nat.le_of_lt hlt)] at hidle
      have hearlier : ∀ t ∈ (p.runs length k).2, HasEnded length t now :=
        fun t ht => (hidle t ht).mono hnow
      have hlast : ((length (p.tick (k + 1))).map (p.tick (k + 1) + ·)).any (· ≤ now) ↔
          HasEnded length (p.tick (k + 1)) now := by
        rw [HasEnded]
        cases length (p.tick (k + 1)) <;> simp
      rw [hlast, List.forall_mem_append, List.forall_mem_singleton]
      exact (and_iff_right hearlier).symm
    · exact ih (by omega)

theorem mem_runs {k t : Nat} (h : t ∈ (p.runs length k).2) : ∃ j, 0 < j ∧ j ≤ k ∧ t = p.tick j := by
  induction k with
  | zero => simp [runs] at h
  | succ k ih =>
    rw [runs] at h
    split at h
    · rcases List.mem_append.1 h with h | h
      · obtain ⟨j, hpos, hle, rfl⟩ := ih h
        exact ⟨j, hpos, Nat.le_succ_of_le hle, rfl⟩
      · exact ⟨k + 1, Nat.succ_pos k, Nat.le_refl _, List.mem_singleton.1 h⟩
    · obtain ⟨j, hpos, hle, rfl⟩ := ih h
      exact ⟨j, hpos, Nat.le_succ_of_le hle, rfl⟩

theorem pairwise_runs (hinterval : 0 < p.interval) (k : Nat) :
    (p.runs length k).2.Pairwise (· < ·) := by
  induction k with
  | zero => simp [runs]
  | succ k ih =>
    rw [runs]
    split
    · refine List.pairwise_append.2 ⟨ih, List.pairwise_singleton .., ?_⟩
      intro t ht t' ht'
      obtain ⟨j, -, hle, rfl⟩ := mem_runs ht
      rw [List.mem_singleton.1 ht', tick_lt_tick hinterval]
      omega
    · exact ih

/-- Later ticks do not change which runs earlier ones have started. -/
theorem mem_runs_of_le (hinterval : 0 < p.interval) {j k : Nat} (hle : j ≤ k) {t : Nat}
    (ht : t ≤ p.tick j) : t ∈ (p.runs length k).2 ↔ t ∈ (p.runs length j).2 := by
  induction k with
  | zero => rw [Nat.le_zero.1 hle]
  | succ k ih =>
    rcases Nat.lt_or_ge k j with hlt | hge
    · rw [show j = k + 1 by omega]
    · rw [← ih hge, runs]
      have hne : t ≠ p.tick (k + 1) := by
        have hlt : p.tick j < p.tick (k + 1) := (tick_lt_tick hinterval).2 (by omega)
        omega
      split <;> simp [hne]

/-- A tick starts a run if and only if all earlier runs are over. -/
theorem tick_mem_runs_iff (hinterval : 0 < p.interval) {j k : Nat} (hpos : 0 < j) (hle : j ≤ k) :
    p.tick j ∈ (p.runs length k).2 ↔
      ∀ t ∈ (p.runs length k).2, t < p.tick j → HasEnded length t (p.tick j) := by
  obtain ⟨j, rfl⟩ : ∃ i, j = i + 1 := ⟨j - 1, by omega⟩
  have hlt : p.tick j < p.tick (j + 1) := (tick_lt_tick hinterval).2 (Nat.lt_succ_self j)
  -- the runs before the tick are those of the ticks before it
  have hbefore : ∀ t, t ∈ (p.runs length k).2 ∧ t < p.tick (j + 1) ↔ t ∈ (p.runs length j).2 := by
    intro t
    constructor
    · rintro ⟨ht, htick⟩
      obtain ⟨i, -, -, rfl⟩ := mem_runs ht
      rw [tick_lt_tick hinterval, Nat.lt_succ_iff] at htick
      exact (mem_runs_of_le hinterval (by omega) ((tick_le_tick hinterval).2 htick)).1 ht
    · intro ht
      obtain ⟨i, -, hi, rfl⟩ := mem_runs ht
      refine ⟨(mem_runs_of_le hinterval (by omega) ((tick_le_tick hinterval).2 hi)).2 ht, ?_⟩
      exact (tick_lt_tick hinterval).2 (by omega)
  have hidle : (p.runs length j).1.any (· ≤ p.tick (j + 1)) ↔
      ∀ t ∈ (p.runs length j).2, HasEnded length t (p.tick (j + 1)) :=
    runs_any_le_iff hinterval (Nat.le_of_lt hlt)
  have hnew : p.tick (j + 1) ∉ (p.runs length j).2 := fun hmem =>
    Nat.lt_irrefl _ ((hbefore _).2 hmem).2
  have hall : (∀ t ∈ (p.runs length k).2, t < p.tick (j + 1) → HasEnded length t (p.tick (j + 1))) ↔
      (p.runs length j).1.any (· ≤ p.tick (j + 1)) := by
    rw [hidle]
    exact ⟨fun h t ht => h t ((hbefore t).2 ht).1 ((hbefore t).2 ht).2,
      fun h t ht hlt => h t ((hbefore t).1 ⟨ht, hlt⟩)⟩
  rw [mem_runs_of_le hinterval hle (Nat.le_refl _), hall, runs]
  split
  · next h => simp [h]
  · next h => simp [h, hnew]

/-- The instants at which a job's runs start are as they should be. -/
theorem isKept_startsBy (hinterval : 0 < p.interval) (hsince : p.since ≤ stop) :
    p.IsKept length stop (p.startsBy length stop) where
  sorted := pairwise_runs hinterval _
  ticks := by
    intro t ht
    obtain ⟨k, hpos, hle, rfl⟩ := mem_runs ht
    exact ⟨k, hpos, rfl, (le_ticksBy_iff hinterval hsince).1 hle⟩
  mem_iff := fun _ hpos hle =>
    tick_mem_runs_iff hinterval hpos ((le_ticksBy_iff hinterval hsince).2 hle)

/-- Two runs of a job are never in flight at the same time. -/
theorem IsKept.hasEnded {starts : List Nat} (h : p.IsKept length stop starts) {t t' : Nat}
    (ht : t ∈ starts) (ht' : t' ∈ starts) (hlt : t < t') : HasEnded length t t' := by
  obtain ⟨k, hpos, rfl, hle⟩ := h.ticks t' ht'
  exact (h.mem_iff k hpos hle).1 ht' t ht hlt

/-- When the runs of a job start depends on its beginning, its interval, its end and the lengths of
its own runs alone. -/
theorem IsKept.unique {p' : Plan} {starts starts' : List Nat} (h : p.IsKept length stop starts)
    (h' : p'.IsKept length stop starts') (hsince : p.since = p'.since)
    (hinterval : p.interval = p'.interval) : starts = starts' := by
  have htick : p'.tick = p.tick := by
    funext k
    rw [tick, tick, hsince, hinterval]
  -- a tick starts a run by what the ticks before it have started
  have hmem : ∀ t, ∀ k, t = p.tick k → 0 < k → t ≤ stop → (t ∈ starts ↔ t ∈ starts') := by
    intro t
    induction t using Nat.strongRecOn with
    | ind t ih =>
      rintro k rfl hpos hle
      rw [h.mem_iff k hpos hle, ← htick, h'.mem_iff k hpos (by rwa [htick]), htick]
      constructor
      · intro hall t ht hlt
        obtain ⟨j, hj, rfl, hjle⟩ := h'.ticks t ht
        rw [htick] at ht hlt hjle ⊢
        exact hall _ ((ih _ hlt j rfl hj hjle).2 ht) hlt
      · intro hall t ht hlt
        obtain ⟨j, hj, rfl, hjle⟩ := h.ticks t ht
        exact hall _ ((ih _ hlt j rfl hj hjle).1 ht) hlt
  refine h.sorted.eq_of_mem_iff h'.sorted fun t => ?_
  constructor
  · intro ht
    obtain ⟨k, hpos, rfl, hle⟩ := h.ticks t ht
    exact (hmem _ k rfl hpos hle).1 ht
  · intro ht
    obtain ⟨k, hpos, rfl, hle⟩ := h'.ticks t ht
    rw [htick] at ht hle ⊢
    exact (hmem _ k rfl hpos hle).2 ht

/-! ## What a scheduler keeps of it -/

/-- What a scheduler keeps of the job at an instant. -/
def job (lengths : Nat → Nat → Option Nat) (p : Plan) (now : Nat) : Job Nat where
  id := p.number
  interval := p.interval
  next := p.tick (p.ticksBy now + 1)
  task := p.number
  busyUntil := (p.runs (lengths p.number) (p.ticksBy now)).1

/-- Whether the clock can tell the first tick of the job after its end. -/
def Fits (p : Plan) (now : Nat) : Prop :=
  p.tick (p.ticksBy (p.stop now) + 1) ≤ KeepAlive.lastInstant

instance (p : Plan) (now : Nat) : Decidable (p.Fits now) :=
  inferInstanceAs (Decidable (_ ≤ _))

variable {lengths : Nat → Nat → Option Nat} {starts : List (Nat × Nat)}

/-- A plan that a scheduler can act on at an instant. -/
structure IsUnderWay (now : Nat) (p : Plan) : Prop where
  interval_pos : 0 < p.interval
  since_le : p.since ≤ now

theorem IsUnderWay.mono {now' : Nat} (h : p.IsUnderWay now) (hle : now ≤ now') :
    p.IsUnderWay now' :=
  ⟨h.interval_pos, Nat.le_trans h.since_le hle⟩

theorem IsUnderWay.lt_tick (h : p.IsUnderWay now) : now < p.tick (p.ticksBy now + 1) := by
  rw [← Nat.not_le, ← le_ticksBy_iff h.interval_pos h.since_le]
  exact Nat.not_succ_le_self _

theorem IsUnderWay.tick_mono (h : p.IsUnderWay now) {now' : Nat} (hle : now ≤ now') :
    p.tick (p.ticksBy now + 1) ≤ p.tick (p.ticksBy now' + 1) := by
  rw [tick_le_tick h.interval_pos]
  exact Nat.succ_le_succ (Nat.div_le_div_right (Nat.sub_le_sub_right hle _))

/-- What a scheduler keeps of a job is turned by an instant into what is to be kept then, and the
run that is written down is the one of the timetable. -/
theorem fire_job (h : p.IsUnderWay now) (starts : List (Nat × Nat)) :
    ∃ new, (p.job lengths now).fire (Timeline.launch lengths) (now + 1) starts =
        (p.job lengths (now + 1), starts ++ new.map (·, p.number)) ∧
      p.startsBy (lengths p.number) (now + 1) = p.startsBy (lengths p.number) now ++ new := by
  have hlt := h.lt_tick
  have hsucc := ticksBy_succ h.interval_pos h.since_le
  have hafter := p.tick_succ (p.ticksBy now + 1)
  rw [startsBy, startsBy, job, job, Job.fire]
  split at hsucc
  · next htick =>
    rw [hsucc, if_pos (Nat.le_of_eq htick), hafter, runs, htick, Job.isBusy_eq_not_any]
    simp only
    cases (p.runs (lengths p.number) (p.ticksBy now)).1.any (· ≤ now + 1) with
    | false => exact ⟨[], by simp, by simp⟩
    | true => exact ⟨[now + 1], by simp [Timeline.launch], by simp⟩
  · next htick =>
    rw [hsucc, if_neg (by simp only; omega)]
    exact ⟨[], by simp, by simp⟩

/-- The clock can tell the next tick of a job at an instant if it can tell a later one. -/
theorem isStuck_job (h : p.IsUnderWay now)
    (hfits : p.tick (p.ticksBy (now + 1) + 1) ≤ KeepAlive.lastInstant) :
    (p.job lengths now).isStuck (now + 1) = false := by
  have hlt := h.lt_tick
  have hsucc := ticksBy_succ h.interval_pos h.since_le
  have hafter := p.tick_succ (p.ticksBy now + 1)
  rw [Bool.eq_false_iff]
  intro hstuck
  rw [Job.isStuck, Bool.and_eq_true, decide_eq_true_eq, decide_eq_true_eq] at hstuck
  obtain ⟨hdue, hlate⟩ := hstuck
  simp only [job] at hdue hlate
  rw [if_pos (by omega)] at hsucc
  rw [hsucc] at hfits
  omega

end Plan

/-! ## Several jobs -/

namespace Timeline

/-- When runs of a job have started, of all that were written down. -/
def startsOf (n : Nat) (starts : List (Nat × Nat)) : List Nat :=
  (starts.filter (·.2 == n)).map (·.1)

@[simp] theorem startsOf_append (n : Nat) (starts starts' : List (Nat × Nat)) :
    startsOf n (starts ++ starts') = startsOf n starts ++ startsOf n starts' := by
  simp [startsOf]

@[simp] theorem startsOf_map_same (n : Nat) (new : List Nat) :
    startsOf n (new.map (·, n)) = new := by
  simp [startsOf, List.filter_map, Function.comp_def]

@[simp] theorem startsOf_map_other {n m : Nat} (h : m ≠ n) (new : List Nat) :
    startsOf n (new.map (·, m)) = [] := by
  simp [startsOf, List.filter_map, Function.comp_def, h]

end Timeline

namespace Plan

variable {lengths : Nat → Nat → Option Nat} {now : Nat} {plans : List Plan}

open Timeline

/-- What becomes of the runs that were written down from one instant to another. -/
structure Continues (lengths : Nat → Nat → Option Nat) (plans : List Plan) (now now' : Nat)
    (starts starts' : List (Nat × Nat)) : Prop where
  /-- Those of the plans were written down. -/
  own : ∀ p ∈ plans, startsOf p.number starts = p.startsBy (lengths p.number) now →
    startsOf p.number starts' = p.startsBy (lengths p.number) now'
  /-- There are no others. -/
  others : ∀ n, n ∉ plans.map number → startsOf n starts' = startsOf n starts

theorem fireAll_jobs (hplans : (plans.map number).Nodup) (hway : ∀ p ∈ plans, p.IsUnderWay now)
    (starts : List (Nat × Nat)) :
    ∃ starts', Job.fireAll (launch lengths) (now + 1) (plans.map (job lengths · now)) starts =
        (plans.map (job lengths · (now + 1)), starts') ∧
      Continues lengths plans now (now + 1) starts starts' := by
  induction plans generalizing starts with
  | nil => exact ⟨starts, rfl, by simp, by simp⟩
  | cons p rest ih =>
    obtain ⟨hnew, hrest⟩ := List.nodup_cons.1 hplans
    obtain ⟨hp, hway⟩ := List.forall_mem_cons.1 hway
    obtain ⟨new, hfire, hstarts⟩ := fire_job hp starts
    obtain ⟨starts', hfireAll, hcontinues⟩ := ih hrest hway (starts ++ new.map (·, p.number))
    refine ⟨starts', ?_, ?_, ?_⟩
    · rw [List.map_cons, Job.fireAll_cons, hfire, hfireAll]
      rfl
    · intro q hq hown
      rcases List.mem_cons.1 hq with rfl | hq
      · rw [hcontinues.others _ hnew, startsOf_append, hown, startsOf_map_same, hstarts]
      · refine hcontinues.own q hq ?_
        have hne : p.number ≠ q.number := fun heq => hnew (heq ▸ List.mem_map_of_mem hq)
        rw [startsOf_append, startsOf_map_other hne, List.append_nil, hown]
    · intro n hn
      obtain ⟨hne, hn⟩ := not_or.1 (List.mem_cons.not.1 hn)
      rw [hcontinues.others n hn, startsOf_append, startsOf_map_other (Ne.symm hne),
        List.append_nil]

/-- While time passes a scheduler does for each job what its timetable says. -/
theorem walk_jobs (hplans : (plans.map number).Nodup) (hway : ∀ p ∈ plans, p.IsUnderWay now)
    {ms : Nat} (hfits : ∀ p ∈ plans, p.tick (p.ticksBy (now + ms) + 1) ≤ KeepAlive.lastInstant)
    (starts : List (Nat × Nat)) :
    ∃ starts', Job.walk (launch lengths) ms now (plans.map (job lengths · now)) starts =
        (some (plans.map (job lengths · (now + ms))), starts') ∧
      Continues lengths plans now (now + ms) starts starts' := by
  induction ms generalizing now starts with
  | zero => exact ⟨starts, rfl, fun _ _ => id, fun _ _ => rfl⟩
  | succ ms ih =>
    have hway' : ∀ p ∈ plans, p.IsUnderWay (now + 1) :=
      fun p hp => (hway p hp).mono (Nat.le_succ _)
    have hstuck : (plans.map (job lengths · now)).any (Job.isStuck (now + 1)) = false := by
      rw [List.any_map, List.any_eq_false]
      intro p hp
      rw [Function.comp_apply, isStuck_job (hway p hp)
        (Nat.le_trans ((hway' p hp).tick_mono (by omega)) (hfits p hp))]
      exact Bool.false_ne_true
    obtain ⟨starts₁, hfire, hfirst⟩ := fireAll_jobs hplans hway starts
    obtain ⟨starts', hwalk, hrest⟩ := ih hway'
      (fun p hp => by rw [show now + 1 + ms = now + (ms + 1) by omega]; exact hfits p hp) starts₁
    rw [show now + 1 + ms = now + (ms + 1) by omega] at hwalk hrest
    refine ⟨starts', ?_, ?_, ?_⟩
    · rw [Job.walk_succ hstuck, hfire, hwalk]
    · exact fun p hp hown => hrest.own p hp (hfirst.own p hp hown)
    · exact fun n hn => (hrest.others n hn).trans (hfirst.others n hn)

end Plan

end FlowPeers
