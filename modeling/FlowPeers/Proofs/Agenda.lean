import FlowPeers.Proofs.Plan
import Mathlib.Data.List.Nodup

/-!
# Schedulers keep their timetables

An `Agenda` is what the users of a scheduler know of it: the plans of the jobs that it was given, each
of which is open until it is taken back or the scheduler is shut down. No job of an agenda has to do
with another.

A scheduler that is used like an agenda keeps it (`Agenda.isKeptBy_follow`): its jobs are those of the
open plans, each waiting for its own next tick, and it starts the runs that the plans say. This is so
as long as the clock can tell all ticks that are to be reckoned with (`Agenda.Fits`). What one job
does is then a matter of its own plan and of the lengths of its own runs
(`Timeline.jobs_keep_their_timetables`).
-/

namespace FlowPeers

namespace Plan

/-- The plan when the job may be taken back at an instant. -/
def endIf (p : Plan) (ends : Bool) (now : Nat) : Plan :=
  { p with ended := if ends then some (p.stop now) else p.ended }

section

variable (p : Plan) (ends : Bool) (now : Nat)

@[simp] theorem stop_endIf : (p.endIf ends now).stop now = p.stop now := by
  cases ends <;> rfl

@[simp] theorem isOpen_endIf : (p.endIf ends now).isOpen = (p.isOpen && !ends) := by
  cases ends <;> simp [endIf, isOpen]

@[simp] theorem fits_endIf_iff : (p.endIf ends now).Fits now ↔ p.Fits now := by
  rw [Fits, Fits, stop_endIf]
  rfl

@[simp] theorem runs_endIf (length : Nat → Option Nat) (k : Nat) :
    (p.endIf ends now).runs length k = p.runs length k := by
  induction k with
  | zero => rfl
  | succ k ih =>
    rw [runs, runs, ih]
    rfl

@[simp] theorem starts_endIf (length : Nat → Option Nat) :
    (p.endIf ends now).starts length now = p.starts length now := by
  rw [starts, starts, startsBy, startsBy, runs_endIf, stop_endIf]
  rfl

@[simp] theorem job_endIf (lengths : Nat → Nat → Option Nat) :
    (p.endIf ends now).job lengths now = p.job lengths now := by
  rw [job, job, runs_endIf]
  rfl

end

theorem stop_of_isOpen {p : Plan} (h : p.isOpen) (now : Nat) : p.stop now = now := by
  rw [isOpen, Option.isNone_iff_eq_none] at h
  rw [stop, h]
  rfl

theorem stop_of_isOpen_eq_false {p : Plan} (h : p.isOpen = false) (now now' : Nat) :
    p.stop now = p.stop now' := by
  rw [stop, stop]
  cases hended : p.ended with
  | none => simp [isOpen, hended] at h
  | some t => rfl

theorem stop_mono (p : Plan) {now now' : Nat} (h : now ≤ now') : p.stop now ≤ p.stop now' := by
  rw [stop, stop]
  cases p.ended with
  | none => exact h
  | some t => exact Nat.le_refl t

end Plan

/-- What the users of a scheduler know of it. -/
structure Agenda where
  now : Nat
  /-- The number of the next job. -/
  nextNumber : Nat
  isShutDown : Bool
  /-- The jobs in order of their numbers. -/
  plans : List Plan

namespace Timeline

/-- A scheduler that was never used. -/
def start (now : Nat) : Timeline :=
  ⟨now, {}, []⟩

theorem isSound_take {lengths : Nat → Nat → Option Nat} {t : Timeline}
    (h : t.keepAlive.IsSound t.now) (turn : Turn) :
    (t.take lengths turn).keepAlive.IsSound (t.take lengths turn).now := by
  cases turn with
  | schedule interval => exact KeepAlive.isSound_schedule h interval _
  | cancel ticket => exact KeepAlive.isSound_cancel h ticket
  | shutDown => exact KeepAlive.isSound_shutDown h
  | pass ms => exact KeepAlive.isSound_advance h (Nat.le_add_right _ ms) t.starts

end Timeline

namespace Agenda

/-- The agenda of a scheduler that was never used. -/
def start (now : Nat) : Agenda :=
  ⟨now, 0, false, []⟩

/-- An agenda some of whose jobs are taken back. -/
def takeBack (a : Agenda) (those : Nat → Bool) : Agenda :=
  { a with plans := a.plans.map fun p => p.endIf (those p.number) a.now }

/-- An agenda after a turn. -/
def take (a : Agenda) : Turn → Agenda
  | .schedule interval =>
    if a.isShutDown then { a with nextNumber := a.nextNumber + 1 }
    else
      { a with
        nextNumber := a.nextNumber + 1
        plans := a.plans ++
          [⟨a.nextNumber, a.now, max interval KeepAlive.shortestInterval, none⟩] }
  | .cancel ticket => a.takeBack fun n => ticket.isActive && n == ticket.id
  | .shutDown => { a.takeBack fun _ => true with isShutDown := true }
  | .pass ms => { a with now := a.now + ms }

/-- An agenda after some turns. -/
def follow (a : Agenda) : List Turn → Agenda
  | [] => a
  | turn :: rest => (a.take turn).follow rest

/-- Whether the clock can tell all ticks that are to be reckoned with. -/
def Fits (a : Agenda) : Prop :=
  ∀ p ∈ a.plans, p.Fits a.now

instance (a : Agenda) : Decidable a.Fits :=
  inferInstanceAs (Decidable (∀ p ∈ a.plans, p.Fits a.now))

/-- The plans of the jobs that were not taken back. -/
def openPlans (a : Agenda) : List Plan :=
  a.plans.filter Plan.isOpen

/-- What holds of all agendas. -/
structure IsProper (a : Agenda) : Prop where
  nodup : (a.plans.map Plan.number).Nodup
  numbered : ∀ p ∈ a.plans, p.number < a.nextNumber
  underWay : ∀ p ∈ a.plans, p.IsUnderWay (p.stop a.now)
  stop_le : ∀ p ∈ a.plans, p.stop a.now ≤ a.now
  closed : a.isShutDown → ∀ p ∈ a.plans, p.isOpen = false

/-- Whether a scheduler in time does what an agenda says. -/
structure IsKeptBy (lengths : Nat → Nat → Option Nat) (t : Timeline) (a : Agenda) : Prop where
  now_eq : t.now = a.now
  nextId_eq : t.keepAlive.nextId = a.nextNumber
  isShutDown_eq : t.keepAlive.isShutDown = a.isShutDown
  /-- It has stopped if and only if it was shut down. -/
  isStopped_eq : (t.keepAlive.settle t.now).isStopped = a.isShutDown
  /-- It has the jobs that were not taken back, each waiting for its next tick. -/
  jobs_eq : (t.keepAlive.settle t.now).jobs = a.openPlans.map (Plan.job lengths · a.now)
  /-- It has started the runs of each job at the ticks of its timetable. -/
  starts_eq : ∀ p ∈ a.plans,
    Timeline.startsOf p.number t.starts = p.starts (lengths p.number) a.now
  /-- It has started no other runs. -/
  owned : ∀ n, n ∉ a.plans.map Plan.number → Timeline.startsOf n t.starts = []

variable {lengths : Nat → Nat → Option Nat} {a : Agenda} {t : Timeline}

/-! ## Agendas -/

theorem isProper_start (now : Nat) : (start now).IsProper where
  nodup := List.nodup_nil
  numbered := by simp [start]
  underWay := by simp [start]
  stop_le := by simp [start]
  closed := by simp [start]

theorem mem_openPlans {p : Plan} : p ∈ a.openPlans ↔ p ∈ a.plans ∧ p.isOpen :=
  List.mem_filter

theorem IsProper.openPlans_eq_nil (h : a.IsProper) (hshut : a.isShutDown) : a.openPlans = [] := by
  rw [openPlans, List.filter_eq_nil_iff]
  intro p hp hopen
  rw [h.closed hshut p hp] at hopen
  contradiction

theorem IsProper.nodup_openPlans (h : a.IsProper) : (a.openPlans.map Plan.number).Nodup :=
  h.nodup.sublist (List.filter_sublist.map _)

theorem IsProper.underWay_of_isOpen (h : a.IsProper) {p : Plan} (hp : p ∈ a.openPlans) :
    p.IsUnderWay a.now := by
  obtain ⟨hp, hopen⟩ := mem_openPlans.1 hp
  rw [← Plan.stop_of_isOpen hopen a.now]
  exact h.underWay p hp

theorem forall_mem_takeBack (a : Agenda) (those : Nat → Bool) {P : Plan → Prop} :
    (∀ p ∈ (a.takeBack those).plans, P p) ↔
      ∀ p ∈ a.plans, P (p.endIf (those p.number) a.now) :=
  List.forall_mem_map

theorem map_number_takeBack (a : Agenda) (those : Nat → Bool) :
    (a.takeBack those).plans.map Plan.number = a.plans.map Plan.number := by
  rw [takeBack, List.map_map]
  rfl

theorem isProper_takeBack (h : a.IsProper) (those : Nat → Bool) :
    (a.takeBack those).IsProper where
  nodup := by rw [map_number_takeBack]; exact h.nodup
  numbered := (forall_mem_takeBack a those).2 h.numbered
  underWay := by
    refine (forall_mem_takeBack a those).2 fun p hp => ?_
    have hway := h.underWay p hp
    exact ⟨hway.interval_pos, Nat.le_trans hway.since_le (Nat.le_of_eq (p.stop_endIf _ a.now).symm)⟩
  stop_le := (forall_mem_takeBack a those).2 (by simpa [takeBack] using h.stop_le)
  closed := fun hshut =>
    (forall_mem_takeBack a those).2 fun p hp => by simp [h.closed hshut p hp]

/-- A turn keeps an agenda proper. -/
theorem isProper_take (h : a.IsProper) (turn : Turn) : (a.take turn).IsProper := by
  cases turn with
  | schedule interval =>
    rw [take]
    split
    · exact { h with numbered := fun p hp => Nat.lt_succ_of_lt (h.numbered p hp) }
    · next hopen =>
      refine
        { nodup := ?_
          numbered := ?_
          underWay := ?_
          stop_le := ?_
          closed := fun hshut => absurd hshut hopen }
      · rw [List.map_append, List.nodup_append]
        refine ⟨h.nodup, by simp, ?_⟩
        simpa using fun p hp => Nat.ne_of_lt (h.numbered p hp)
      · refine List.forall_mem_append.2 ⟨fun p hp => Nat.lt_succ_of_lt (h.numbered p hp), ?_⟩
        exact List.forall_mem_singleton.2 (Nat.lt_succ_self _)
      · refine List.forall_mem_append.2 ⟨h.underWay, List.forall_mem_singleton.2 ?_⟩
        exact ⟨Nat.lt_of_lt_of_le Nat.one_pos (Nat.le_max_right ..), Nat.le_refl _⟩
      · exact List.forall_mem_append.2 ⟨h.stop_le, List.forall_mem_singleton.2 (Nat.le_refl _)⟩
  | cancel ticket => exact isProper_takeBack h fun n => ticket.isActive && n == ticket.id
  | shutDown =>
    exact { isProper_takeBack h fun _ => true with closed := by simp [take, takeBack] }
  | pass ms =>
    have hnow : a.now ≤ a.now + ms := Nat.le_add_right ..
    refine { h with underWay := ?_, stop_le := ?_ }
    · exact fun p hp => (h.underWay p hp).mono (p.stop_mono hnow)
    · intro p hp
      rw [take]
      cases hopen : p.isOpen with
      | true => exact Nat.le_of_eq (Plan.stop_of_isOpen hopen _)
      | false =>
        rw [Plan.stop_of_isOpen_eq_false hopen _ a.now]
        exact Nat.le_trans (h.stop_le p hp) hnow

/-- The clock can tell what is to be reckoned with before a turn if it can after it. -/
theorem fits_of_fits_take (h : a.IsProper) {turn : Turn} (hfits : (a.take turn).Fits) : a.Fits := by
  cases turn with
  | schedule interval =>
    rw [take] at hfits
    split at hfits
    · exact hfits
    · exact fun p hp => hfits p (List.mem_append_left _ hp)
  | cancel ticket =>
    exact fun p hp => (p.fits_endIf_iff _ a.now).1 ((forall_mem_takeBack a _).1 hfits p hp)
  | shutDown =>
    exact fun p hp => (p.fits_endIf_iff _ a.now).1
      ((forall_mem_takeBack a fun _ => true).1 hfits p hp)
  | pass ms =>
    exact fun p hp => Nat.le_trans
      ((h.underWay p hp).tick_mono (p.stop_mono (Nat.le_add_right ..))) (hfits p hp)

theorem isProper_follow (h : a.IsProper) (turns : List Turn) : (a.follow turns).IsProper := by
  induction turns generalizing a with
  | nil => exact h
  | cons turn rest ih => exact ih (isProper_take h turn)

theorem fits_of_fits_follow (h : a.IsProper) {turns : List Turn}
    (hfits : (a.follow turns).Fits) : a.Fits := by
  induction turns generalizing a with
  | nil => exact hfits
  | cons turn rest ih => exact fits_of_fits_take h (ih (isProper_take h turn) hfits)

/-! ## One turn -/

theorem isKeptBy_takeBack (h : IsKeptBy lengths t a) {k : KeepAlive Nat} (b : Bool)
    (those : Nat → Bool) (hnext : k.nextId = t.keepAlive.nextId) (hshut : k.isShutDown = b)
    (hstopped : (k.settle t.now).isStopped = b)
    (hjobs : (k.settle t.now).jobs =
      (t.keepAlive.settle t.now).jobs.filter fun job => !those job.id) :
    IsKeptBy lengths { t with keepAlive := k } { a.takeBack those with isShutDown := b } where
  now_eq := h.now_eq
  nextId_eq := hnext.trans h.nextId_eq
  isShutDown_eq := hshut
  isStopped_eq := hstopped
  jobs_eq := by
    have hopen : (a.takeBack those).openPlans.map (Plan.job lengths · a.now) =
        (a.openPlans.map (Plan.job lengths · a.now)).filter fun job => !those job.id := by
      rw [openPlans, openPlans, takeBack, List.filter_map, List.filter_map, List.map_map,
        List.filter_filter]
      congr 2
      · funext p
        exact p.job_endIf _ a.now lengths
      · funext p
        rw [Function.comp_apply, Plan.isOpen_endIf, Bool.and_comm]
        rfl
    rw [hjobs, h.jobs_eq]
    exact hopen.symm
  starts_eq := (forall_mem_takeBack a those).2 fun p hp =>
    (h.starts_eq p hp).trans (p.starts_endIf _ a.now _).symm
  owned := by
    intro n hn
    refine h.owned n ?_
    rw [← map_number_takeBack a those]
    exact hn

theorem isKeptBy_schedule (h : IsKeptBy lengths t a) (hproper : a.IsProper) {interval : Nat}
    (hfits : (a.take (.schedule interval)).Fits) :
    IsKeptBy lengths (t.take lengths (.schedule interval)) (a.take (.schedule interval)) := by
  rw [Agenda.take] at hfits ⊢
  split
  · next hshut =>
    -- the job is numbered but not accepted
    have hrenumber := KeepAlive.settle_renumber t.now (t.keepAlive.nextId + 1)
      t.keepAlive.isShutDown t.keepAlive
    rw [Timeline.take, KeepAlive.schedule_of_isClosed (.inl (h.isShutDown_eq.trans hshut))]
    exact
      { h with
        nextId_eq := congrArg (· + 1) h.nextId_eq
        isStopped_eq := (congrArg KeepAlive.isStopped hrenumber).trans h.isStopped_eq
        jobs_eq := (congrArg KeepAlive.jobs hrenumber).trans h.jobs_eq }
  · next hopen =>
    rw [if_neg hopen] at hfits
    rw [Bool.not_eq_true] at hopen
    let p : Plan := ⟨a.nextNumber, a.now, max interval KeepAlive.shortestInterval, none⟩
    have hticks : p.ticksBy a.now = 0 := p.ticksBy_since
    have htick : p.tick (0 + 1) = t.now + max interval KeepAlive.shortestInterval := by
      rw [Plan.tick, h.now_eq, Nat.zero_add, Nat.one_mul]
    have hfirst : t.now + max interval KeepAlive.shortestInterval ≤ KeepAlive.lastInstant := by
      rw [← htick, ← hticks]
      exact hfits p (List.mem_append_right _ (List.mem_singleton_self p))
    have hsettle := KeepAlive.settle_schedule (h.isShutDown_eq.trans hopen)
      (h.isStopped_eq.trans hopen) hfirst t.keepAlive.nextId
    refine
      { now_eq := h.now_eq
        nextId_eq := ?_
        isShutDown_eq := ?_
        isStopped_eq := ?_
        jobs_eq := ?_
        starts_eq := ?_
        owned := ?_ }
    · simpa [Timeline.take] using h.nextId_eq
    · simpa [Timeline.take] using h.isShutDown_eq
    · rw [Timeline.take, hsettle]
      exact h.isStopped_eq
    · have hjob : p.job lengths a.now = ⟨t.keepAlive.nextId,
          max interval KeepAlive.shortestInterval,
          t.now + max interval KeepAlive.shortestInterval, t.keepAlive.nextId, some 0⟩ := by
        rw [Plan.job, hticks, htick, h.nextId_eq]
        rfl
      rw [Timeline.take, hsettle, ← hjob, h.jobs_eq, openPlans, openPlans, List.filter_append,
        List.map_append]
      rfl
    · refine List.forall_mem_append.2 ⟨h.starts_eq, List.forall_mem_singleton.2 ?_⟩
      have hnew : a.nextNumber ∉ a.plans.map Plan.number := by
        intro hmem
        obtain ⟨q, hq, heq⟩ := List.mem_map.1 hmem
        exact Nat.ne_of_lt (hproper.numbered q hq) heq
      refine (h.owned _ hnew).trans ?_
      rw [Plan.starts, Plan.startsBy, show p.stop a.now = a.now from rfl, hticks]
      rfl
    · intro n hn
      rw [List.map_append, List.mem_append, not_or] at hn
      exact h.owned n hn.1

theorem isKeptBy_pass (h : IsKeptBy lengths t a) (hproper : a.IsProper)
    (hsound : t.keepAlive.IsSound t.now) {ms : Nat} (hfits : (a.take (.pass ms)).Fits) :
    IsKeptBy lengths (t.take lengths (.pass ms)) (a.take (.pass ms)) := by
  have hlast : ∀ p ∈ a.openPlans, p.tick (p.ticksBy (a.now + ms) + 1) ≤ KeepAlive.lastInstant := by
    intro p hp
    obtain ⟨hp, hopen⟩ := mem_openPlans.1 hp
    have hfit := hfits p hp
    rwa [Plan.Fits, Plan.stop_of_isOpen hopen] at hfit
  obtain ⟨starts, hwalk, hstarts⟩ := Plan.walk_jobs hproper.nodup_openPlans
    (fun p hp => hproper.underWay_of_isOpen hp) hlast t.starts
  have hadvance := KeepAlive.advance_eq_walk hsound (Timeline.launch lengths) (t.now + ms) t.starts
  rw [Nat.add_sub_cancel_left, h.jobs_eq, h.now_eq, hwalk] at hadvance
  have htake : t.take lengths (.pass ms) = ⟨a.now + ms, { t.keepAlive.settle a.now with
      jobs := a.openPlans.map (Plan.job lengths · (a.now + ms)) }, starts⟩ := by
    rw [Timeline.take, h.now_eq, hadvance]
    rfl
  -- all that it was told has been received before
  have hsettled : ∀ now, (t.take lengths (.pass ms)).keepAlive.settle now =
      { t.keepAlive.settle a.now with
        jobs := a.openPlans.map (Plan.job lengths · (a.now + ms)) } := by
    intro now
    rw [htake, KeepAlive.settle_of_inbox_eq_nil (by simp)]
  refine
    { now_eq := ?_
      nextId_eq := ?_
      isShutDown_eq := ?_
      isStopped_eq := ?_
      jobs_eq := ?_
      starts_eq := ?_
      owned := ?_ }
  · rw [htake]
    rfl
  · simpa [htake, take] using h.nextId_eq
  · simpa [htake, take] using h.isShutDown_eq
  · rw [hsettled, ← h.now_eq]
    exact h.isStopped_eq
  · rw [hsettled]
    rfl
  · intro p hp
    rw [htake]
    cases hopen : p.isOpen with
    | true =>
      have hstop := Plan.stop_of_isOpen hopen
      have hown := h.starts_eq p hp
      rw [Plan.starts, hstop] at hown ⊢
      exact hstarts.own p (mem_openPlans.2 ⟨hp, hopen⟩) hown
    | false =>
      have hother : p.number ∉ a.openPlans.map Plan.number := by
        intro hmem
        obtain ⟨q, hq, heq⟩ := List.mem_map.1 hmem
        obtain ⟨hq, hqopen⟩ := mem_openPlans.1 hq
        rw [List.inj_on_of_nodup_map hproper.nodup hq hp heq, hopen] at hqopen
        contradiction
      rw [hstarts.others _ hother, h.starts_eq p hp, Plan.starts, Plan.starts,
        Plan.stop_of_isOpen_eq_false hopen]
  · intro n hn
    have hother : n ∉ a.openPlans.map Plan.number := fun hmem =>
      hn ((List.filter_sublist.map _).subset hmem)
    rw [htake, hstarts.others n hother]
    exact h.owned n hn

theorem isKeptBy_cancel (h : IsKeptBy lengths t a) (hproper : a.IsProper) (ticket : Ticket) :
    IsKeptBy lengths (t.take lengths (.cancel ticket)) (a.take (.cancel ticket)) := by
  have hsettle := KeepAlive.settle_cancel t.now t.keepAlive ticket
  refine isKeptBy_takeBack h a.isShutDown (fun n => ticket.isActive && n == ticket.id)
    (KeepAlive.cancel_nextId _ ticket) ?_ ?_ ?_
  · exact (KeepAlive.cancel_isShutDown _ ticket).trans h.isShutDown_eq
  · rw [hsettle, ← h.isStopped_eq]
    split <;> rfl
  · rw [hsettle]
    cases hstopped : (t.keepAlive.settle t.now).isStopped with
    | true =>
      have hnil : (t.keepAlive.settle t.now).jobs = [] := by
        rw [h.jobs_eq, hproper.openPlans_eq_nil (h.isStopped_eq.symm.trans hstopped), List.map_nil]
      simp [hnil]
    | false =>
      cases ticket.isActive with
      | true => rfl
      | false => simp

theorem isKeptBy_shutDown (h : IsKeptBy lengths t a) (hproper : a.IsProper) :
    IsKeptBy lengths (t.take lengths .shutDown) (a.take .shutDown) := by
  cases hshut : t.keepAlive.isShutDown with
  | true =>
    have hclosed : a.isShutDown := h.isShutDown_eq.symm.trans hshut
    have hsame : t.keepAlive.shutDown = t.keepAlive := by rw [KeepAlive.shutDown, if_pos hshut]
    refine isKeptBy_takeBack h true (fun _ => true) (by rw [hsame]) (by rw [hsame, hshut]) ?_ ?_
    · rw [hsame, h.isStopped_eq, hclosed]
    · simp [hsame, h.jobs_eq, hproper.openPlans_eq_nil hclosed]
  | false =>
    have hsettle := KeepAlive.settle_shutDown t.now hshut
    have hrunning : (t.keepAlive.settle t.now).isStopped = false := by
      rw [h.isStopped_eq, ← h.isShutDown_eq, hshut]
    rw [hrunning, if_neg Bool.false_ne_true] at hsettle
    refine isKeptBy_takeBack h true (fun _ => true) (KeepAlive.shutDown_nextId _) ?_ ?_ ?_
    · rw [KeepAlive.shutDown, hshut]
      rfl
    · rw [hsettle]
      rfl
    · rw [hsettle]
      simp [KeepAlive.stop]

/-- A turn that an agenda takes is taken by a scheduler that keeps it. -/
theorem isKeptBy_take (h : IsKeptBy lengths t a) (hproper : a.IsProper)
    (hsound : t.keepAlive.IsSound t.now) {turn : Turn} (hfits : (a.take turn).Fits) :
    IsKeptBy lengths (t.take lengths turn) (a.take turn) := by
  cases turn with
  | schedule interval => exact isKeptBy_schedule h hproper hfits
  | cancel ticket => exact isKeptBy_cancel h hproper ticket
  | shutDown => exact isKeptBy_shutDown h hproper
  | pass ms => exact isKeptBy_pass h hproper hsound hfits

/-- A scheduler that keeps an agenda keeps it whatever is done. -/
theorem isKeptBy_follow (h : IsKeptBy lengths t a) (hproper : a.IsProper)
    (hsound : t.keepAlive.IsSound t.now) {turns : List Turn} (hfits : (a.follow turns).Fits) :
    IsKeptBy lengths (t.follow lengths turns) (a.follow turns) := by
  induction turns generalizing t a with
  | nil => exact h
  | cons turn rest ih =>
    have hproper' := isProper_take hproper turn
    exact ih (isKeptBy_take h hproper hsound (fits_of_fits_follow hproper' hfits)) hproper'
      (Timeline.isSound_take hsound turn) hfits

theorem isKeptBy_start (lengths : Nat → Nat → Option Nat) (now : Nat) :
    IsKeptBy lengths (Timeline.start now) (start now) where
  now_eq := rfl
  nextId_eq := rfl
  isShutDown_eq := rfl
  isStopped_eq := rfl
  jobs_eq := rfl
  starts_eq := by simp [start]
  owned := fun _ _ => rfl

end Agenda

namespace Timeline

/-- **Jobs keep their timetables.** As long as the clock can tell the ticks that are to be reckoned
with, whatever is done with a scheduler: its jobs are those that were not taken back, each waiting
for its next tick; it starts runs of each job at the ticks of its plan and only there, unless an
earlier run of the job is in flight, so that no two runs of a job ever are; and when it does so does
not depend on any other job. -/
theorem jobs_keep_their_timetables (lengths : Nat → Nat → Option Nat) {now : Nat}
    {turns : List Turn} (hfits : ((Agenda.start now).follow turns).Fits) :
    let t := (start now).follow lengths turns
    let a := (Agenda.start now).follow turns
    (a.plans.map Plan.number).Nodup ∧ a.IsKeptBy lengths t ∧
      ∀ p ∈ a.plans,
        p.IsKept (lengths p.number) (p.stop a.now) (startsOf p.number t.starts) ∧
        (∀ earlier ∈ startsOf p.number t.starts, ∀ later ∈ startsOf p.number t.starts,
          earlier < later → HasEnded (lengths p.number) earlier later) ∧
        ∀ lengths' now' turns', ((Agenda.start now').follow turns').Fits →
          let t' := (start now').follow lengths' turns'
          let a' := (Agenda.start now').follow turns'
          ∀ p' ∈ a'.plans, p'.since = p.since → p'.interval = p.interval →
            p'.stop a'.now = p.stop a.now → lengths' p'.number = lengths p.number →
            startsOf p'.number t'.starts = startsOf p.number t.starts := by
  -- the timetable of a plan is kept in any use of a scheduler
  have hkept : ∀ lengths now turns, ((Agenda.start now).follow turns).Fits →
      ∀ p ∈ ((Agenda.start now).follow turns).plans,
        p.IsKept (lengths p.number) (p.stop ((Agenda.start now).follow turns).now)
          (startsOf p.number ((start now).follow lengths turns).starts) := by
    intro lengths now turns hfits p hp
    have hproper := Agenda.isProper_start now
    have hway := (Agenda.isProper_follow hproper turns).underWay p hp
    rw [(Agenda.isKeptBy_follow (Agenda.isKeptBy_start lengths now) hproper
      (KeepAlive.isSound_start now) hfits).starts_eq p hp]
    exact Plan.isKept_startsBy hway.interval_pos hway.since_le
  intro t a
  have hproper := Agenda.isProper_start now
  refine ⟨(Agenda.isProper_follow hproper turns).nodup, ?_, fun p hp => ⟨?_, ?_, ?_⟩⟩
  · exact Agenda.isKeptBy_follow (Agenda.isKeptBy_start lengths now) hproper
      (KeepAlive.isSound_start now) hfits
  · exact hkept lengths now turns hfits p hp
  · intro earlier hearlier later hlater hlt
    exact (hkept lengths now turns hfits p hp).hasEnded hearlier hlater hlt
  · intro lengths' now' turns' hfits' t' a' p' hp' hsince hinterval hstop hlengths
    have hkept' := hkept lengths' now' turns' hfits' p' hp'
    rw [hstop, hlengths] at hkept'
    exact hkept'.unique (hkept lengths now turns hfits p hp) hsince hinterval

/-- A job whose first run never ends does not hold up another one, which is taken back. -/
theorem hanging_job_holds_up_no_other :
    let turns := [.schedule 10, .schedule 20, .pass 75, .cancel ⟨1, true⟩, .pass 50, .shutDown,
      .pass 30]
    let lengths := fun n _ => if n = 0 then none else some 5
    let t := (start 0).follow lengths turns
    ((Agenda.start 0).follow turns).Fits ∧
      startsOf 0 t.starts = [10] ∧ startsOf 1 t.starts = [20, 40, 60] := by
  intro turns lengths t
  have hfits : ((Agenda.start 0).follow turns).Fits := by decide
  obtain ⟨-, hkept, -⟩ := jobs_keep_their_timetables lengths hfits
  refine ⟨hfits, ?_, ?_⟩
  · exact (hkept.starts_eq ⟨0, 0, 10, some 125⟩ (by decide)).trans (by decide)
  · exact (hkept.starts_eq ⟨1, 0, 20, some 75⟩ (by decide)).trans (by decide)

end Timeline

end FlowPeers
