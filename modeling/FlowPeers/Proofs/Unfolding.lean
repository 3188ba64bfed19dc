import FlowPeers.Proofs.Reachability
import FlowPeers.Proofs.Starts
import FlowPeers.Proofs.Tenures
import FlowPeers.Proofs.Upkeep

/-!
# Runs of a session with what its scheduler starts

The moves of a session leave it to the scheduler what is started while time passes. `Session.Unfolds`
tells it: moves lead from a scene to another, the clock can tell all that the scheduler reckons with
on the way (`Session.HasTime`), and some runs are all that it starts. What each of them does to the
network is what starting its task does, and the log of the network only grows from there
(`Session.Unfolds.of_mem`). Every run of a session unfolds in which the clock can tell what was
scheduled (`Session.Leads.exists_unfolds`).

Until it is shut down the scheduler attends to a session: it accepts all handles, and it stops only
when nobody is left to use it (`Session.Attends`). As long as the handle of a job is held, the
scheduler then minds the job's plan, whatever else is done in the session (`Session.Unfolds.minds`).
-/

namespace FlowPeers

variable {σ : Type}

namespace KeepAlive

theorem schedule_mem_inbox {τ : Type} {k : KeepAlive τ} (hopen : k.isShutDown = false)
    (hrunning : k.isStopped = false) (interval : Nat) (task : τ) :
    .schedule k.nextId (max interval shortestInterval) task ∈ (k.schedule interval task).1.inbox := by
  rw [schedule, if_neg (by simp [hopen, hrunning])]
  simp

end KeepAlive

namespace Session

variable {net : Responder σ} {allowed : Outcome → Prop} {s : Session σ} {a b : Scene σ}
  {starts : List (Start (Traffic σ) Chore)}

/-- The runs that the scheduler of a session starts while the session waits until an instant. -/
def startsUntil (net : Responder σ) (limit : Nat) (s : Session σ) :
    List (Start (Traffic σ) Chore) :=
  s.keepAlive.starts (launch net) limit s.now s.traffic

/-- Whether the clock can tell what the scheduler of a session reckons with until the session is
another one: the tick after each tick that comes, and the first tick of what is scheduled then. -/
structure HasTime (s s' : Session σ) : Prop where
  ticks : ∀ job ∈ (s.keepAlive.settle s.now).jobs, job.HasTime s'.now
  told : ∀ id interval chore, .schedule id interval chore ∈ s'.keepAlive.inbox →
    s'.now + interval ≤ KeepAlive.lastInstant

/-- Whether moves for which there is time lead from a scene to another, and some runs are all that
the scheduler starts on the way. -/
inductive Unfolds (net : Responder σ) (a : Scene σ) :
    Scene σ → List (Start (Traffic σ) Chore) → Prop
  | rest : Unfolds net a a []
  | move {b c : Scene σ} {starts : List (Start (Traffic σ) Chore)} (earlier : Unfolds net a b starts)
      (hmove : Move net (fun _ => True) b c) (htime : b.session.HasTime c.session) :
      Unfolds net a c (starts ++ b.session.startsUntil net c.session.now)

/-! ## What is started -/

theorem startsUntil_of_le {limit : Nat} (h : limit ≤ s.now) : s.startsUntil net limit = [] := by
  rw [startsUntil, KeepAlive.starts, show limit - s.now = 0 by omega, Job.startsFor]

/-- Only while a session waits something is started. -/
theorem Move.startsUntil_cases (h : Move net allowed a b) :
    a.session.startsUntil net b.session.now = [] ∨
      a.session.now < b.session.now ∧ b.session = a.session.wait net b.session.now := by
  cases h with
  | wait s time held =>
    by_cases hpast : time ≤ s.now
    · refine .inl (startsUntil_of_le ?_)
      rw [Session.wait, if_pos hpast]
    · have hnow : (s.wait net time).now = time := by rw [Session.wait, if_neg hpast]
      refine .inr ⟨?_, by rw [hnow]⟩
      show s.now < (s.wait net time).now
      omega
  | begin h operation => exact .inl (startsUntil_of_le (Nat.le_refl _))
  | send s request next => exact .inl (startsUntil_of_le (Nat.le_refl _))
  | conclude h => exact .inl (startsUntil_of_le (Nat.le_of_eq (conclude_now ..)))
  | extend hopen h held => exact .inl (startsUntil_of_le (Nat.le_refl _))
  | executeNow h held =>
    exact .inl (startsUntil_of_le (Nat.le_of_eq (atOnce_executeNow ..).now_eq))
  | settle s => exact .inl (startsUntil_of_le (Nat.le_refl _))

/-- Starting a chore only adds to what was sent. -/
theorem log_launch (net : Responder σ) (now : Nat) (chore : Chore) (traffic : Traffic σ) :
    traffic.log <+: (launch net now chore traffic).1.log := by
  cases chore with
  | probe => exact List.prefix_refl _
  | extend tx => exact log_perform net now traffic tx.extend

theorem AtOnce.traffic_eq {after : Session σ × Outcome} (h : AtOnce s after) :
    after.1.traffic = s.traffic := by
  cases h <;> rfl

theorem Move.log_prefix (h : Move net allowed a b) :
    a.session.traffic.log <+: b.session.traffic.log := by
  cases h with
  | begin h operation => exact List.prefix_refl _
  | send s request next => exact List.prefix_append ..
  | conclude h => simp only [conclude_traffic, List.prefix_refl]
  | extend hopen h held => exact List.prefix_append ..
  | wait s time held => exact log_wait net time s
  | executeNow h held => simp only [(atOnce_executeNow _ _).traffic_eq, List.prefix_refl]
  | settle s => exact List.prefix_refl _

/-- What is started in a move does to the network what its task does, and more may be sent then. -/
theorem Move.of_mem_startsUntil (h : Move net allowed a b) (hsound : a.session.IsSound)
    {x : Start (Traffic σ) Chore} (hx : x ∈ a.session.startsUntil net b.session.now) :
    launch net x.time x.task x.before = (x.after, x.length) ∧
      x.after.log <+: b.session.traffic.log := by
  rcases h.startsUntil_cases with hnone | ⟨hlater, hwait⟩
  · rw [hnone] at hx
    contradiction
  · have hchain := KeepAlive.chain_advance hsound.keepAlive (launch net) b.session.now
      a.session.traffic
    have hgrows := hchain.grows (R := fun s s' : Traffic σ => s.log <+: s'.log)
      (fun s => List.prefix_refl s.log) (fun _ _ _ h h' => h.trans h') (log_launch net)
    rw [Session.wait, if_neg (Nat.not_le.2 hlater)] at hwait
    refine ⟨hchain.launch_eq x hx, ?_⟩
    rw [hwait]
    exact hgrows.2 x hx

theorem Unfolds.leads (h : Unfolds net a b starts) : Leads net (fun _ => True) a b := by
  induction h with
  | rest => exact .refl
  | move _ hmove _ ih => exact ih.tail hmove

theorem Unfolds.reachable (h : Unfolds net a b starts) (ha : Reachable net a.session) :
    Reachable net b.session :=
  h.leads.keeps (fun _ _ hmove => hmove.reachable) ha

/-- **What is started does to the network what its task does**, and what was sent until then is part
of what is sent in the end. -/
theorem Unfolds.of_mem (h : Unfolds net a b starts) (ha : Reachable net a.session)
    {x : Start (Traffic σ) Chore} (hx : x ∈ starts) :
    launch net x.time x.task x.before = (x.after, x.length) ∧
      x.after.log <+: b.session.traffic.log := by
  induction h with
  | rest => contradiction
  | move earlier hmove _ ih =>
    rcases List.mem_append.1 hx with hx | hx
    · obtain ⟨hlaunch, hprefix⟩ := ih hx
      exact ⟨hlaunch, hprefix.trans hmove.log_prefix⟩
    · exact hmove.of_mem_startsUntil (earlier.reachable ha).isSound hx

/-! ## What the clock can tell -/

/-- A job whose interval the clock can add to any instant of a run has time in it. -/
theorem hasTime_of_interval {job : Job Chore} {limit now : Nat} (hnow : now ≤ limit)
    (h : limit + job.interval ≤ KeepAlive.lastInstant) : job.HasTime now := by
  intro k hk
  rw [Nat.succ_mul]
  omega

theorem IsServed.hasTime {limit : Nat} {s' : Session σ} (hs : s.IsServed limit)
    (hs' : s'.IsServed limit) (hlimit : s'.now ≤ limit) : s.HasTime s' where
  ticks := fun job hjob =>
    hasTime_of_interval hlimit ((KeepAlive.isTimely_settle hs.serves.timely).jobs job hjob)
  told := fun id interval chore hmem => by
    have hfits := hs'.serves.timely.inbox id interval chore hmem
    omega

/-- A run in which the clock can tell what was scheduled unfolds. -/
theorem Leads.exists_unfolds {limit : Nat} (h : Leads net (Outcome.Fits limit) a b)
    (ha : a.session.IsServed limit) (hlimit : b.session.now ≤ limit) :
    ∃ starts, Unfolds net a b starts := by
  induction h with
  | refl => exact ⟨[], .rest⟩
  | @tail b c earlier hmove ih =>
    have hb := Nat.le_trans hmove.now_le hlimit
    obtain ⟨starts, hunfolds⟩ := ih hb
    have hserved := Leads.isServed earlier ha hb
    exact ⟨_, hunfolds.move (hmove.mono fun _ _ => trivial)
      (hserved.hasTime (hmove.isServed hlimit hserved) hlimit)⟩

/-! ## Numbers of handles -/

/-- Whether the handles that are held have different numbers, all of which were given out. -/
structure IsNumbered (s : Session σ) : Prop where
  nodup : (s.handles.map (·.1.id)).Nodup
  numbered : ∀ handle ∈ s.handles, handle.1.id < s.keepAlive.nextId

theorem nodup_map_of_subperm {α β : Type} {f : α → β} {l l' : List α} (h : l.Subperm l')
    (hl' : (l'.map f).Nodup) : (l.map f).Nodup := by
  obtain ⟨l'', hperm, hsub⟩ := h
  exact (hperm.map f).nodup (hl'.sublist (hsub.map f))

theorem Move.isNumbered (h : Move net allowed a b) (ha : a.session.IsNumbered) :
    b.session.IsNumbered := by
  rcases h.handles_cases with ⟨hsub, hnext⟩ | ⟨new, hid, hsub, hnext⟩
  · exact ⟨nodup_map_of_subperm hsub ha.nodup, fun handle hmem =>
      hnext ▸ ha.numbered handle (hsub.subset hmem)⟩
  · have hnumbered : ∀ handle ∈ a.session.handles, handle.1.id < new.1.id :=
      fun handle hmem => hid ▸ ha.numbered handle hmem
    refine ⟨nodup_map_of_subperm hsub (List.nodup_cons.2 ⟨fun hmem => ?_, ha.nodup⟩), ?_⟩
    · obtain ⟨handle, hhandle, heq⟩ := List.mem_map.1 hmem
      exact Nat.ne_of_lt (hnumbered handle hhandle) heq
    · intro handle hmem
      rcases List.mem_cons.1 (hsub.subset hmem) with rfl | hmem
      · omega
      · have := hnumbered handle hmem
        omega

/-- Whether a handle with a number is held. -/
def Holds (s : Session σ) (n : Nat) : Prop :=
  ∃ handle ∈ s.handles, handle.1.id = n

/-- A handle that is held with a number which was given out before was held before. -/
theorem Move.holds (h : Move net allowed a b) {n : Nat} (hn : n < a.session.keepAlive.nextId)
    (hb : b.session.Holds n) : a.session.Holds n := by
  obtain ⟨handle, hmem, rfl⟩ := hb
  exact ⟨handle, (Leads.handles (.single h)).2 handle hmem hn, rfl⟩

/-! ## Attending to a session -/

/-- Whether all handles that are held were accepted, and the scheduler has stopped only if nobody is
left to use it, when it has received what it was told. -/
structure Attends (a : Scene σ) : Prop where
  isActive : ∀ handle ∈ a.session.handles, handle.1.isActive
  of_isStopped : (a.session.keepAlive.settle a.session.now).isStopped →
    a.session.tracker = none ∧ a.held = none ∧ a.session.handles = []

theorem Attends.isStopped_eq_false (h : Attends a)
    (hused : a.session.tracker.isSome ∨ a.held.isSome ∨ a.session.handles ≠ []) :
    (a.session.keepAlive.settle a.session.now).isStopped = false := by
  rw [Bool.eq_false_iff]
  intro hstopped
  obtain ⟨htracker, hheld, hhandles⟩ := h.of_isStopped hstopped
  simp [htracker, hheld, hhandles] at hused

theorem schedule_isActive {k : KeepAlive Chore} (hopen : k.isShutDown = false)
    (hrunning : k.isStopped = false) (interval : Nat) (chore : Chore) :
    (k.schedule interval chore).2.isActive := by
  rw [KeepAlive.schedule, if_neg (by simp [hopen, hrunning])]

/-- A task that is scheduled in time is accepted, and nothing stops. -/
theorem accepts_schedule {k : KeepAlive Chore} {now interval : Nat} (hopen : k.isShutDown = false)
    (hrunning : (k.settle now).isStopped = false)
    (hfits : now + max interval KeepAlive.shortestInterval ≤ KeepAlive.lastInstant) (chore : Chore) :
    (k.schedule interval chore).2.isActive ∧
      ((k.schedule interval chore).1.settle now).isStopped = false := by
  refine ⟨schedule_isActive hopen (KeepAlive.isStopped_of_settle hrunning) .., ?_⟩
  rw [KeepAlive.settle_schedule hopen hrunning hfits]
  exact hrunning

/-- The clock can tell the first tick of what is scheduled, if it can tell that of all that the
scheduler was told. -/
theorem fits_of_told {k : KeepAlive Chore} {now interval : Nat} {chore : Chore}
    (hopen : k.isShutDown = false) (hrunning : (k.settle now).isStopped = false)
    (htold : ∀ id interval' chore',
      .schedule id interval' chore' ∈ (k.schedule interval chore).1.inbox →
        now + interval' ≤ KeepAlive.lastInstant) :
    now + max interval KeepAlive.shortestInterval ≤ KeepAlive.lastInstant :=
  htold _ _ _
    (KeepAlive.schedule_mem_inbox hopen (KeepAlive.isStopped_of_settle hrunning) interval chore)

theorem foldl_cancel_settle_isStopped (now : Nat) (k : KeepAlive Chore) (tickets : List Ticket) :
    ((tickets.foldl KeepAlive.cancel k).settle now).isStopped = (k.settle now).isStopped :=
  List.foldlRecOn (motive := fun k' : KeepAlive Chore =>
    (k'.settle now).isStopped = (k.settle now).isStopped) tickets KeepAlive.cancel rfl
    fun _ h _ _ => (KeepAlive.settle_cancel_isStopped ..).trans h

theorem AtOnce.attends {after : Session σ × Outcome} (h : AtOnce s after)
    {held : Option (Dialogue (Tracker × Except Failure Answer))} (hs : Attends ⟨s, held⟩)
    (htime : s.HasTime after.1) (hopen : after.1.keepAlive.isShutDown = false) :
    Attends ⟨after.1, held⟩ := by
  obtain ⟨hactive, hstopped⟩ := hs
  cases h with
  | pass epoch outcome => exact ⟨hactive, hstopped⟩
  | close htx =>
    have hperm := handles_close_perm htx
    refine ⟨fun handle hmem => hactive handle (hperm.mem_iff.2 (List.mem_cons_of_mem _ hmem)), ?_⟩
    rw [KeepAlive.settle_cancel_isStopped]
    intro hstop
    obtain ⟨-, -, hnil⟩ := hstopped hstop
    rw [hnil] at hperm
    exact absurd hperm.nil_eq.symm (List.cons_ne_nil _ _)
  | shutDown => rw [KeepAlive.shutDown_isShutDown] at hopen; contradiction
  | @probe t ht =>
    rw [KeepAlive.schedule_isShutDown] at hopen
    have hrunning := Attends.isStopped_eq_false ⟨hactive, hstopped⟩
      (.inl (by simp [tracker_of_tracker? ht]))
    obtain ⟨hticket, hruns⟩ :=
      accepts_schedule hopen hrunning (fits_of_told hopen hrunning htime.told) .probe
    refine ⟨?_, fun hstop => ?_⟩
    · simp only [handles, List.map_append, ← List.append_assoc, List.forall_mem_append]
      exact ⟨List.forall_mem_append.1 hactive, by simpa using hticket⟩
    · rw [hruns] at hstop
      contradiction
  | dropProbes =>
    have hperm := handles_perm_probes s
    refine ⟨fun handle hmem => hactive handle (hperm.mem_iff.2 (List.mem_append_right _ hmem)), ?_⟩
    rw [foldl_cancel_settle_isStopped]
    intro hstop
    obtain ⟨htracker, hheld, hnil⟩ := hstopped hstop
    rw [hnil] at hperm
    exact ⟨htracker, hheld, (List.append_eq_nil_iff.1 hperm.nil_eq.symm).2⟩
  | release => exact ⟨hactive, hstopped⟩

/-- A session in which all handles are those of jobs is in use as long as there is one. -/
theorem isInUse_of_handles (hactive : ∀ handle ∈ s.handles, handle.1.isActive)
    (hheld : s.handles ≠ []) : s.isInUse = true := by
  obtain ⟨handle, hmem⟩ := List.exists_mem_of_ne_nil _ hheld
  rw [isInUse, List.any_eq_true.2 ⟨handle, hmem, hactive handle hmem⟩, Bool.or_true]

/-- While time passes for which the clock can tell the ticks, nothing stops the scheduler. -/
theorem settle_wait_isStopped (hsound : s.IsSound) {time : Nat}
    (htime : s.HasTime (s.wait net time)) :
    ((s.wait net time).keepAlive.settle (s.wait net time).now).isStopped =
      (s.keepAlive.settle s.now).isStopped := by
  have hticks := htime.ticks
  rw [wait] at hticks ⊢
  split at hticks
  · next hpast => rw [if_pos hpast]
  · next hlater =>
    have hnow : s.now ≤ time := by omega
    obtain ⟨jobs, traffic, -, hadvance⟩ := KeepAlive.exists_advance_of_hasTime hsound.keepAlive hnow
      hticks (launch net) s.traffic
    have hsettle : KeepAlive.settle time { s.keepAlive.settle s.now with jobs := jobs } =
        { s.keepAlive.settle s.now with jobs := jobs } :=
      KeepAlive.settle_of_inbox_eq_nil (KeepAlive.settle_inbox ..)
    rw [if_neg hlater, hadvance, hsettle]

theorem attends_settle {held : Option (Dialogue (Tracker × Except Failure Answer))}
    (hs : Attends ⟨s, held⟩) : Attends ⟨s.settle, none⟩ := by
  have hleaves := leaves_settle s
  refine ⟨fun handle hmem => hs.isActive handle (hleaves.handles ▸ hmem), fun hstopped => ?_⟩
  have htracker : s.settle.tracker = s.tracker? := rfl
  rw [htracker, hleaves.handles, tracker?]
  rw [settle] at hstopped
  cases hused : s.isInUse with
  | true =>
    simp only [hused, if_true] at hstopped
    rw [KeepAlive.settle_of_inbox_eq_nil (KeepAlive.settle_inbox ..)] at hstopped
    obtain ⟨hnone, -, hnil⟩ := hs.of_isStopped hstopped
    rw [hnone, ite_self]
    exact ⟨rfl, rfl, hnil⟩
  | false =>
    -- it stops as nobody uses it, so there is neither a tracker nor a handle
    have hnil : s.handles = [] := by
      by_contra hheld
      rw [isInUse_of_handles hs.isActive hheld] at hused
      contradiction
    rw [isInUse, Bool.or_eq_false_iff, Bool.not_eq_false'] at hused
    rw [if_pos hused.1]
    exact ⟨rfl, rfl, hnil⟩

theorem attends_keep {held : Option (Dialogue (Tracker × Except Failure Answer))}
    (hs : Attends ⟨s, held⟩) (hrunning : (s.keepAlive.settle s.now).isStopped = false)
    (hopen : s.keepAlive.isShutDown = false) {tx : Transaction}
    (hfits : s.now + Transaction.extensionInterval tx.ttl ≤ KeepAlive.lastInstant) :
    Attends ⟨s.keep tx, none⟩ := by
  rw [← max_extensionInterval] at hfits
  obtain ⟨hticket, hruns⟩ := accepts_schedule hopen hrunning hfits (.extend tx)
  refine ⟨fun handle hmem => ?_, fun hstop => ?_⟩
  · rcases List.mem_append.1 ((handles_keep_perm _ tx).mem_iff.1 hmem) with hmem | hmem
    · exact hs.isActive handle hmem
    · rw [List.mem_singleton.1 hmem]
      exact hticket
  · have hstop : ((s.keepAlive.schedule (Transaction.extensionInterval tx.ttl)
        (.extend tx)).1.settle s.now).isStopped = true := hstop
    rw [hruns] at hstop
    contradiction

/-- A move keeps the scheduler attending to a session unless it shuts it down. -/
theorem Move.attends (h : Move net allowed a b) (hsound : a.session.IsSound)
    (htime : a.session.HasTime b.session) (hopen : b.session.keepAlive.isShutDown = false)
    (ha : Attends a) : Attends b := by
  have hopen' := h.isShutDown_eq_false hopen
  cases h with
  | @begin s t h operation =>
    refine ⟨ha.isActive, fun hstopped => ?_⟩
    rw [ha.isStopped_eq_false (.inl (by simp [h]))] at hstopped
    contradiction
  | send s request next =>
    exact ⟨ha.isActive, fun hstopped => nomatch (ha.of_isStopped hstopped).2.1⟩
  | @conclude s t result h =>
    have hrunning := ha.isStopped_eq_false (.inr (.inl rfl))
    have hopened : Attends ⟨{ s with tracker := some t }, none⟩ :=
      ⟨ha.isActive, fun hstopped => absurd hstopped (by simp [hrunning])⟩
    rcases conclude_cases s t result with ⟨tx, hconclude⟩ | ⟨-, hconclude⟩
    · have htold := htime.told
      rw [hconclude] at htold ⊢
      have hfits := fits_of_told hopen' hrunning htold
      rw [max_extensionInterval] at hfits
      exact attends_keep hopened hrunning hopen' hfits
    · rw [hconclude]
      exact hopened
  | extend hopen h held => exact ⟨ha.isActive, ha.of_isStopped⟩
  | wait s time held =>
    have hleaves := leaves_wait net time s
    refine ⟨fun handle hmem => ha.isActive handle (hleaves.handles ▸ hmem), fun hstopped => ?_⟩
    rw [wait_tracker, hleaves.handles]
    rw [settle_wait_isStopped hsound htime] at hstopped
    exact ha.of_isStopped hstopped
  | executeNow h held => exact (atOnce_executeNow ..).attends ha htime hopen
  | settle s => exact attends_settle ha

/-- A scheduler attends to a session from the moment at which its tracker was connected. -/
theorem attends_connect {epoch : Int} {network : σ} {saved : Option PeerStatus}
    {seeds : List String} {interval : Duration} {logins : Logins}
    (h : (start epoch network saved).connect net seeds interval logins = (s, .ok ())) :
    Attends ⟨s, none⟩ ∧ s.IsNumbered := by
  obtain ⟨hhandles, hkeepAlive, -⟩ := connect_fresh h
  refine ⟨⟨by simp [hhandles], fun hstopped => ?_⟩, ⟨by simp [hhandles], by simp [hhandles]⟩⟩
  rw [hkeepAlive] at hstopped
  contradiction

theorem Unfolds.attends (h : Unfolds net a b starts) (ha : Reachable net a.session)
    (hattends : Attends a) (hopen : b.session.keepAlive.isShutDown = false) : Attends b := by
  induction h with
  | rest => exact hattends
  | move earlier hmove htime ih =>
    exact hmove.attends (earlier.reachable ha).isSound htime hopen
      (ih (hmove.isShutDown_eq_false hopen))

/-! ## Minding a plan -/

section Minding

variable {p : Plan} {chore : Chore}

/-- The number of a plan that a scheduler minds was given out. -/
theorem number_lt_of_minds (hsound : s.IsSound)
    (h : s.keepAlive.Minds s.now p chore starts) : p.number < s.keepAlive.nextId := by
  obtain ⟨job, hjob, -⟩ := h
  obtain ⟨hmem, hid⟩ := List.mem_filter.1 (hjob.symm ▸ List.mem_singleton_self job)
  have hlt := (KeepAlive.isSound_settle hsound.keepAlive).numbered job hmem
  rw [KeepAlive.settle_nextId] at hlt
  rwa [← beq_iff_eq.1 hid]

theorem minds_schedule (hsound : s.IsSound) (hopen : s.keepAlive.isShutDown = false)
    (hrunning : (s.keepAlive.settle s.now).isStopped = false)
    (h : s.keepAlive.Minds s.now p chore starts) {interval : Nat} {chore' : Chore}
    (htold : ∀ id interval' chore'',
      .schedule id interval' chore'' ∈ (s.keepAlive.schedule interval chore').1.inbox →
        s.now + interval' ≤ KeepAlive.lastInstant) :
    (s.keepAlive.schedule interval chore').1.Minds s.now p chore starts :=
  h.schedule (number_lt_of_minds hsound h) hopen hrunning (fits_of_told hopen hrunning htold) chore'

theorem AtOnce.minds {after : Session σ × Outcome} (h : AtOnce s after) (hsound : s.IsSound)
    (hnumbered : s.IsNumbered) (hrunning : (s.keepAlive.settle s.now).isStopped = false)
    (htime : s.HasTime after.1) (hopen : after.1.keepAlive.isShutDown = false)
    (hheld : after.1.Holds p.number) (hminds : s.keepAlive.Minds s.now p chore starts) :
    after.1.keepAlive.Minds after.1.now p chore starts := by
  obtain ⟨handle, hmem, hid⟩ := hheld
  cases h with
  | pass epoch outcome => exact hminds
  | close htx =>
    -- the handle that is given back is another one, as no two have one number
    have hnodup := ((handles_close_perm htx).map (·.1.id)).nodup hnumbered.nodup
    refine hminds.cancel fun heq => (List.nodup_cons.1 hnodup).1 ?_
    exact List.mem_map.2 ⟨handle, hmem, hid.trans heq.symm⟩
  | shutDown => rw [KeepAlive.shutDown_isShutDown] at hopen; contradiction
  | probe ht =>
    rw [KeepAlive.schedule_isShutDown] at hopen
    exact minds_schedule hsound hopen hrunning hminds htime.told
  | dropProbes =>
    have hnodup := ((handles_perm_probes s).map (·.1.id)).nodup hnumbered.nodup
    rw [List.map_append, List.nodup_append] at hnodup
    refine hminds.foldl_cancel fun ticket hticket heq => ?_
    exact hnodup.2.2 ticket.id (by simpa using ⟨ticket, hticket, rfl⟩) handle.1.id
      (List.mem_map_of_mem hmem) (heq.trans hid.symm)
  | release => exact hminds

theorem minds_wait (hsound : s.IsSound) {time : Nat} (htime : s.HasTime (s.wait net time))
    (hminds : s.keepAlive.Minds s.now p chore starts) :
    (s.wait net time).keepAlive.Minds (s.wait net time).now p chore
      (starts ++ s.startsUntil net (s.wait net time).now) := by
  have hticks := htime.ticks
  rw [wait] at hticks ⊢
  split at hticks
  · next hpast =>
    rw [if_pos hpast, startsUntil_of_le (Nat.le_refl _), List.append_nil]
    exact hminds
  · next hlater =>
    rw [if_neg hlater]
    have hnow : s.now ≤ time := by omega
    exact hminds.advance hsound.keepAlive hnow hticks (launch net) s.traffic

/-- **A move keeps the scheduler minding a plan**, whatever it is, as long as the handle of the job is
held and the scheduler is not shut down; what is started by the plan in this move is told. -/
theorem Move.minds (h : Move net allowed a b) (hsound : a.session.IsSound)
    (hnumbered : a.session.IsNumbered) (hattends : Attends a) (htime : a.session.HasTime b.session)
    (hopen : b.session.keepAlive.isShutDown = false) (hheld : b.session.Holds p.number)
    (hminds : a.session.keepAlive.Minds a.session.now p chore starts) :
    b.session.keepAlive.Minds b.session.now p chore
      (starts ++ a.session.startsUntil net b.session.now) := by
  have hopen' := h.isShutDown_eq_false hopen
  have hused : a.session.handles ≠ [] := by
    obtain ⟨handle, hmem, -⟩ := h.holds (number_lt_of_minds hsound hminds) hheld
    exact List.ne_nil_of_mem hmem
  have hrunning := hattends.isStopped_eq_false (.inr (.inr hused))
  have hidle : b.session.now ≤ a.session.now →
      starts ++ a.session.startsUntil net b.session.now = starts := fun hle => by
    rw [startsUntil_of_le hle, List.append_nil]
  cases h with
  | begin h operation => rwa [hidle (Nat.le_refl _)]
  | send s request next => rwa [hidle (Nat.le_refl _)]
  | @conclude s t result h =>
    rw [hidle (Nat.le_of_eq (conclude_now ..))]
    rcases conclude_cases s t result with ⟨tx, hconclude⟩ | ⟨-, hconclude⟩
    · have htold := htime.told
      rw [hconclude] at htold ⊢
      exact minds_schedule hsound hopen' hrunning hminds htold
    · rwa [hconclude]
  | extend hopen h held => rwa [hidle (Nat.le_refl _)]
  | wait s time held => exact minds_wait hsound htime hminds
  | @executeNow s command h held =>
    have hdone := atOnce_executeNow s command
    rw [hidle (Nat.le_of_eq hdone.now_eq)]
    exact hdone.minds hsound hnumbered hrunning htime hopen hheld hminds
  | settle s =>
    rw [hidle (Nat.le_refl _)]
    have hsettle : s.settle.keepAlive = s.keepAlive.settle s.now := by
      rw [Session.settle]
      simp only [isInUse_of_handles hattends.isActive hused, if_true]
    rw [hsettle]
    exact hminds.settle

/-- As long as the handle of a job is held and the scheduler is not shut down, the scheduler minds the
plan of the job. -/
theorem Unfolds.minds (h : Unfolds net a b starts) (ha : Reachable net a.session)
    (hnumbered : a.session.IsNumbered) (hattends : Attends a)
    (hminds : a.session.keepAlive.Minds a.session.now p chore ([] : List (Start (Traffic σ) Chore)))
    (hopen : b.session.keepAlive.isShutDown = false) (hheld : b.session.Holds p.number) :
    b.session.keepAlive.Minds b.session.now p chore starts := by
  induction h with
  | rest => exact hminds
  | @move b c starts earlier hmove htime ih =>
    -- whose handle is held in the end held it all the time, as its number was given out before
    have hopen' := hmove.isShutDown_eq_false hopen
    have hsound := (earlier.reachable ha).isSound
    have hnumber := Nat.lt_of_lt_of_le (number_lt_of_minds ha.isSound hminds)
      (Leads.handles earlier.leads).1
    exact hmove.minds hsound (earlier.leads.keeps (fun _ _ hmove => hmove.isNumbered) hnumbered)
      (earlier.attends ha hattends hopen') htime hopen hheld
      (ih hopen' (hmove.holds hnumber hheld))

end Minding

end Session

end FlowPeers
