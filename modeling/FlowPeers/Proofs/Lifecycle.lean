import FlowPeers.Proofs.Opening
import FlowPeers.Proofs.Unfolding
import Mathlib.Algebra.GroupWithZero.Nat

/-!
# What becomes of the jobs in a run

A transaction that is opened gets a job of its own, which it keeps until it is closed or the scheduler
is shut down. Operations that fail, attempts that fail before another peer succeeds, and giving the
tracker up have nothing to do with the jobs (`open_handles_have_their_jobs`). That every handle is
accepted until then is because the scheduler attends to the session (`Session.Attends`).
-/

namespace FlowPeers

variable {σ : Type}

/-- Whether a command has opened a transaction, by its outcome. -/
def Command.opens : Command → Outcome → Bool
  | .operate _, .answer (.opened _) => true
  | _, _ => false

namespace Session

variable {net : Responder σ} {limit : Nat} {s : Session σ}

/-! ## How many transactions are opened -/

/-- How many transactions a command has opened when it was begun. -/
def begun (command : Command) : Stage → Nat
  | .known outcome => (command.opens outcome).toNat
  | .waiting _ _ | .queued _ => 0

theorem length_conclude (s : Session σ) (t : Tracker) (result : Except Failure Answer)
    (operation : Operation) : (s.conclude t result).1.transactions.length =
      s.transactions.length + ((Command.operate operation).opens (s.conclude t result).2).toNat := by
  rcases result with failure | answer
  · rfl
  · cases answer with
    | done => rfl
    | identifier id => rfl
    | opened tx => simp [conclude, keep, Command.opens, Outcome.ofResult]

theorem AtOnce.length_eq {after : Session σ × Outcome} (h : AtOnce s after) :
    after.1.transactions.length = s.transactions.length := by
  cases h with
  | close htx => exact List.length_set
  | _ => rfl

theorem length_operate (net : Responder σ) (s : Session σ) (t : Tracker)
    (operation operation' : Operation) :
    (s.operate net t operation).1.transactions.length = s.transactions.length +
      ((Command.operate operation').opens (s.operate net t operation).2).toNat := by
  rw [operate]
  simp only
  rw [length_conclude _ _ _ operation', (leaves_converse net s _).transactions]

theorem length_beginOperation (net : Responder σ) (s : Session σ) (isLocked : Bool)
    (operation : Operation) : (s.beginOperation net isLocked operation).1.transactions.length =
      s.transactions.length +
        begun (.operate operation) (s.beginOperation net isLocked operation).2 := by
  rw [beginOperation]
  split
  · rfl
  · next t _ =>
    split
    · rfl
    · have hleaves := leaves_converseNow net s (t.operate operation s.clock)
      split
      · next heq =>
        rw [heq] at hleaves
        rw [begun, length_conclude _ _ _ operation, hleaves.transactions]
      · next heq =>
        rw [heq] at hleaves
        rw [begun, hleaves.transactions]
        rfl

theorem length_beginCommand (net : Responder σ) (s : Session σ) (isLocked : Bool)
    (command : Command) : (s.beginCommand net isLocked command).1.transactions.length =
      s.transactions.length + begun command (s.beginCommand net isLocked command).2.1 := by
  have hnow := (atOnce_executeNow s command).length_eq
  cases command with
  | operate operation => exact length_beginOperation net s isLocked operation
  | extend n =>
    rw [beginCommand]
    split <;> rfl
  | _ => exact hnow

/-- Only operations need the lock. -/
theorem exists_operation_of_isLocking {isLocked : Bool} {command : Command}
    (h : (s.beginCommand net isLocked command).2.1.isLocking) :
    ∃ operation, command = .operate operation := by
  cases command with
  | operate operation => exact ⟨operation, rfl⟩
  | extend n =>
    rw [beginCommand] at h
    split at h <;> contradiction
  | _ => contradiction

/-- How many transactions some commands have opened, by their outcomes. -/
def openedBy (commands : List Command) (outcomes : List Outcome) : Nat :=
  (List.zipWith (fun command outcome => (command.opens outcome).toNat) commands outcomes).sum

theorem length_beginAll (net : Responder σ) (s : Session σ) (isLocked : Bool)
    (commands : List Command) :
    (s.beginAll net isLocked commands).1.transactions.length = s.transactions.length +
        (List.zipWith begun commands (s.beginAll net isLocked commands).2.1).sum ∧
      List.Forall₂ (fun command stage => stage.isLocking → ∃ operation, command = .operate operation)
        commands (s.beginAll net isLocked commands).2.1 := by
  induction commands generalizing s isLocked with
  | nil => exact ⟨rfl, .nil⟩
  | cons command rest ih =>
    have hfirst := length_beginCommand net s isLocked command
    have hoperation : (s.beginCommand net isLocked command).2.1.isLocking → _ :=
      exists_operation_of_isLocking
    rcases hbegin : s.beginCommand net isLocked command with ⟨s₁, stage, finish⟩
    rw [hbegin] at hfirst hoperation
    obtain ⟨hrest, hoperations⟩ := ih s₁ (isLocked || stage.isLocking)
    rcases hall : s₁.beginAll net (isLocked || stage.isLocking) rest with ⟨s₂, stages, last⟩
    rw [hall] at hrest hoperations
    simp only [beginAll, hbegin, hall, List.zipWith_cons_cons, List.sum_cons] at hfirst hrest ⊢
    exact ⟨by omega, .cons hoperation hoperations⟩

/-- Every command that opens a transaction adds exactly one, and no other command adds any. -/
theorem length_finishAll (net : Responder σ) {commands : List Command} {stages : List Stage}
    (h : List.Forall₂ (fun command stage => stage.isLocking → ∃ operation, command = .operate operation)
      commands stages) (s : Session σ) :
    (s.finishAll net stages).1.transactions.length + (List.zipWith begun commands stages).sum =
      s.transactions.length + openedBy commands (s.finishAll net stages).2 := by
  induction h generalizing s with
  | nil => rfl
  | @cons command stage commands stages hfirst _ ih =>
    cases stage with
    | known outcome =>
      have hrest := ih s
      simp only [finishAll, openedBy, begun, List.zipWith_cons_cons, List.sum_cons] at hrest ⊢
      omega
    | waiting arrival dialogue =>
      obtain ⟨operation, rfl⟩ := hfirst rfl
      have hwait := leaves_wait net arrival s
      have hconverse := leaves_converse net (s.wait net arrival) dialogue
      rcases hconversed : (s.wait net arrival).converse net dialogue with ⟨s₁, t, result⟩
      rw [hconversed] at hconverse
      have hconclude := length_conclude s₁ t result operation
      rw [(hwait.trans hconverse).transactions] at hconclude
      have hrest := ih (s₁.conclude t result).1
      simp only [finishAll, hconversed, openedBy, begun, List.zipWith_cons_cons,
        List.sum_cons] at hrest ⊢
      omega
    | queued operation' =>
      obtain ⟨operation, rfl⟩ := hfirst rfl
      cases htracker : s.tracker with
      | none =>
        have hrest := ih s
        have hnone : ((Command.operate operation).opens .noTracker).toNat = 0 := rfl
        simp only [finishAll, htracker, openedBy, begun, List.zipWith_cons_cons,
          List.sum_cons] at hrest ⊢
        omega
      | some t =>
        have hoperate := length_operate net s t operation' operation
        have hrest := ih (s.operate net t operation').1
        simp only [finishAll, htracker, openedBy, begun, List.zipWith_cons_cons,
          List.sum_cons] at hrest ⊢
        omega

theorem length_executeAll (net : Responder σ) (s : Session σ) (commands : List Command) :
    (s.executeAll net commands).1.transactions.length =
      s.transactions.length + openedBy commands (s.executeAll net commands).2 := by
  obtain ⟨hbegin, hoperations⟩ := length_beginAll net s false commands
  rcases hall : s.beginAll net false commands with ⟨s₁, stages, last⟩
  rw [hall] at hbegin hoperations
  have hfinish := length_finishAll net hoperations s₁
  rcases hfinished : s₁.finishAll net stages with ⟨s₂, outcomes⟩
  rw [hfinished] at hfinish
  have hend := ((leaves_wait net last s₂).trans (leaves_settle _)).transactions
  simp only [executeAll, hall, hfinished, hend] at hbegin hfinish ⊢
  omega

/-! ## After the scheduler was shut down -/

theorem obeys_conclude (h : s.keepAlive.Obeys s.now) (t : Tracker)
    (result : Except Failure Answer) :
    (s.conclude t result).1.keepAlive.Obeys (s.conclude t result).1.now := by
  rcases result with failure | answer
  · exact h
  · cases answer with
    | done => exact h
    | identifier id => exact h
    | opened tx => exact KeepAlive.obeys_schedule h _ _

theorem AtOnce.obeys {after : Session σ × Outcome} (h : AtOnce s after)
    (hs : s.keepAlive.Obeys s.now) : after.1.keepAlive.Obeys after.1.now := by
  cases h with
  | pass epoch outcome => exact hs
  | close htx => exact KeepAlive.obeys_cancel hs _
  | shutDown => exact KeepAlive.obeys_shutDown hs
  | probe ht => exact KeepAlive.obeys_schedule hs _ _
  | dropProbes => exact KeepAlive.obeys_foldl_cancel hs _
  | release => exact hs

theorem obeys_wait (h : s.keepAlive.Obeys s.now) (time : Nat) :
    (s.wait net time).keepAlive.Obeys (s.wait net time).now := by
  rw [wait]
  split
  · exact h
  · exact KeepAlive.obeys_advance h _ _ _

theorem obeys_settle (h : s.keepAlive.Obeys s.now) : s.settle.keepAlive.Obeys s.settle.now := by
  rw [settle]
  cases s.isInUse with
  | true => exact KeepAlive.obeys_settle h
  | false => exact KeepAlive.obeys_stop ..

theorem Move.obeys {allowed : Outcome → Prop} {a b : Scene σ} (h : Move net allowed a b)
    (ha : a.session.keepAlive.Obeys a.session.now) :
    b.session.keepAlive.Obeys b.session.now := by
  cases h with
  | begin h operation => exact ha
  | send s request next => exact ha
  | conclude h => exact obeys_conclude ha _ _
  | extend hopen h held => exact ha
  | wait s time held => exact obeys_wait ha time
  | executeNow h held => exact (atOnce_executeNow ..).obeys ha
  | settle s => exact obeys_settle ha

theorem wait_traffic_of_isShutDown (h : s.keepAlive.Obeys s.now) (hshut : s.keepAlive.isShutDown)
    (time : Nat) : (s.wait net time).traffic = s.traffic := by
  rw [wait]
  split
  · rfl
  · rw [KeepAlive.advance_of_isStopped h (h.stopped_of_shut hshut)]

/-! ## Runs -/

theorem isServed_connect {epoch : Int} {network : σ} {saved : Option PeerStatus}
    {seeds : List String} {interval : Duration} {logins : Logins}
    (h : (start epoch network saved).connect net seeds interval logins = (s, .ok ()))
    (limit : Nat) : s.IsServed limit ∧ s.IsSettled := by
  obtain ⟨hhandles, hkeepAlive, hreleased⟩ := connect_fresh h
  refine ⟨⟨?_, fun hstopped => ?_⟩, ⟨?_, ?_⟩⟩
  · rw [hkeepAlive, hhandles]
    exact KeepAlive.serves_start s.now limit
  · rw [hkeepAlive] at hstopped
    contradiction
  · rw [hkeepAlive]
  · simp [isInUse, hreleased]

/-- A settled session goes on to be served in every run in which the clock can tell what is
scheduled. -/
theorem isServed_follow (h : s.IsServed limit) {steps : List Step}
    (hfits : ∀ outcome ∈ (s.follow net steps).2, outcome.Fits limit)
    (hlimit : (s.follow net steps).1.now ≤ limit) : (s.follow net steps).1.IsServed limit :=
  (leads_follow hfits).isServed h hlimit

/-- An operation adds the job of the transaction that it has opened, and none if it has not. -/
theorem entries_execute_operate (h : s.IsServed limit) (hsettled : s.IsSettled)
    {operation : Operation}
    (hafter : (s.execute net (.operate operation)).1.IsServed limit)
    (hlimit : (s.execute net (.operate operation)).1.now ≤ limit)
    (hopen : (s.execute net (.operate operation)).1.keepAlive.isShutDown = false) :
    (s.execute net (.operate operation)).1.keepAlive.nextId =
        s.keepAlive.nextId + (s.execute net (.operate operation)).2.opened.length ∧
      (s.execute net (.operate operation)).1.keepAlive.entries.Perm
        ((s.execute net (.operate operation)).2.opened.map (s.keepAlive.nextId, .extend ·)
          ++ s.keepAlive.entries) := by
  have horderly := h.isOrderly hsettled
  have horderly' := hafter.isOrderly (isSettled_settle _)
  have hperm' := horderly'.perm hopen
  rcases execute_operate_cases net s operation with
    ⟨hnone, hleaves⟩ | ⟨tx, s₁, heq, hreleased, hleaves, hserved⟩
  · rw [hleaves.isShutDown] at hopen
    rw [hleaves.handles] at hperm'
    rw [hnone]
    exact ⟨hleaves.nextId, hperm'.trans (horderly.perm hopen).symm⟩
  · rw [heq] at hperm' hopen hlimit ⊢
    have hserved₁ := hserved limit h hlimit
    have hsettle := leaves_settle (s₁.keep tx)
    have hopen₁ : s₁.keepAlive.isShutDown = false := by
      rw [hsettle.isShutDown] at hopen
      exact (KeepAlive.schedule_isShutDown ..).symm.trans hopen
    -- the scheduler runs as the tracker is there and it was not shut down
    have hrunning : s₁.keepAlive.isStopped = false := by
      rw [Bool.eq_false_iff]
      intro hstopped
      rcases hserved₁.released hstopped with hshut | hgone
      · rw [hopen₁] at hshut
        contradiction
      · rw [hleaves.isReleased, hreleased] at hgone
        contradiction
    have hticket : (s₁.keepAlive.schedule (Transaction.extensionInterval tx.ttl) (.extend tx)).2 =
        ⟨s.keepAlive.nextId, true⟩ := by
      rw [KeepAlive.schedule, if_neg (by simp [hopen₁, hrunning]), hleaves.nextId]
    have hhandles := handles_keep_perm s₁ tx
    rw [hticket, hleaves.handles] at hhandles
    rw [hsettle.handles] at hperm'
    rw [hleaves.isShutDown] at hopen₁
    refine ⟨?_, ?_⟩
    · rw [hsettle.nextId]
      exact (KeepAlive.schedule_nextId ..).trans (congrArg (· + 1) hleaves.nextId)
    · have hjobs := hperm'.trans (jobsOf_perm hhandles)
      rw [jobsOf_append] at hjobs
      refine (hjobs.trans ((horderly.perm hopen₁).symm.append_right _)).trans ?_
      exact List.perm_append_comm

/-- Without handles that were accepted there are no jobs. -/
theorem IsOrderly.jobs_eq_nil_of_inert (h : s.IsOrderly)
    (hinert : ∀ handle ∈ s.handles, handle.1.isActive = false) : s.keepAlive.jobs = [] := by
  cases hshut : s.keepAlive.isShutDown with
  | true => exact h.jobs_eq_nil hshut
  | false =>
    have hperm := h.perm hshut
    rw [jobsOf_eq_nil_iff.2 hinert] at hperm
    exact List.map_eq_nil_iff.1 hperm.eq_nil

/-- Who uses a settled session may leave without taking a job of a handle away. -/
theorem jobs_settle_of_isReleased (h : s.IsOrderly) (hsettled : s.IsSettled) (b : Bool) :
    ({ s with isReleased := b } : Session σ).settle.keepAlive.jobs = s.keepAlive.jobs := by
  have hsettle : s.keepAlive.settle s.now = s.keepAlive :=
    KeepAlive.settle_of_inbox_eq_nil hsettled.inbox_eq_nil
  rw [settle]
  cases hused : ({ s with isReleased := b } : Session σ).isInUse with
  | true => exact congrArg KeepAlive.jobs hsettle
  | false =>
    rw [isInUse, Bool.or_eq_false_iff, List.any_eq_false] at hused
    have hinert : ∀ handle ∈ s.handles, ¬ handle.1.isActive := hused.2
    exact (h.jobs_eq_nil_of_inert (by simpa using hinert)).symm

theorem jobs_execute_dropTracker (net : Responder σ) (h : s.IsOrderly) (hsettled : s.IsSettled) :
    (s.execute net .dropTracker).1.keepAlive.jobs = s.keepAlive.jobs := by
  have hexecute : (s.execute net .dropTracker).1 = (s.executeNow .dropTracker).1.settle := rfl
  rw [hexecute, executeNow]
  split
  · exact jobs_settle_of_isReleased h hsettled s.isReleased
  · exact jobs_settle_of_isReleased h hsettled true

/-- **Every open handle has exactly one job.** In every run of a session in which the clock can tell
what is scheduled:

* after each step the scheduler has exactly one job for each handle that was accepted and not given
  back, no other job, and no two handles of one job (`IsOrderly`); until it was shut down all handles
  were accepted; no number is used again;
* an operation adds the job of the transaction that it opens, and none if it opens none, whatever it
  has tried before; of commands at the same time each adds one transaction or none;
* giving the tracker up takes no job away;
* once the scheduler was shut down it stays so, nothing is started any more however time passes, and
  nothing that is scheduled is accepted. -/
theorem open_handles_have_their_jobs {epoch : Int} {network : σ} {saved : Option PeerStatus}
    {seeds : List String} {interval : Duration} {logins : Logins} {s₀ : Session σ}
    (hconnect : (start epoch network saved).connect net seeds interval logins = (s₀, .ok ()))
    {steps : List Step} (hfits : ∀ outcome ∈ (s₀.follow net steps).2,
      outcome.Fits (s₀.follow net steps).1.now) :
    let s := (s₀.follow net steps).1
    s.IsOrderly ∧
    (s.keepAlive.isShutDown = false → ∀ handle ∈ s.handles, handle.1.isActive) ∧
    (∀ earlier later, steps = earlier ++ later →
      ∀ handle ∈ s.handles, handle.1.id < (s₀.follow net earlier).1.keepAlive.nextId →
        handle ∈ (s₀.follow net earlier).1.handles) ∧
    (∀ earlier operation, steps = earlier ++ [.one (.operate operation)] →
      let s₁ := (s₀.follow net earlier).1
      let opened := (s₁.execute net (.operate operation)).2.opened
      s.keepAlive.isShutDown = false →
        s.keepAlive.nextId = s₁.keepAlive.nextId + opened.length ∧
        s.keepAlive.entries.Perm
          (opened.map (s₁.keepAlive.nextId, .extend ·) ++ s₁.keepAlive.entries)) ∧
    (∀ earlier commands, steps = earlier ++ [.several commands] →
      let s₁ := (s₀.follow net earlier).1
      s.transactions.length =
        s₁.transactions.length + openedBy commands (s₁.executeAll net commands).2) ∧
    (s.execute net .dropTracker).1.keepAlive.jobs = s.keepAlive.jobs ∧
    ∀ a, Leads net (fun _ => True) ⟨s₀, none⟩ a → a.session.keepAlive.isShutDown →
      (∀ time, (a.session.wait net time).traffic = a.session.traffic) ∧
      (∀ interval chore, (a.session.keepAlive.schedule interval chore).2.isActive = false) ∧
      ∀ b, Leads net (fun _ => True) a b → b.session.keepAlive.isShutDown := by
  intro s
  have hsettled₀ := (isServed_connect hconnect s.now).2
  have hserved₀ := fun limit => (isServed_connect hconnect limit).1
  have hserved := isServed_follow (hserved₀ s.now) hfits (Nat.le_refl _)
  have hsettled : s.IsSettled := isSettled_follow hsettled₀ steps
  have horderly := hserved.isOrderly hsettled
  refine ⟨horderly, ?_, ?_, ?_, ?_, jobs_execute_dropTracker net horderly hsettled, ?_⟩
  · intro hopen
    have hleads : Leads net (Outcome.Fits s.now) ⟨s₀, none⟩ ⟨s, none⟩ := leads_follow hfits
    obtain ⟨starts, hunfolds⟩ := hleads.exists_unfolds (hserved₀ s.now) (Nat.le_refl _)
    exact (hunfolds.attends (.connect hconnect) (attends_connect hconnect).1 hopen).isActive
  · rintro earlier later rfl
    have hleads : Leads net (fun _ => True) ⟨(s₀.follow net earlier).1, none⟩ ⟨s, none⟩ := by
      show Leads net _ _ ⟨(s₀.follow net (earlier ++ later)).1, none⟩
      rw [follow_append]
      exact leads_follow fun _ _ => trivial
    exact hleads.handles.2
  · rintro earlier operation rfl s₁ opened hopen
    have hs : s = (s₁.execute net (.operate operation)).1 := by
      show (s₀.follow net (earlier ++ [.one (.operate operation)])).1 = _
      rw [follow_append]
      rfl
    have hnow : s₁.now ≤ s.now := by
      have hleads : Leads net (fun _ => True) ⟨s₁, none⟩
          ⟨(s₁.execute net (.operate operation)).1, none⟩ :=
        leads_execute _ trivial
      rw [hs]
      exact hleads.now_le
    have hfits₁ : ∀ outcome ∈ (s₀.follow net earlier).2, outcome.Fits s.now := by
      intro outcome hmem
      refine hfits outcome ?_
      rw [follow_append]
      exact List.mem_append_left _ hmem
    have hserved₁ : s₁.IsServed s.now := isServed_follow (hserved₀ s.now) hfits₁ hnow
    have hentries := entries_execute_operate hserved₁ (isSettled_follow hsettled₀ earlier)
      (hs ▸ hserved) (Nat.le_of_eq (congrArg now hs.symm)) (hs ▸ hopen)
    rw [← hs] at hentries
    exact hentries
  · rintro earlier commands rfl s₁
    have hs : s = (s₁.executeAll net commands).1 := by
      show (s₀.follow net (earlier ++ [.several commands])).1 = _
      rw [follow_append]
      rfl
    rw [hs]
    exact length_executeAll net s₁ commands
  · intro a hleads hshut
    have hobeys : a.session.keepAlive.Obeys a.session.now :=
      hleads.keeps (fun _ _ hmove => hmove.obeys) (hserved₀ s.now).serves.toObeys
    refine ⟨wait_traffic_of_isShutDown hobeys hshut, ?_, ?_⟩
    · intro interval chore
      rw [KeepAlive.schedule_of_isClosed (.inl hshut)]
    · exact fun b hlater => hlater.keeps (fun _ _ hmove => hmove.isShutDown) hshut

/-- A transaction is opened, then another one while a probe is scheduled; the tracker is given up, and
the first transaction is closed. Two jobs are left. -/
theorem jobs_left_after_two_openings : ∃ (script : Script) (saved : Option PeerStatus)
    (s₀ : Session Script) (steps : List Step),
    (start 0 script saved).connect Script.responder ["http://[::1]:80"] (.ofSeconds 1800)
      (.start none none) = (s₀, .ok ()) ∧
    (∀ outcome ∈ (s₀.follow Script.responder steps).2,
      outcome.Fits (s₀.follow Script.responder steps).1.now) ∧
    (s₀.follow Script.responder steps).1.IsOrderly ∧
    (s₀.follow Script.responder steps).1.keepAlive.entries.map (·.1) = [1, 2] := by
  let script : Script := [{
    method := some "POST"
    replies := [(0, .ofExcept (Transaction.created "http://[::1]/tx/1" 30))] }]
  let steps : List Step := [.one (.operate (.openTransaction "in")),
    .several [.operate (.openTransaction "in"), .probe], .one (.sleep 40000), .one .dropTracker,
    .one (.close 0)]
  obtain ⟨saved, hconnect⟩ := exists_connect_eq_connected script
  have hfits : ∀ outcome ∈ ((connected script).follow Script.responder steps).2,
      outcome.Fits ((connected script).follow Script.responder steps).1.now := by
    decide +kernel
  have horderly := (open_handles_have_their_jobs hconnect hfits).1
  exact ⟨script, saved, connected script, steps, hconnect, hfits, horderly, by decide +kernel⟩

end Session

end FlowPeers
