import FlowPeers.Proofs.Cues
import FlowPeers.Proofs.Handles

/-!
# Extensions leave no trace

What comes of extensions is of no consequence for anything else. Two networks may be the same but for
replies to extensions (`Responder.SameButForExtensions`); then two runs on them are the same but for
what extensions by hand have given, background extensions and their times included.

**`Session.extensions_leave_no_trace`** says so for a tracker that is connected on each of the
networks and for whatever is done with it. It also says of every session by itself that an extension,
however it ends, marks no peer and ends no job (`Session.IsSparedIn`).
-/

namespace FlowPeers

variable {σ σ' τ : Type} {R : σ → σ' → Prop} {net : Responder σ} {net' : Responder σ'}

/-! ## Networks that differ in replies to extensions -/

/-- Whether networks, whose states are related, answer all requests in the same way, except that what
they reply to extensions may differ; even these replies take equally long. -/
structure Responder.SameButForExtensions (R : σ → σ' → Prop) (net : Responder σ)
    (net' : Responder σ') : Prop where
  network : ∀ now request n n', R n n' → R (net now request n).1 (net' now request n').1
  delay : ∀ now request n n', R n n' →
    (net' now request n').2.delay = (net now request n).2.delay
  reply : ∀ now request n n', R n n' → request.method ≠ "PUT" →
    (net' now request n').2.reply = (net now request n).2.reply

/-- Two runs with the same credentials may differ in the replies to extensions. -/
def Discrepancy.inExtensions : Discrepancy where
  credentials := Eq
  requests := Eq
  replies := fun request reply reply' => request.method ≠ "PUT" → reply = reply'
  requests_refl := fun _ => rfl
  requests_login := by
    rintro c _ rfl url request request' hrequest hrequest'
    exact Except.ok.inj (hrequest.symm.trans hrequest')
  eq_of_replies := fun h hmethod => h hmethod

theorem Responder.SameButForExtensions.corresponds (h : net.SameButForExtensions R net') :
    net.Corresponds .inExtensions R net' where
  network := by
    rintro now request _ n n' rfl hn
    exact h.network now request n n' hn
  delay := by
    rintro now request _ n n' rfl hn
    exact h.delay now request n n' hn
  reply := by
    rintro now request _ n n' rfl hn hmethod
    exact (h.reply now request n n' hn hmethod).symm

/-- Whether sessions are the same but for the states of their networks, which are related. -/
structure Session.SameButForNetwork (R : σ → σ' → Prop) (s : Session σ) (s' : Session σ') :
    Prop where
  now : s'.now = s.now
  epoch : s'.epoch = s.epoch
  network : R s.traffic.network s'.traffic.network
  /-- The same requests were sent at the same times, extensions included. -/
  log : s'.traffic.log = s.traffic.log
  savedBefore : s'.savedBefore = s.savedBefore
  /-- The status, what is saved and the tokens are the same. -/
  tracker : s'.tracker = s.tracker
  isReleased : s'.isReleased = s.isReleased
  /-- The jobs are the same, with their next ticks. -/
  keepAlive : s'.keepAlive = s.keepAlive
  transactions : s'.transactions = s.transactions
  probes : s'.probes = s.probes

theorem Tracker.Corresponds.eq_of_inExtensions {t t' : Tracker}
    (h : t.Corresponds .inExtensions t') : t' = t := by
  rcases t with ⟨seeds, interval, ⟨credentials, tokens⟩, status, saved⟩
  rcases t' with ⟨seeds', interval', ⟨credentials', tokens'⟩, status', saved'⟩
  obtain ⟨rfl, rfl, ⟨hcredentials, rfl⟩, rfl, rfl⟩ := h
  cases hcredentials with
  | none => rfl
  | some hc =>
    obtain rfl := hc
    rfl

theorem Session.Corresponds.sameButForNetwork {s : Session σ} {s' : Session σ'}
    (h : s.Corresponds .inExtensions R s') : s.SameButForNetwork R s' where
  now := h.now
  epoch := h.epoch
  network := h.traffic.network
  log := by
    have hlog : List.Forall₂ Eq s.traffic.log s'.traffic.log := by
      refine h.traffic.log.imp ?_
      rintro ⟨time, request⟩ ⟨time', request'⟩ h
      obtain rfl : time' = time := h.time
      obtain rfl : request = request' := h.request
      rfl
    rw [List.forall₂_eq_eq_eq] at hlog
    exact hlog.symm
  savedBefore := h.savedBefore
  tracker := by
    rcases cases_of_rel h.tracker with ⟨hs, hs'⟩ | ⟨t, t', hs, hs', ht⟩
    · rw [hs, hs']
    · rw [hs, hs', ht.eq_of_inExtensions]
  isReleased := h.isReleased
  keepAlive := h.keepAlive
  transactions := h.transactions
  probes := h.probes

/-! ## Jobs while time passes -/

/-- What no instant changes of a job is unchanged in all jobs while time passes. -/
theorem Job.map_advanceBy {β : Type} {f : Job τ → β} {launch : Launch σ τ}
    (hf : ∀ now job s, f (fire launch now job s).1 = f job) {limit ticks : Nat}
    {jobs jobs' : List (Job τ)} {s : σ} (h : (advanceBy launch limit ticks jobs s).1 = some jobs') :
    jobs'.map f = jobs.map f := by
  induction ticks generalizing jobs s with
  | zero =>
    cases h
    rfl
  | succ ticks ih =>
    rw [advanceBy] at h
    split at h
    · cases h
      rfl
    · next t _ =>
      split at h
      · split at h
        · contradiction
        · rw [ih h, map_fireAll (hf t)]
      · cases h
        rfl

/-- Nor is it changed in the jobs that a scheduler has later, unless it has stopped by then. -/
theorem KeepAlive.map_jobs_advance {β : Type} {f : Job τ → β} {launch : Launch σ τ}
    (hf : ∀ now job s, f (Job.fire launch now job s).1 = f job) (limit now later : Nat)
    (k : KeepAlive τ) (s : σ)
    (hrunning : ((k.advance launch limit now s).1.settle later).isStopped = false) :
    ((k.advance launch limit now s).1.settle later).jobs.map f = (k.settle now).jobs.map f := by
  rw [advance, Job.advance] at hrunning ⊢
  rcases hadvance : Job.advanceBy launch limit (limit - now) (k.settle now).jobs s with
    ⟨_ | jobs, s'⟩
  · rw [hadvance] at hrunning
    have hstopped : ((k.settle now).stop.settle later).isStopped = true := by
      rw [settle_of_isStopped rfl]
      rfl
    rw [hstopped] at hrunning
    contradiction
  · have hsettled : settle later { k.settle now with jobs := jobs } =
        { k.settle now with jobs := jobs } :=
      settle_of_inbox_eq_nil (settle_inbox now k)
    simp only [hsettled]
    exact Job.map_advanceBy hf (congrArg Prod.fst hadvance)

namespace Session

/-- The numbers, intervals and tasks of the jobs of a scheduler that has received what it was told. -/
def work (s : Session σ) : List (Nat × Nat × Chore) :=
  (s.keepAlive.settle s.now).jobs.map fun job => (job.id, job.interval, job.task)

/-- Whether no peer is marked later, and no job has ended unless the scheduler has stopped. -/
structure IsSparedIn (s after : Session σ) : Prop where
  tracker : after.tracker = s.tracker
  work : (after.keepAlive.settle after.now).isStopped = false → after.work = s.work

theorem isSparedIn_wait (net : Responder σ) (s : Session σ) (limit : Nat) :
    s.IsSparedIn (s.wait net limit) where
  tracker := wait_tracker net limit s
  work := by
    rw [wait]
    split
    · exact fun _ => rfl
    · refine KeepAlive.map_jobs_advance (fun now job s => ?_) limit s.now limit s.keepAlive s.traffic
      rw [Job.fire_id, Job.fire_interval, Job.fire_task]

theorem isSparedIn_extend (net : Responder σ) (s : Session σ) (n : Nat) :
    s.IsSparedIn (s.run net (.extend n)).1 := by
  rw [run]
  split
  · exact ⟨rfl, fun _ => rfl⟩
  · next tx _ _ =>
    rcases extend_eq_done_or_send tx with ⟨result, h⟩ | ⟨request, next, h, hnext⟩
    · rw [h]
      exact ⟨rfl, fun _ => rfl⟩
    · obtain ⟨result, hresult⟩ := hnext (s.send net request).2.reply
      rw [h, converse]
      simp only [hresult, converse]
      -- sending the request changes neither the tracker nor the scheduler
      have hsent := isSparedIn_wait net (s.send net request).1
        (s.now + (s.send net request).2.delay)
      exact ⟨hsent.tracker, hsent.work⟩

/-! ## The main result -/

/-- **Extensions leave no trace.** Let a tracker be connected on two networks that are the same but for
replies to extensions, and let the same be done with it on both. Then

* connecting ends in the same way, and all commands give the same but for extensions by hand;
* after that the sessions are the same but for the states of the networks: the status of the peers,
  what is saved, the tokens, the jobs, the transactions, and all that was sent with its times, which
  includes background extensions;
* this holds for whatever the user of the session does, and for moves in any order;
* an extension by hand, and a time that passes, marks no peer and ends no job, whatever is replied. -/
theorem extensions_leave_no_trace (hnet : net.SameButForExtensions R net') {n : σ} {n' : σ'}
    (hn : R n n') (epoch : Int) (saved : Option PeerStatus) (raw : List String)
    (interval : Duration) (logins : Logins) :
    let first := (start epoch n saved).connect net raw interval logins
    let second := (start epoch n' saved).connect net' raw interval logins
    (second.2 = first.2 ∧ first.1.SameButForNetwork R second.1) ∧
    (∀ steps : List Step,
      (first.1.follow net steps).1.SameButForNetwork R (second.1.follow net' steps).1 ∧
      AllThree (fun command outcome outcome' => (∀ n, command ≠ .extend n) → outcome' = outcome)
        (steps.flatMap Step.commands) (first.1.follow net steps).2
        (second.1.follow net' steps).2) ∧
    (∀ cues : List Scene.Cue,
      let played := Scene.play net ⟨first.1, none⟩ cues
      let played' := Scene.play net' ⟨second.1, none⟩ cues
      played.1.session.SameButForNetwork R played'.1.session ∧
      AllThree (fun cue outcome outcome' => (∀ n, cue ≠ .extend n) → outcome' = outcome)
        cues played.2 played'.2) ∧
    ∀ s : Session σ, (∀ n, s.IsSparedIn (s.run net (.extend n)).1) ∧
      ∀ limit, s.IsSparedIn (s.wait net limit) := by
  have hstart : (start epoch n saved).Corresponds .inExtensions R (start epoch n' saved) :=
    ⟨rfl, rfl, ⟨hn, .nil⟩, rfl, .none, rfl, rfl, rfl, rfl⟩
  have hlogins : logins.Corresponds .inExtensions logins := by
    refine ⟨?_, rfl⟩
    cases logins.credentials with
    | none => exact .none
    | some credentials => exact .some rfl
  obtain ⟨hconnected, hresult⟩ := hstart.connect hnet.corresponds hlogins raw interval
  refine ⟨⟨hresult, hconnected.sameButForNetwork⟩, fun steps => ?_, fun cues => ?_,
    fun s => ⟨isSparedIn_extend net s, isSparedIn_wait net s⟩⟩
  · obtain ⟨hafter, houtcomes⟩ := hconnected.follow hnet.corresponds steps
    refine ⟨hafter.sameButForNetwork, houtcomes.imp ?_⟩
    rintro command outcome outcome' hgives hcommand
    exact hgives fun ⟨n, hextend⟩ => absurd hextend (hcommand n)
  · have hscene : Scene.Corresponds .inExtensions R
        ⟨((start epoch n saved).connect net raw interval logins).1, none⟩
        ⟨((start epoch n' saved).connect net' raw interval logins).1, none⟩ :=
      ⟨hconnected, .none⟩
    obtain ⟨hafter, houtcomes⟩ := hscene.play hnet.corresponds cues
    refine ⟨hafter.session.sameButForNetwork, houtcomes.imp ?_⟩
    rintro cue outcome outcome' hgives hcue
    exact hgives fun ⟨n, hextend⟩ => absurd hextend (hcue n)

/-- A peer that opens transactions, each of which it keeps for two seconds, and replies to extensions
in a given way. Every reply takes ten milliseconds. -/
def opener (extended : Reply) : Responder Unit := fun _ request _ =>
  let opened : Reply :=
    match Transaction.created "http://[::1]/tx/1" 2 with
    | .ok response => .ok response
    | .error cause => .error (.request cause)
  ((), ⟨10, if request.method = "PUT" then extended else opened⟩)

/-- A transaction that is opened, extended by hand, and kept for another 2500 milliseconds. -/
def openedAndExtended : List Step :=
  [.one (.operate (.openTransaction "in")), .one (.extend 0), .one (.sleep 2500)]

/-- Extensions that succeed and extensions that take too long leave no trace, by hand and in the
background. -/
theorem late_extensions_leave_no_trace :
    let net := opener (.ok { status := .ok, headers := [], body := .empty })
    let net' := opener (.error (.timeout "http://[::1]/tx/1"))
    let connected (net : Responder Unit) :=
      ((start 0 () (some ⟨[⟨"http://[::1]:80/nifi-api", 0, false⟩], 0⟩)).connect net
        ["http://[::1]:80"] (.ofSeconds 1800) (.start none none)).1
    let first := (connected net).follow net openedAndExtended
    let second := (connected net').follow net' openedAndExtended
    net.SameButForExtensions (fun _ _ => True) net' ∧
    first.2[1]? = some .done ∧
    second.2[1]? = some (.failed (.timeout "http://[::1]/tx/1")) ∧
    (Sent.extensions second.1.traffic.log).map (·.time) = [10, 1010, 2010] ∧
    first.1.SameButForNetwork (fun _ _ => True) second.1 := by
  intro net net' connected first second
  have hnet : net.SameButForExtensions (fun _ _ => True) net' := by
    refine ⟨fun _ _ _ _ _ => trivial, fun _ _ _ _ _ => rfl, ?_⟩
    intro now request _ _ _ hmethod
    simp only [net, net', opener, if_neg hmethod]
  refine ⟨hnet, by decide +kernel, by decide +kernel, by decide +kernel, ?_⟩
  obtain ⟨-, hsteps, -⟩ := @extensions_leave_no_trace Unit Unit (fun _ _ => True) net net' hnet () ()
    trivial 0 (some ⟨[⟨"http://[::1]:80/nifi-api", 0, false⟩], 0⟩) ["http://[::1]:80"]
    (.ofSeconds 1800) (.start none none)
  exact (hsteps openedAndExtended).1

end Session

end FlowPeers
