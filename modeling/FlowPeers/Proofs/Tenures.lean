import FlowPeers.Proofs.Course
import FlowPeers.Proofs.Moves
import FlowPeers.Proofs.Tasks

/-!
# Sessions told as courses

What a dialogue does in a session is one of its runs, and its requests are among those that are sent
in the meantime (`Session.exists_runs_converse`). Whatever is done in a session, what becomes of its
tracker is a course: the operations take the lock one after the other, each begins with the tracker
that the one before has left, and it begins at the time that the wall clock shows when the lock is
taken (`Session.exists_tenures_of_leads`). A `Tenure` is the session in which an operation takes the
lock together with what the operation then does.
-/

namespace FlowPeers

open Dialogue

variable {σ : Type}

namespace Session

/-! ## Dialogues in a session -/

/-- What is done on a network only adds to what was sent. -/
theorem log_perform {α : Type} (net : Responder σ) (now : Nat) (traffic : Traffic σ)
    (d : Dialogue α) : traffic.log <+: (d.perform net now traffic).1.log := by
  induction d generalizing now traffic with
  | done result => exact List.prefix_refl _
  | send request next ih =>
    rw [Dialogue.perform]
    exact (List.prefix_append traffic.log [⟨now, request⟩]).trans
      (ih _ _ (traffic.send net now request).1)

/-- While time passes the scheduler only adds to what was sent. -/
theorem log_wait (net : Responder σ) (limit : Nat) (s : Session σ) :
    s.traffic.log <+: (s.wait net limit).traffic.log := by
  have hlaunch : ∀ now chore (traffic : Traffic σ), True → s.traffic.log <+: traffic.log →
      s.traffic.log <+: (Session.launch net now chore traffic).1.log := by
    intro now chore traffic _ hprefix
    cases chore with
    | probe => exact hprefix
    | extend tx => exact hprefix.trans (log_perform net now traffic tx.extend)
  have hall : s.keepAlive.DoesOnly fun _ => True := ⟨fun _ _ => trivial, fun _ _ _ _ => trivial⟩
  rw [Session.wait]
  split
  · exact List.prefix_refl _
  · exact (KeepAlive.advance_keeps hlaunch hall limit s.now (List.prefix_refl _)).2

/-- What a dialogue gives in a session is the result of one of its runs. What is sent until then are
the requests of this run in their order, and others in between. -/
theorem exists_runs_converse {α : Type} (net : Responder σ) (s : Session σ) (d : Dialogue α) :
    ∃ log sent, d.Runs log (s.converse net d).2 ∧
      (s.converse net d).1.traffic.log = s.traffic.log ++ sent ∧
      (log.map (·.request)).Sublist (sent.map (·.request)) := by
  induction d generalizing s with
  | done result => exact ⟨[], [], .done result, (List.append_nil _).symm, .refl _⟩
  | send request next ih =>
    let delivery := (s.send net request).2
    obtain ⟨log, sent, hrun, hsent, hsub⟩ :=
      ih delivery.reply ((s.send net request).1.wait net ((s.send net request).1.now + delivery.delay))
    obtain ⟨meanwhile, hmeanwhile⟩ :=
      log_wait net ((s.send net request).1.now + delivery.delay) (s.send net request).1
    refine ⟨⟨request, delivery.reply⟩ :: log, ⟨s.now, request⟩ :: (meanwhile ++ sent),
      .send hrun, ?_, ?_⟩
    · rw [converse, hsent, ← hmeanwhile]
      simp [Session.send, Traffic.send]
    · rw [List.map_cons, List.map_cons, List.map_append]
      exact (hsub.trans (List.sublist_append_right _ _)).cons_cons request

/-- A dialogue in which nothing is exchanged leaves a session as it is. -/
theorem converse_of_runs_nil {α : Type} {d : Dialogue α} {result : α} (h : d.Runs [] result)
    (net : Responder σ) (s : Session σ) : s.converse net d = (s, result) := by
  cases h
  rfl

theorem converse_tracker {α : Type} (net : Responder σ) (s : Session σ) (d : Dialogue α) :
    (s.converse net d).1.tracker = s.tracker := by
  induction d generalizing s with
  | done result => rfl
  | send request next ih => exact (ih _ _).trans (wait_tracker net _ _)

theorem saved_converse {α : Type} (net : Responder σ) (s : Session σ) (d : Dialogue α) :
    (s.converse net d).1.saved = s.saved := by
  induction d generalizing s with
  | done result => rfl
  | send request next ih => exact (ih _ _).trans (saved_wait net _ _)

end Session

/-! ## Tenures of the lock -/

/-- The time for which an operation holds the lock. -/
structure Tenure (σ : Type) where
  /-- The session in which the lock is taken. -/
  session : Session σ
  act : Act

namespace Session

variable {net : Responder σ} {allowed : Outcome → Prop} {s s' : Session σ} {t₀ t : Tracker}
  {tenures : List (Tenure σ)} {a b : Scene σ}

/-- Whether some tenures are those on a way from a session with a tracker to a scene, the tracker
being another one after them. -/
structure Tells (net : Responder σ) (allowed : Outcome → Prop) (s : Session σ) (t₀ : Tracker)
    (tenures : List (Tenure σ)) (t : Tracker) (a : Scene σ) : Prop where
  /-- What the operations do is a course of the tracker. -/
  course : t₀.Course (tenures.map (·.act)) t
  /-- Each begins at the time that the wall clock shows when it takes the lock. -/
  clocks : ∀ tenure ∈ tenures, tenure.act.now = tenure.session.clock
  /-- They take the lock one after the other, on the way from the session to the scene. -/
  ordered : tenures.Pairwise fun x y => Leads net allowed ⟨x.session, none⟩ ⟨y.session, none⟩
  begun : ∀ tenure ∈ tenures, Leads net allowed ⟨s, none⟩ ⟨tenure.session, none⟩
  ended : ∀ tenure ∈ tenures, Leads net allowed ⟨tenure.session, none⟩ a
  leads : Leads net allowed ⟨s, none⟩ a

theorem tells_start (net : Responder σ) (allowed : Outcome → Prop) (s : Session σ) (t₀ : Tracker) :
    Tells net allowed s t₀ [] t₀ ⟨s, none⟩ where
  course := .rest
  clocks := by simp
  ordered := .nil
  begun := by simp
  ended := by simp
  leads := .refl

theorem Tells.move (h : Tells net allowed s t₀ tenures t a) (hmove : Move net allowed a b) :
    Tells net allowed s t₀ tenures t b where
  course := h.course
  clocks := h.clocks
  ordered := h.ordered
  begun := h.begun
  ended := fun tenure htenure => (h.ended tenure htenure).tail hmove
  leads := h.leads.tail hmove

/-- An operation that comes to its end is one more tenure. -/
theorem Tells.conclude {x : Session σ} {operation : Operation} {log : List Exchanged}
    {result : Except Failure Answer} {t' : Tracker}
    (h : Tells net allowed s t₀ tenures t ⟨x, none⟩)
    (hrun : (t.operate operation x.clock).Runs log (t', result))
    (hleads : Leads net allowed ⟨x, none⟩ a) :
    Tells net allowed s t₀ (tenures ++ [⟨x, ⟨operation, x.clock, log, result⟩⟩]) t' a where
  course := by
    rw [List.map_append]
    exact .step h.course hrun
  clocks := by
    rw [List.forall_mem_append]
    exact ⟨h.clocks, by simp⟩
  ordered := by
    rw [List.pairwise_append]
    refine ⟨h.ordered, List.pairwise_singleton _ _, fun tenure htenure last hlast => ?_⟩
    rw [List.mem_singleton.1 hlast]
    exact h.ended tenure htenure
  begun := by
    rw [List.forall_mem_append]
    exact ⟨h.begun, by simpa using h.leads⟩
  ended := by
    rw [List.forall_mem_append]
    exact ⟨fun tenure htenure => (h.ended tenure htenure).trans hleads, by simpa using hleads⟩
  leads := h.leads.trans hleads

/-- What is known of a scene on the way from a session with a tracker: with the lock free, which
tracker there is, if it was not given up, and that what it has saved is saved; with the lock held,
that what is still to come completes a run of the operation that has taken it. -/
inductive IsTold (net : Responder σ) (allowed : Outcome → Prop) (s : Session σ) (t₀ : Tracker) :
    Scene σ → Prop
  | free {tenures : List (Tenure σ)} {t : Tracker} {s' : Session σ}
      (tells : Tells net allowed s t₀ tenures t ⟨s', none⟩)
      (htracker : s'.tracker = none ∨ s'.tracker = some t) (hsaved : s'.saved = t.saved) :
      IsTold net allowed s t₀ ⟨s', none⟩
  | held {tenures : List (Tenure σ)} {t : Tracker} {x s' : Session σ}
      {d : Dialogue (Tracker × Except Failure Answer)} (operation : Operation) (log : List Exchanged)
      (tells : Tells net allowed s t₀ tenures t ⟨x, none⟩)
      (leads : Leads net allowed ⟨x, none⟩ ⟨s', some d⟩)
      (hrun : ∀ later outcome, d.Runs later outcome →
        (t.operate operation x.clock).Runs (log ++ later) outcome) :
      IsTold net allowed s t₀ ⟨s', some d⟩

/-- A move that leaves the lock and the tracker alone changes nothing of what is known. -/
theorem IsTold.of_tracker_eq {held : Option (Dialogue (Tracker × Except Failure Answer))}
    {x y : Session σ} (h : IsTold net allowed s t₀ ⟨x, held⟩)
    (hmove : Move net allowed ⟨x, held⟩ ⟨y, held⟩)
    (htracker : y.tracker = none ∨ y.tracker = x.tracker) (hsaved : y.saved = x.saved) :
    IsTold net allowed s t₀ ⟨y, held⟩ := by
  cases h with
  | free tells hknown hkept =>
    refine .free (tells.move hmove) ?_ (hsaved.trans hkept)
    rcases htracker with hnone | heq
    · exact .inl hnone
    · rwa [heq]
  | held operation log tells leads hrun =>
    exact .held operation log tells (leads.tail hmove) hrun

/-- Every move keeps what is known. -/
theorem Move.isTold (h : Move net allowed a b) (ha : IsTold net allowed s t₀ a) :
    IsTold net allowed s t₀ b := by
  cases h with
  | @begin x t ht operation =>
    cases ha with
    | @free tenures t' _ tells hknown hkept =>
      have heq : t = t' := by simpa [ht] using hknown
      subst heq
      exact .held operation [] tells (.single (.begin ht operation)) fun later outcome hrun => hrun
  | send x request next =>
    cases ha with
    | held operation log tells leads hrun =>
      refine .held operation (log ++ [⟨request, (x.send net request).2.reply⟩]) tells
        (leads.tail (.send x request next)) fun later outcome hlater => ?_
      rw [List.append_assoc]
      exact hrun _ outcome (.send hlater)
  | @conclude x t result h =>
    cases ha with
    | held operation log tells leads hrun =>
      have htracker := conclude_tracker x t result
      refine .free (tells.conclude (hrun [] (t, result) (.done _)) (leads.tail (.conclude h)))
        (.inr htracker) ?_
      rw [saved, htracker]
  | extend hopen h held => exact ha.of_tracker_eq (.extend hopen h held) (.inr rfl) rfl
  | wait x limit held =>
    exact ha.of_tracker_eq (.wait x limit held) (.inr (wait_tracker net limit x))
      (saved_wait net limit x)
  | @executeNow x command h held =>
    have hnow := atOnce_executeNow x command
    exact ha.of_tracker_eq (.executeNow h held) (.inr hnow.tracker_eq) hnow.saved_eq
  | settle x =>
    refine ha.of_tracker_eq (.settle x) ?_ (saved_settle x)
    rw [Session.settle, tracker?]
    split
    · exact .inl rfl
    · exact .inr rfl

/-- What is done in a session is a course of its tracker, and what the tracker has saved at the end of
it is saved in the session, even if the tracker was given up. -/
theorem exists_tenures_of_leads_saved (ht : s.tracker = some t₀)
    (h : Leads net allowed ⟨s, none⟩ ⟨s', none⟩) :
    ∃ tenures t, Tells net allowed s t₀ tenures t ⟨s', none⟩ ∧
      (s'.tracker = none ∨ s'.tracker = some t) ∧ s'.saved = t.saved := by
  have hsaved : s.saved = t₀.saved := by rw [saved, ht]
  have htold : IsTold net allowed s t₀ ⟨s', none⟩ :=
    h.keeps (fun _ _ hmove => hmove.isTold) (.free (tells_start net allowed s t₀) (.inr ht) hsaved)
  cases htold with
  | free tells htracker hkept => exact ⟨_, _, tells, htracker, hkept⟩

/-- **What is done in a session is a course of its tracker.** -/
theorem exists_tenures_of_leads (ht : s.tracker = some t₀)
    (h : Leads net allowed ⟨s, none⟩ ⟨s', none⟩) :
    ∃ tenures t, Tells net allowed s t₀ tenures t ⟨s', none⟩ ∧
      (s'.tracker = none ∨ s'.tracker = some t) := by
  obtain ⟨tenures, t, htells, htracker, -⟩ := exists_tenures_of_leads_saved ht h
  exact ⟨tenures, t, htells, htracker⟩

end Session

end FlowPeers
