import FlowPeers.Proofs.Correspondence
import FlowPeers.Proofs.Timetable
import Mathlib.Data.List.Forall2

/-!
# Sessions side by side

Sessions correspond if their clocks, schedulers, transactions and probes are the same, and their
networks, their logs and their trackers correspond (`Session.Corresponds`). Networks correspond if
they answer requests that do with replies that do, and take as long for them
(`Responder.Corresponds`).

Then everything that is done with sessions that correspond leaves sessions that correspond
(`Session.Corresponds.connect`, `Session.Corresponds.follow`). It gives the same, except for
extensions whose replies may differ (`Discrepancy.Gives`).
-/

namespace FlowPeers

variable {σ σ' τ : Type} {d : Discrepancy} {R : σ → σ' → Prop}

/-! ## Schedulers -/

/-- Whether tasks that are started in surroundings that are related take equally long and leave
surroundings that are related. -/
def Launch.Corresponds (T : σ → σ' → Prop) (launch : Launch σ τ) (launch' : Launch σ' τ) : Prop :=
  ∀ now task s s', T s s' →
    (launch' now task s').2 = (launch now task s).2 ∧
      T (launch now task s).1 (launch' now task s').1

namespace Launch.Corresponds

variable {T : σ → σ' → Prop} {launch : Launch σ τ} {launch' : Launch σ' τ} {s : σ} {s' : σ'}

theorem fire (h : Launch.Corresponds T launch launch') (now : Nat) (job : Job τ) (hs : T s s') :
    (job.fire launch' now s').1 = (job.fire launch now s).1 ∧
      T (job.fire launch now s).2 (job.fire launch' now s').2 := by
  obtain ⟨hlength, hafter⟩ := h now job.task s s' hs
  rw [Job.fire, Job.fire]
  split
  · split
    · exact ⟨rfl, hs⟩
    · simp only [hlength]
      exact ⟨trivial, hafter⟩
  · exact ⟨rfl, hs⟩

theorem fireAll (h : Launch.Corresponds T launch launch') (now : Nat) (jobs : List (Job τ))
    (hs : T s s') : (Job.fireAll launch' now jobs s').1 = (Job.fireAll launch now jobs s).1 ∧
      T (Job.fireAll launch now jobs s).2 (Job.fireAll launch' now jobs s').2 := by
  induction jobs generalizing s s' with
  | nil => exact ⟨rfl, hs⟩
  | cons job rest ih =>
    obtain ⟨hjob, hfired⟩ := h.fire now job hs
    obtain ⟨hrest, hafter⟩ := ih hfired
    rw [Job.fireAll_cons, Job.fireAll_cons, hjob, hrest]
    exact ⟨rfl, hafter⟩

theorem advanceBy (h : Launch.Corresponds T launch launch') (limit ticks : Nat)
    (jobs : List (Job τ)) (hs : T s s') :
    (Job.advanceBy launch' limit ticks jobs s').1 = (Job.advanceBy launch limit ticks jobs s).1 ∧
      T (Job.advanceBy launch limit ticks jobs s).2
        (Job.advanceBy launch' limit ticks jobs s').2 := by
  induction ticks generalizing jobs s s' with
  | zero => exact ⟨rfl, hs⟩
  | succ ticks ih =>
    rw [Job.advanceBy, Job.advanceBy]
    cases Job.earliest? jobs with
    | none => exact ⟨rfl, hs⟩
    | some t =>
      simp only
      split
      · split
        · exact ⟨rfl, hs⟩
        · obtain ⟨hjobs, hfired⟩ := h.fireAll t jobs hs
          rw [hjobs]
          exact ih _ hfired
      · exact ⟨rfl, hs⟩

/-- The jobs of a scheduler and their next ticks are the same after a time that passes. -/
theorem advance (h : Launch.Corresponds T launch launch') (limit now : Nat) (k : KeepAlive τ)
    (hs : T s s') : (k.advance launch' limit now s').1 = (k.advance launch limit now s).1 ∧
      T (k.advance launch limit now s).2 (k.advance launch' limit now s').2 := by
  obtain ⟨hjobs, hafter⟩ := h.advanceBy limit (limit - now) (k.settle now).jobs hs
  rw [KeepAlive.advance, KeepAlive.advance, Job.advance, Job.advance]
  rcases hadvance : Job.advanceBy launch limit (limit - now) (k.settle now).jobs s with ⟨jobs?, s₁⟩
  rcases hadvance' : Job.advanceBy launch' limit (limit - now) (k.settle now).jobs s' with
    ⟨jobs?', s₁'⟩
  rw [hadvance, hadvance'] at hjobs hafter
  obtain rfl : jobs?' = jobs? := hjobs
  cases jobs?' with
  | none => exact ⟨rfl, hafter⟩
  | some jobs => exact ⟨rfl, hafter⟩

end Launch.Corresponds

/-! ## Networks -/

/-- Whether requests that correspond are sent at the same time. -/
structure Sent.Corresponds (d : Discrepancy) (x x' : Sent) : Prop where
  time : x'.time = x.time
  request : d.requests x.request x'.request

/-- Whether networks, whose states are related, answer requests that correspond with replies that
correspond, and as fast. -/
structure Responder.Corresponds (d : Discrepancy) (R : σ → σ' → Prop) (net : Responder σ)
    (net' : Responder σ') : Prop where
  network : ∀ now request request' n n', d.requests request request' → R n n' →
    R (net now request n).1 (net' now request' n').1
  delay : ∀ now request request' n n', d.requests request request' → R n n' →
    (net' now request' n').2.delay = (net now request n).2.delay
  reply : ∀ now request request' n n', d.requests request request' → R n n' →
    d.replies request (net now request n).2.reply (net' now request' n').2.reply

/-- Whether networks in use correspond, and what was sent over them. -/
structure Traffic.Corresponds (d : Discrepancy) (R : σ → σ' → Prop) (traffic : Traffic σ)
    (traffic' : Traffic σ') : Prop where
  network : R traffic.network traffic'.network
  log : List.Forall₂ (Sent.Corresponds d) traffic.log traffic'.log

variable {net : Responder σ} {net' : Responder σ'}

namespace Traffic.Corresponds

variable {traffic : Traffic σ} {traffic' : Traffic σ'}

theorem send (hnet : net.Corresponds d R net') (h : traffic.Corresponds d R traffic') (now : Nat)
    {request request' : Request} (hrequest : d.requests request request') :
    (traffic.send net now request).1.Corresponds d R (traffic'.send net' now request').1 ∧
      (traffic'.send net' now request').2.delay = (traffic.send net now request).2.delay ∧
      d.replies request (traffic.send net now request).2.reply
        (traffic'.send net' now request').2.reply := by
  refine ⟨⟨hnet.network now _ _ _ _ hrequest h.network, ?_⟩,
    hnet.delay now _ _ _ _ hrequest h.network, hnet.reply now _ _ _ _ hrequest h.network⟩
  exact List.rel_append h.log (.cons ⟨rfl, hrequest⟩ .nil)

/-- Dialogues that correspond end at the same time, with related results. -/
theorem perform {α β : Type} {results : α → β → Prop} (hnet : net.Corresponds d R net')
    (h : traffic.Corresponds d R traffic') (now : Nat) {x : Dialogue α} {y : Dialogue β}
    (hxy : x.Corresponds d results y) :
    (x.perform net now traffic).1.Corresponds d R (y.perform net' now traffic').1 ∧
      (y.perform net' now traffic').2.1 = (x.perform net now traffic).2.1 ∧
      results (x.perform net now traffic).2.2 (y.perform net' now traffic').2.2 := by
  induction hxy generalizing now traffic traffic' with
  | done hresult => exact ⟨h, rfl, hresult⟩
  | @send request request' next next' hrequest _ ih =>
    obtain ⟨hsent, hdelay, hreply⟩ := h.send hnet now hrequest
    rw [Dialogue.perform, Dialogue.perform]
    simp only [hdelay]
    exact ih _ _ hreply hsent _

end Traffic.Corresponds

theorem Session.launch_corresponds (hnet : net.Corresponds d R net') :
    Launch.Corresponds (Traffic.Corresponds d R) (launch net) (launch net') := by
  intro now chore traffic traffic' h
  cases chore with
  | probe => exact ⟨rfl, h⟩
  | extend tx =>
    obtain ⟨hafter, hfinish, -⟩ := h.perform hnet now tx.corresponds_extend
    simp only [launch, hfinish]
    exact ⟨trivial, hafter⟩

/-! ## Sessions -/

/-- Whether sessions are the same but for their networks, their logs and their trackers, which
correspond. -/
structure Session.Corresponds (d : Discrepancy) (R : σ → σ' → Prop) (s : Session σ)
    (s' : Session σ') : Prop where
  now : s'.now = s.now
  epoch : s'.epoch = s.epoch
  traffic : s.traffic.Corresponds d R s'.traffic
  savedBefore : s'.savedBefore = s.savedBefore
  tracker : Option.Rel (Tracker.Corresponds d) s.tracker s'.tracker
  isReleased : s'.isReleased = s.isReleased
  keepAlive : s'.keepAlive = s.keepAlive
  transactions : s'.transactions = s.transactions
  probes : s'.probes = s.probes

/-- Whether a command may give what it gives in two runs: the same, unless it extends something and
the reply may differ. -/
def Discrepancy.Gives (d : Discrepancy) (command : Command) (outcome outcome' : Outcome) : Prop :=
  ((∃ n, command = .extend n) → d.IsExact) → outcome' = outcome

theorem Discrepancy.gives_refl (d : Discrepancy) (command : Command) (outcome : Outcome) :
    d.Gives command outcome outcome :=
  fun _ => rfl

/-- Whether some property holds of the items of three lists, place by place. -/
inductive AllThree {α β γ : Type} (P : α → β → γ → Prop) : List α → List β → List γ → Prop
  | nil : AllThree P [] [] []
  | cons {a : α} {b : β} {c : γ} {as : List α} {bs : List β} {cs : List γ} (h : P a b c)
      (rest : AllThree P as bs cs) : AllThree P (a :: as) (b :: bs) (c :: cs)

theorem AllThree.append {α β γ : Type} {P : α → β → γ → Prop} {as as' : List α} {bs bs' : List β}
    {cs cs' : List γ} (h : AllThree P as bs cs) (h' : AllThree P as' bs' cs') :
    AllThree P (as ++ as') (bs ++ bs') (cs ++ cs') := by
  induction h with
  | nil => exact h'
  | cons hfirst _ ih => exact .cons hfirst ih

theorem AllThree.imp {α β γ : Type} {P Q : α → β → γ → Prop} {as : List α} {bs : List β}
    {cs : List γ} (h : AllThree P as bs cs) (hPQ : ∀ a b c, P a b c → Q a b c) :
    AllThree Q as bs cs := by
  induction h with
  | nil => exact .nil
  | cons hfirst _ ih => exact .cons (hPQ _ _ _ hfirst) ih

theorem AllThree.eq {α β : Type} {P : α → β → β → Prop} {as : List α} {bs cs : List β}
    (h : AllThree P as bs cs) (hP : ∀ a b c, P a b c → c = b) : cs = bs := by
  induction h with
  | nil => rfl
  | cons hfirst _ ih => rw [hP _ _ _ hfirst, ih]

/-- Whether commands have come equally far, and give what they may give in two runs. -/
inductive Stage.Corresponds (d : Discrepancy) (command : Command) : Stage → Stage → Prop
  | known {outcome outcome' : Outcome} (h : d.Gives command outcome outcome') :
      Corresponds d command (.known outcome) (.known outcome')
  | waiting (arrival : Nat) {rest rest' : Dialogue (Tracker × Except Failure Answer)}
      (h : rest.Corresponds d d.SameWith rest') :
      Corresponds d command (.waiting arrival rest) (.waiting arrival rest')
  | queued (operation : Operation) : Corresponds d command (.queued operation) (.queued operation)

theorem Stage.Corresponds.isLocking_eq {command : Command} {stage stage' : Stage}
    (h : stage.Corresponds d command stage') : stage'.isLocking = stage.isLocking := by
  cases h <;> rfl

namespace Session.Corresponds

variable {s : Session σ} {s' : Session σ'}

theorem clock (h : s.Corresponds d R s') : s'.clock = s.clock := by
  rw [Session.clock, Session.clock, h.now, h.epoch]

theorem saved (h : s.Corresponds d R s') : s'.saved = s.saved := by
  rw [Session.saved, Session.saved, h.savedBefore]
  rcases cases_of_rel h.tracker with ⟨hs, hs'⟩ | ⟨t, t', hs, hs', ht⟩
  · rw [hs, hs']
  · rw [hs, hs']
    exact ht.saved

theorem tracker? (h : s.Corresponds d R s') :
    Option.Rel (Tracker.Corresponds d) s.tracker? s'.tracker? := by
  rw [Session.tracker?, Session.tracker?, h.isReleased]
  split
  · exact .none
  · exact h.tracker

theorem transaction? (h : s.Corresponds d R s') (n : Nat) :
    s'.transaction? n = s.transaction? n := by
  rw [Session.transaction?, Session.transaction?, h.transactions]

theorem send (hnet : net.Corresponds d R net') (h : s.Corresponds d R s')
    {request request' : Request} (hrequest : d.requests request request') :
    (s.send net request).1.Corresponds d R (s'.send net' request').1 ∧
      (s'.send net' request').2.delay = (s.send net request).2.delay ∧
      d.replies request (s.send net request).2.reply (s'.send net' request').2.reply := by
  obtain ⟨htraffic, hdelay, hreply⟩ := h.traffic.send hnet s.now hrequest
  rw [Session.send, Session.send, h.now]
  exact ⟨{ h with traffic := htraffic, now := rfl }, hdelay, hreply⟩

theorem wait (hnet : net.Corresponds d R net') (h : s.Corresponds d R s') (limit : Nat) :
    (s.wait net limit).Corresponds d R (s'.wait net' limit) := by
  obtain ⟨hkeepAlive, htraffic⟩ :=
    (launch_corresponds hnet).advance limit s.now s.keepAlive h.traffic
  rw [Session.wait, Session.wait, h.now, h.keepAlive]
  split
  · exact h
  · exact { h with now := rfl, traffic := htraffic, keepAlive := hkeepAlive }

/-- Dialogues that correspond lead to sessions that correspond, and give results that are related. -/
theorem converse {α β : Type} {results : α → β → Prop} (hnet : net.Corresponds d R net')
    (h : s.Corresponds d R s') {x : Dialogue α} {y : Dialogue β} (hxy : x.Corresponds d results y) :
    (s.converse net x).1.Corresponds d R (s'.converse net' y).1 ∧
      results (s.converse net x).2 (s'.converse net' y).2 := by
  induction hxy generalizing s s' with
  | done hresult => exact ⟨h, hresult⟩
  | send hrequest _ ih =>
    obtain ⟨hsent, hdelay, hreply⟩ := h.send hnet hrequest
    rw [Session.converse, Session.converse]
    simp only [hdelay, hsent.now]
    exact ih _ _ hreply (hsent.wait hnet _)

theorem withTracker (h : s.Corresponds d R s') {t t' : Tracker} (ht : t.Corresponds d t') :
    Session.Corresponds d R { s with tracker := some t } { s' with tracker := some t' } :=
  { h with tracker := .some ht }

theorem keep (h : s.Corresponds d R s') (tx : Transaction) :
    (s.keep tx).Corresponds d R (s'.keep tx) := by
  rw [Session.keep, Session.keep, h.keepAlive, h.transactions]
  exact { h with keepAlive := rfl, transactions := rfl }

theorem conclude (h : s.Corresponds d R s') {t t' : Tracker} (ht : t.Corresponds d t')
    (result : Except Failure Answer) :
    (s.conclude t result).1.Corresponds d R (s'.conclude t' result).1 ∧
      (s'.conclude t' result).2 = (s.conclude t result).2 := by
  have hother := h.withTracker ht
  rcases result with failure | answer
  · exact ⟨hother, rfl⟩
  · cases answer with
    | done => exact ⟨hother, rfl⟩
    | identifier id => exact ⟨hother, rfl⟩
    | opened tx => exact ⟨hother.keep tx, rfl⟩

/-- An operation gives the same with trackers that correspond. -/
theorem operate (hnet : net.Corresponds d R net') (h : s.Corresponds d R s') {t t' : Tracker}
    (ht : t.Corresponds d t') (operation : Operation) :
    (s.operate net t operation).1.Corresponds d R (s'.operate net' t' operation).1 ∧
      (s'.operate net' t' operation).2 = (s.operate net t operation).2 := by
  obtain ⟨hafter, hresult⟩ := h.converse hnet (ht.operate operation s.clock)
  rw [Session.operate, Session.operate, h.clock]
  simp only [hresult.result]
  exact hafter.conclude hresult.tracker _

/-- Connecting ends in the same way with logins that correspond. -/
theorem connect (hnet : net.Corresponds d R net') (h : s.Corresponds d R s') {l l' : Logins}
    (hl : l.Corresponds d l') (raw : List String) (interval : Duration) :
    (s.connect net raw interval l).1.Corresponds d R (s'.connect net' raw interval l').1 ∧
      (s'.connect net' raw interval l').2 = (s.connect net raw interval l).2 := by
  obtain ⟨hafter, hresult⟩ := h.converse hnet
    (Tracker.corresponds_connect hl raw interval s.saved s.clock)
  rw [connect_eq, connect_eq, h.saved, h.clock]
  generalize s.converse net _ = first at hafter hresult ⊢
  generalize s'.converse net' _ = second at hafter hresult ⊢
  rcases first with ⟨s₁, result⟩
  rcases second with ⟨s₁', result'⟩
  cases hresult with
  | error failure => exact ⟨hafter, rfl⟩
  | ok ht =>
    exact ⟨{ hafter with tracker := .some ht, isReleased := rfl, keepAlive := rfl }, rfl⟩

/-- A command that is done at once gives the same. -/
theorem executeNow (h : s.Corresponds d R s') (command : Command) :
    (s.executeNow command).1.Corresponds d R (s'.executeNow command).1 ∧
      (s'.executeNow command).2 = (s.executeNow command).2 := by
  cases command with
  | «show» n =>
    rw [Session.executeNow, Session.executeNow, h.transaction?]
    split
    · exact ⟨h, rfl⟩
    · exact ⟨h, rfl⟩
  | close n =>
    rw [Session.executeNow, Session.executeNow, h.transaction?, h.keepAlive, h.transactions]
    split
    · exact ⟨h, rfl⟩
    · exact ⟨{ h with keepAlive := rfl, transactions := rfl }, rfl⟩
  | setClock ms =>
    rw [Session.executeNow, Session.executeNow, setClock, setClock, h.now]
    exact ⟨{ h with now := rfl, epoch := rfl }, rfl⟩
  | shutDown =>
    rw [Session.executeNow, Session.executeNow, h.keepAlive]
    rcases cases_of_rel h.tracker? with ⟨hs, hs'⟩ | ⟨t, t', hs, hs', -⟩
    · rw [hs, hs']
      exact ⟨h, rfl⟩
    · rw [hs, hs']
      exact ⟨{ h with keepAlive := rfl }, rfl⟩
  | probe =>
    rw [Session.executeNow, Session.executeNow, h.keepAlive, h.probes]
    rcases cases_of_rel h.tracker? with ⟨hs, hs'⟩ | ⟨t, t', hs, hs', -⟩
    · rw [hs, hs']
      exact ⟨h, rfl⟩
    · rw [hs, hs']
      exact ⟨{ h with keepAlive := rfl, probes := rfl }, rfl⟩
  | dropProbes =>
    rw [Session.executeNow, Session.executeNow, h.keepAlive, h.probes]
    exact ⟨{ h with keepAlive := rfl, probes := rfl }, rfl⟩
  | dropTracker =>
    rw [Session.executeNow, Session.executeNow]
    rcases cases_of_rel h.tracker? with ⟨hs, hs'⟩ | ⟨t, t', hs, hs', -⟩
    · rw [hs, hs']
      exact ⟨h, rfl⟩
    · rw [hs, hs']
      exact ⟨{ h with isReleased := rfl }, rfl⟩
  | operate _ | extend _ | sleep _ => exact ⟨h, rfl⟩

theorem settle (h : s.Corresponds d R s') : s.settle.Corresponds d R s'.settle := by
  have hused : s'.isInUse = s.isInUse := by
    rw [isInUse, isInUse, handles, handles, h.isReleased, h.transactions, h.probes]
  rw [Session.settle, Session.settle, h.now, h.keepAlive, hused]
  exact { h with now := rfl, savedBefore := h.saved, tracker := h.tracker?, keepAlive := rfl }

/-- A command gives the same, unless it is an extension whose reply may differ. -/
theorem run (hnet : net.Corresponds d R net') (h : s.Corresponds d R s') (command : Command) :
    (s.run net command).1.Corresponds d R (s'.run net' command).1 ∧
      d.Gives command (s.run net command).2 (s'.run net' command).2 := by
  have hnow := h.executeNow command
  cases command with
  | operate operation =>
    rw [Session.run, Session.run]
    rcases cases_of_rel h.tracker? with ⟨hs, hs'⟩ | ⟨t, t', hs, hs', ht⟩
    · rw [hs, hs']
      exact ⟨h, d.gives_refl _ _⟩
    · rw [hs, hs']
      obtain ⟨hafter, houtcome⟩ := h.operate hnet ht operation
      exact ⟨hafter, fun _ => houtcome⟩
  | extend n =>
    rw [Session.run, Session.run, h.transaction?]
    split
    · exact ⟨h, d.gives_refl _ _⟩
    · next tx _ _ =>
      obtain ⟨hafter, hresult⟩ := h.converse hnet tx.corresponds_extend
      refine ⟨hafter, fun hexact => ?_⟩
      simp only [hresult (hexact ⟨n, rfl⟩)]
  | sleep ms =>
    rw [Session.run, Session.run, h.now]
    exact ⟨h.wait hnet _, d.gives_refl _ _⟩
  | _ => exact ⟨hnow.1, fun _ => hnow.2⟩

theorem execute (hnet : net.Corresponds d R net') (h : s.Corresponds d R s') (command : Command) :
    (s.execute net command).1.Corresponds d R (s'.execute net' command).1 ∧
      d.Gives command (s.execute net command).2 (s'.execute net' command).2 := by
  obtain ⟨hafter, houtcome⟩ := h.run hnet command
  exact ⟨hafter.settle, houtcome⟩

/-! ## Commands at the same time -/

/-- Dialogues that correspond come equally far without waiting. -/
theorem converseNow {α β : Type} {results : α → β → Prop} (hnet : net.Corresponds d R net')
    (h : s.Corresponds d R s') {x : Dialogue α} {y : Dialogue β} (hxy : x.Corresponds d results y) :
    (s.converseNow net x).1.Corresponds d R (s'.converseNow net' y).1 ∧
      Sum.LiftRel results (fun a b => b.1 = a.1 ∧ a.2.Corresponds d results b.2)
        (s.converseNow net x).2 (s'.converseNow net' y).2 := by
  induction hxy generalizing s s' with
  | done hresult => exact ⟨h, .inl hresult⟩
  | send hrequest hnext ih =>
    obtain ⟨hsent, hdelay, hreply⟩ := h.send hnet hrequest
    rw [Session.converseNow, Session.converseNow]
    simp only [hdelay, hsent.now]
    split
    · exact ih _ _ hreply hsent
    · exact ⟨hsent, .inr ⟨rfl, hnext _ _ hreply⟩⟩

theorem beginOperation (hnet : net.Corresponds d R net') (h : s.Corresponds d R s')
    (isLocked : Bool) (operation : Operation) :
    (s.beginOperation net isLocked operation).1.Corresponds d R
        (s'.beginOperation net' isLocked operation).1 ∧
      (s.beginOperation net isLocked operation).2.Corresponds d (.operate operation)
        (s'.beginOperation net' isLocked operation).2 := by
  rw [Session.beginOperation, Session.beginOperation, h.clock]
  rcases cases_of_rel h.tracker? with ⟨hs, hs'⟩ | ⟨t, t', hs, hs', ht⟩
  · rw [hs, hs']
    exact ⟨h, .known (d.gives_refl _ _)⟩
  · rw [hs, hs']
    cases isLocked with
    | true => exact ⟨h, .queued operation⟩
    | false =>
      simp only [if_neg Bool.false_ne_true]
      obtain ⟨hbegun, hfar⟩ := h.converseNow hnet (ht.operate operation s.clock)
      generalize s.converseNow net _ = first at hbegun hfar ⊢
      generalize s'.converseNow net' _ = second at hbegun hfar ⊢
      rcases first with ⟨s₁, far⟩
      rcases second with ⟨s₁', far'⟩
      cases hfar with
      | @inl a b hresult =>
        obtain ⟨hafter, houtcome⟩ := hbegun.conclude hresult.tracker a.2
        simp only [hresult.result]
        exact ⟨hafter, .known fun _ => houtcome⟩
      | @inr a b hrest =>
        obtain ⟨harrival, hrest⟩ := hrest
        simp only [harrival]
        exact ⟨hbegun, .waiting _ hrest⟩

theorem beginCommand (hnet : net.Corresponds d R net') (h : s.Corresponds d R s')
    (isLocked : Bool) (command : Command) :
    (s.beginCommand net isLocked command).1.Corresponds d R
        (s'.beginCommand net' isLocked command).1 ∧
      (s.beginCommand net isLocked command).2.1.Corresponds d command
        (s'.beginCommand net' isLocked command).2.1 ∧
      (s'.beginCommand net' isLocked command).2.2 =
        (s.beginCommand net isLocked command).2.2 := by
  have hnow := h.executeNow command
  cases command with
  | operate operation =>
    obtain ⟨hbegun, hstage⟩ := h.beginOperation hnet isLocked operation
    exact ⟨hbegun, hstage, hbegun.now⟩
  | extend n =>
    rw [Session.beginCommand, Session.beginCommand, h.transaction?, h.now]
    split
    · exact ⟨h, .known (d.gives_refl _ _), rfl⟩
    · next tx _ _ =>
      obtain ⟨htraffic, hfinish, hresult⟩ := h.traffic.perform hnet s.now tx.corresponds_extend
      refine ⟨{ h with now := rfl, traffic := htraffic }, .known fun hexact => ?_, hfinish⟩
      simp only [hresult (hexact ⟨n, rfl⟩)]
  | sleep ms =>
    rw [Session.beginCommand, Session.beginCommand, h.now]
    exact ⟨h, .known (d.gives_refl _ _), rfl⟩
  | _ => exact ⟨hnow.1, .known fun _ => hnow.2, hnow.1.now⟩

theorem beginAll (hnet : net.Corresponds d R net') (h : s.Corresponds d R s') (isLocked : Bool)
    (commands : List Command) :
    (s.beginAll net isLocked commands).1.Corresponds d R
        (s'.beginAll net' isLocked commands).1 ∧
      AllThree (fun command stage stage' => stage.Corresponds d command stage') commands
        (s.beginAll net isLocked commands).2.1 (s'.beginAll net' isLocked commands).2.1 ∧
      (s'.beginAll net' isLocked commands).2.2 = (s.beginAll net isLocked commands).2.2 := by
  induction commands generalizing s s' isLocked with
  | nil => exact ⟨h, .nil, h.now⟩
  | cons command rest ih =>
    obtain ⟨hfirst, hstage, hfinish⟩ := h.beginCommand hnet isLocked command
    obtain ⟨hbegun, hstages, hlast⟩ := ih hfirst
      (isLocked || (s.beginCommand net isLocked command).2.1.isLocking)
    rw [Session.beginAll, Session.beginAll]
    simp only [hstage.isLocking_eq, hfinish, hlast]
    exact ⟨hbegun, .cons hstage hstages, trivial⟩

/-- Commands that have come equally far end in the same way. -/
theorem finishAll (hnet : net.Corresponds d R net') (h : s.Corresponds d R s')
    {commands : List Command} {stages stages' : List Stage}
    (hstages : AllThree (fun command stage stage' => stage.Corresponds d command stage') commands
      stages stages') :
    (s.finishAll net stages).1.Corresponds d R (s'.finishAll net' stages').1 ∧
      AllThree d.Gives commands (s.finishAll net stages).2 (s'.finishAll net' stages').2 := by
  induction hstages generalizing s s' with
  | nil => exact ⟨h, .nil⟩
  | cons hstage _ ih =>
    cases hstage with
    | known houtcome =>
      obtain ⟨hafter, houtcomes⟩ := ih h
      exact ⟨hafter, .cons houtcome houtcomes⟩
    | waiting arrival hrest =>
      obtain ⟨hended, hresult⟩ := (h.wait hnet arrival).converse hnet hrest
      rw [Session.finishAll, Session.finishAll]
      simp only [hresult.result]
      obtain ⟨hconcluded, houtcome⟩ := hended.conclude hresult.tracker _
      obtain ⟨hafter, houtcomes⟩ := ih hconcluded
      exact ⟨hafter, .cons (fun _ => houtcome) houtcomes⟩
    | queued operation =>
      rw [Session.finishAll, Session.finishAll]
      rcases cases_of_rel h.tracker with ⟨hs, hs'⟩ | ⟨t, t', hs, hs', ht⟩
      · rw [hs, hs']
        obtain ⟨hafter, houtcomes⟩ := ih h
        exact ⟨hafter, .cons (d.gives_refl _ _) houtcomes⟩
      · rw [hs, hs']
        obtain ⟨hdone, houtcome⟩ := h.operate hnet ht operation
        obtain ⟨hafter, houtcomes⟩ := ih hdone
        exact ⟨hafter, .cons (fun _ => houtcome) houtcomes⟩

theorem executeAll (hnet : net.Corresponds d R net') (h : s.Corresponds d R s')
    (commands : List Command) :
    (s.executeAll net commands).1.Corresponds d R (s'.executeAll net' commands).1 ∧
      AllThree d.Gives commands (s.executeAll net commands).2 (s'.executeAll net' commands).2 := by
  obtain ⟨hbegun, hstages, hlast⟩ := h.beginAll hnet false commands
  obtain ⟨hended, houtcomes⟩ := hbegun.finishAll hnet hstages
  rw [Session.executeAll, Session.executeAll]
  simp only [hlast]
  exact ⟨(hended.wait hnet _).settle, houtcomes⟩

end Session.Corresponds

/-! ## Runs -/

/-- The commands of a step. -/
def Session.Step.commands : Step → List Command
  | .one command => [command]
  | .several commands => commands

namespace Session.Corresponds

variable {s : Session σ} {s' : Session σ'}

theorem take (hnet : net.Corresponds d R net') (h : s.Corresponds d R s') (step : Step) :
    (s.take net step).1.Corresponds d R (s'.take net' step).1 ∧
      AllThree d.Gives step.commands (s.take net step).2 (s'.take net' step).2 := by
  cases step with
  | one command =>
    obtain ⟨hafter, houtcome⟩ := h.execute hnet command
    exact ⟨hafter, .cons houtcome .nil⟩
  | several commands => exact h.executeAll hnet commands

/-- **What the user of a session does leads to sessions that correspond** from sessions that do, and
gives what it may give in two runs. -/
theorem follow (hnet : net.Corresponds d R net') (h : s.Corresponds d R s') (steps : List Step) :
    (s.follow net steps).1.Corresponds d R (s'.follow net' steps).1 ∧
      AllThree d.Gives (steps.flatMap Step.commands) (s.follow net steps).2
        (s'.follow net' steps).2 := by
  induction steps generalizing s s' with
  | nil => exact ⟨h, .nil⟩
  | cons step rest ih =>
    obtain ⟨htaken, houtcomes⟩ := h.take hnet step
    obtain ⟨hafter, houtcomes'⟩ := ih htaken
    exact ⟨hafter, houtcomes.append houtcomes'⟩

end Session.Corresponds

end FlowPeers
