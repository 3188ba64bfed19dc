import FlowPeers.Proofs.Upkeep

/-!
# Sessions that can come about

A session comes about by connecting a tracker and by the small moves of which all commands consist:
requests are sent, times pass, operations come to their ends (`Session.Reachable`). Whatever is
executed, one command after the other or some at the same time, leads from such a session to such a
session (`Session.Reachable.follow`), so that what the moves keep holds of every run
(`Session.Reachable.isSound`).
-/

namespace FlowPeers

variable {σ : Type}

namespace Session

/-- The sessions with a tracker that can come about on a network. -/
inductive Reachable (net : Responder σ) : Session σ → Prop
  | connect {epoch : Int} {network : σ} {saved : Option PeerStatus} {seeds : List String}
      {interval : Duration} {logins : Logins} {s : Session σ}
      (h : (start epoch network saved).connect net seeds interval logins = (s, .ok ())) :
      Reachable net s
  | send {s : Session σ} (h : Reachable net s) (request : Request) :
      Reachable net (s.send net request).1
  | wait {s : Session σ} (h : Reachable net s) (limit : Nat) : Reachable net (s.wait net limit)
  | settle {s : Session σ} (h : Reachable net s) : Reachable net s.settle
  | conclude {s : Session σ} (h : Reachable net s) (t : Tracker)
      (result : Except Failure Answer) : Reachable net (s.conclude t result).1
  | executeNow {s : Session σ} (h : Reachable net s) (command : Command) :
      Reachable net (s.executeNow command).1
  /-- Requests are sent beside the operations, or what was sent is reported. -/
  | exchange {s : Session σ} (h : Reachable net s) (traffic : Traffic σ) :
      Reachable net { s with traffic := traffic }
  | save {s : Session σ} (h : Reachable net s) (status : PeerStatus) :
      Reachable net (s.save status)

/-! ## All that is executed consists of moves -/

variable {net : Responder σ} {s : Session σ}

theorem Move.reachable {allowed : Outcome → Prop} {a b : Scene σ} (h : Move net allowed a b)
    (ha : Reachable net a.session) : Reachable net b.session := by
  cases h with
  | begin h operation => exact ha
  | send s request next => exact ha.send request
  | conclude h => exact ha.conclude _ _
  | extend hopen h held => exact ha.send _
  | wait s limit held => exact ha.wait limit
  | executeNow h held => exact ha.executeNow _
  | settle s => exact ha.settle

/-- So does a conversation, as far as it has come when its result is there. -/
theorem Reachable.converse (h : Reachable net s)
    (d : Dialogue (Tracker × Except Failure Answer)) : Reachable net (s.converse net d).1 := by
  have hleads : Leads net (fun _ => True) ⟨s, some d⟩
      ⟨(s.converse net d).1, some (.done (s.converse net d).2)⟩ :=
    leads_converse s d
  exact hleads.keeps (fun _ _ hmove => hmove.reachable) h

/-- Whatever the user of a session does leads to a session that can come about. -/
theorem Reachable.follow (h : Reachable net s) (steps : List Step) :
    Reachable net (s.follow net steps).1 := by
  have hleads : Leads net (fun _ => True) ⟨s, none⟩ ⟨(s.follow net steps).1, none⟩ :=
    leads_follow fun _ _ => trivial
  exact hleads.keeps (fun _ _ hmove => hmove.reachable) h

/-! ## What all sessions keep -/

/-- What holds of a session: its scheduler is sound, and the jobs of its transactions are among
those that were numbered. -/
structure IsSound (s : Session σ) : Prop where
  keepAlive : s.keepAlive.IsSound s.now
  tickets : ∀ tx ticket, some (tx, ticket) ∈ s.transactions → ticket.id < s.keepAlive.nextId

theorem isSound_connect {epoch : Int} {network : σ} {saved : Option PeerStatus}
    {seeds : List String} {interval : Duration} {logins : Logins}
    (h : (start epoch network saved).connect net seeds interval logins = (s, .ok ())) :
    s.IsSound := by
  rw [connect_eq] at h
  split at h
  · cases h
  · next s' t hconverse =>
    cases h
    have hleaves := leaves_converse net (start epoch network saved) (Tracker.connect seeds interval
      logins (start epoch network saved).saved (start epoch network saved).clock)
    rw [hconverse] at hleaves
    refine ⟨KeepAlive.isSound_start _, ?_⟩
    have hnone : s'.transactions = [] := hleaves.transactions
    intro tx ticket hmem
    simp [hnone] at hmem

theorem isSound_wait (h : s.IsSound) (limit : Nat) :
    (s.wait net limit).IsSound := by
  rw [wait]
  split
  · exact h
  · next hlt =>
    have hle : s.now ≤ limit := by omega
    refine ⟨KeepAlive.isSound_advance h.keepAlive hle s.traffic, ?_⟩
    simpa [KeepAlive.advance_eq_walk h.keepAlive] using h.tickets

theorem isSound_settle (h : s.IsSound) : s.settle.IsSound := by
  have hsettle := KeepAlive.isSound_settle h.keepAlive
  rw [settle]
  cases s.isInUse with
  | true => exact ⟨hsettle, by simpa using h.tickets⟩
  | false => exact ⟨KeepAlive.isSound_stop hsettle, by simpa [KeepAlive.stop] using h.tickets⟩

theorem isSound_conclude (h : s.IsSound) (t : Tracker)
    (result : Except Failure Answer) : (s.conclude t result).1.IsSound := by
  have hother : { s with tracker := some t }.IsSound := ⟨h.keepAlive, h.tickets⟩
  rcases result with failure | answer
  · exact hother
  · cases answer with
    | done => exact hother
    | identifier id => exact hother
    | opened tx =>
      refine ⟨KeepAlive.isSound_schedule h.keepAlive _ _, ?_⟩
      intro tx' ticket hmem
      simp only [conclude, keep, KeepAlive.schedule_nextId] at hmem ⊢
      rcases List.mem_append.1 hmem with hmem | hmem
      · exact Nat.lt_succ_of_lt (h.tickets tx' ticket hmem)
      · simp only [List.mem_singleton, Option.some.injEq, Prod.mk.injEq] at hmem
        rw [hmem.2, KeepAlive.schedule_ticket_id]
        exact Nat.lt_succ_self _

theorem AtOnce.isSound {after : Session σ × Outcome} (h : AtOnce s after) (hs : s.IsSound) :
    after.1.IsSound := by
  obtain ⟨hkeepAlive, htickets⟩ := hs
  cases h with
  | pass epoch outcome => exact ⟨hkeepAlive, htickets⟩
  | close htx =>
    refine ⟨KeepAlive.isSound_cancel hkeepAlive _, fun tx ticket hmem => ?_⟩
    rw [KeepAlive.cancel_nextId]
    rcases List.mem_or_eq_of_mem_set hmem with hmem | hmem
    · exact htickets tx ticket hmem
    · contradiction
  | shutDown => exact ⟨KeepAlive.isSound_shutDown hkeepAlive, by simpa using htickets⟩
  | probe ht =>
    refine ⟨KeepAlive.isSound_schedule hkeepAlive _ _, fun tx ticket hmem => ?_⟩
    rw [KeepAlive.schedule_nextId]
    exact Nat.lt_succ_of_lt (htickets tx ticket hmem)
  | dropProbes =>
    refine ⟨KeepAlive.isSound_foldl_cancel hkeepAlive _, fun tx ticket hmem => ?_⟩
    rw [KeepAlive.foldl_cancel_nextId]
    exact htickets tx ticket hmem
  | release => exact ⟨hkeepAlive, htickets⟩

/-- Every session that can come about is sound. -/
theorem Reachable.isSound (h : Reachable net s) : s.IsSound := by
  induction h with
  | connect h => exact isSound_connect h
  | send _ request ih => exact ⟨ih.keepAlive, ih.tickets⟩
  | wait _ limit ih => exact isSound_wait ih limit
  | settle _ ih => exact isSound_settle ih
  | conclude _ t result ih => exact isSound_conclude ih t result
  | @executeNow s _ command ih => exact (atOnce_executeNow s command).isSound ih
  | exchange _ traffic ih => exact ⟨ih.keepAlive, ih.tickets⟩
  | save _ status ih => exact ⟨ih.keepAlive, ih.tickets⟩

end Session

end FlowPeers
