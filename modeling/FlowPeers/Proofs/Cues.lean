import FlowPeers.Proofs.Lockstep

/-!
# Moves on cue

Which move comes next in a scene may be decided by a cue: for each kind of move there is one, and a
cue for a move that cannot be made changes nothing (`Scene.next`). A run consists of moves if and only
if it is played from some cues (`Scene.leads_iff_exists_play`), so that the cues stand for all the
ways in which operations of several callers, extensions and times may interleave.

Played from the same cues, scenes that correspond lead to scenes that do
(`Scene.Corresponds.play`).
-/

namespace FlowPeers

variable {σ σ' : Type} {d : Discrepancy} {R : σ → σ' → Prop} {net : Responder σ}
  {net' : Responder σ'}

/-! ## Moves, one after the other -/

/-- What is to happen next in a scene. -/
inductive Scene.Cue where
  /-- An operation takes the lock, if nobody holds it. -/
  | begin (operation : Operation)
  /-- The operation that holds the lock sends its next request. -/
  | send
  /-- The operation that holds the lock comes to its end. -/
  | conclude
  /-- An open transaction is extended. -/
  | extend (n : Nat)
  /-- Time passes. -/
  | wait (limit : Nat)
  /-- A command is done at once. -/
  | executeNow (command : Command)
  /-- The scheduler receives what it was told, if nobody holds the lock. -/
  | settle
  deriving DecidableEq, Repr

namespace Scene

/-- A scene after a cue, and what has come of it, if anything. A cue for something that cannot happen
changes nothing. -/
def next (net : Responder σ) (a : Scene σ) : Cue → Scene σ × Option Outcome
  | .begin operation =>
    match a.held, a.session.tracker with
    | none, some t => (⟨a.session, some (t.operate operation a.session.clock)⟩, none)
    | _, _ => (a, none)
  | .send =>
    match a.held with
    | some (.send request next) =>
      let (s, delivery) := a.session.send net request
      (⟨s, some (next delivery.reply)⟩, none)
    | _ => (a, none)
  | .conclude =>
    match a.held with
    | some (.done (t, result)) =>
      let (s, outcome) := a.session.conclude t result
      (⟨s, none⟩, some outcome)
    | _ => (a, none)
  | .extend n =>
    match a.session.transaction? n with
    | none => (a, some .noTransaction)
    | some (tx, _) =>
      let (traffic, _, result) := tx.extend.perform net a.session.now a.session.traffic
      (⟨{ a.session with traffic := traffic }, a.held⟩,
        some (.ofResult (result.map fun _ => .done)))
  | .wait limit => (⟨a.session.wait net limit, a.held⟩, none)
  | .executeNow command =>
    let (s, outcome) := a.session.executeNow command
    (⟨s, a.held⟩, some outcome)
  | .settle =>
    match a.held with
    | none => (⟨a.session.settle, none⟩, none)
    | some _ => (a, none)

/-- A scene after some cues, and what has come of each. -/
def play (net : Responder σ) (a : Scene σ) : List Cue → Scene σ × List (Option Outcome)
  | [] => (a, [])
  | cue :: rest =>
    let (a, outcome) := a.next net cue
    let (a, outcomes) := a.play net rest
    (a, outcome :: outcomes)

theorem play_append (net : Responder σ) (a : Scene σ) (cues cues' : List Cue) :
    (a.play net (cues ++ cues')).1 = ((a.play net cues).1.play net cues').1 := by
  induction cues generalizing a with
  | nil => rfl
  | cons cue rest ih => exact ih _

theorem leads_next (net : Responder σ) (a : Scene σ) (cue : Cue) :
    Session.Leads net (fun _ => True) a (a.next net cue).1 := by
  rcases a with ⟨s, held⟩
  cases cue with
  | begin operation =>
    rw [Scene.next]
    split
    · next hheld htracker =>
      obtain rfl : held = none := hheld
      exact .single (.begin htracker operation)
    · exact .refl
  | send =>
    rw [Scene.next]
    split
    · next request next hheld =>
      obtain rfl : held = some (.send request next) := hheld
      exact .single (.send s request next)
    · exact .refl
  | conclude =>
    rw [Scene.next]
    split
    · next t result hheld =>
      obtain rfl : held = some (.done (t, result)) := hheld
      exact .single (.conclude trivial)
    · exact .refl
  | extend n =>
    rw [Scene.next]
    split
    · exact .refl
    · next htx =>
      exact Session.leads_perform_extend (Session.mem_transactions_of_transaction? htx) held
  | wait limit => exact .single (.wait s limit held)
  | executeNow command => exact .single (.executeNow trivial held)
  | settle =>
    rw [Scene.next]
    split
    · next hheld =>
      obtain rfl : held = none := hheld
      exact .single (.settle s)
    · exact .refl

theorem exists_cue_of_move {net : Responder σ} {a b : Scene σ}
    (h : Session.Move net (fun _ => True) a b) : ∃ cue, (a.next net cue).1 = b := by
  cases h with
  | begin h operation =>
    refine ⟨.begin operation, ?_⟩
    simp only [Scene.next, h]
  | send s request next => exact ⟨.send, rfl⟩
  | conclude h => exact ⟨.conclude, rfl⟩
  | @extend s tx ticket hopen request next h held =>
    obtain ⟨n, hget⟩ := List.mem_iff_getElem?.1 hopen
    have htx : s.transaction? n = some (tx, ticket) := by
      rw [Session.transaction?, hget, Option.join_some]
    refine ⟨.extend n, ?_⟩
    simp only [Scene.next, htx, Session.perform_extend h]
    rfl
  | wait s limit held => exact ⟨.wait limit, rfl⟩
  | @executeNow s command h held => exact ⟨.executeNow command, rfl⟩
  | settle s => exact ⟨.settle, rfl⟩

/-- A run consists of moves if and only if it is played from some cues. -/
theorem leads_iff_exists_play {net : Responder σ} {a b : Scene σ} :
    Session.Leads net (fun _ => True) a b ↔ ∃ cues, (a.play net cues).1 = b := by
  constructor
  · intro h
    induction h with
    | refl => exact ⟨[], rfl⟩
    | tail _ hmove ih =>
      obtain ⟨cues, rfl⟩ := ih
      obtain ⟨cue, rfl⟩ := exists_cue_of_move hmove
      exact ⟨cues ++ [cue], play_append net a cues [cue]⟩
  · rintro ⟨cues, rfl⟩
    induction cues generalizing a with
    | nil => exact .refl
    | cons cue rest ih => exact (leads_next net a cue).trans ih

/-- Whether the sessions of scenes correspond, and the operations that hold the lock as far as they
have come. -/
structure Corresponds (d : Discrepancy) (R : σ → σ' → Prop) (a : Scene σ) (b : Scene σ') :
    Prop where
  session : a.session.Corresponds d R b.session
  held : Option.Rel (Dialogue.Corresponds d d.SameWith) a.held b.held

/-- Whether the same comes of a cue in two runs, unless it is for an extension whose reply may
differ. -/
def Gives (d : Discrepancy) (cue : Cue) (outcome outcome' : Option Outcome) : Prop :=
  ((∃ n, cue = .extend n) → d.IsExact) → outcome' = outcome

namespace Corresponds

variable {a : Scene σ} {b : Scene σ'}

theorem next (hnet : net.Corresponds d R net') (h : a.Corresponds d R b) (cue : Cue) :
    (a.next net cue).1.Corresponds d R (b.next net' cue).1 ∧
      Gives d cue (a.next net cue).2 (b.next net' cue).2 := by
  rcases a with ⟨s, held⟩
  rcases b with ⟨s', held'⟩
  have hs : s.Corresponds d R s' := h.session
  have hheld : Option.Rel (Dialogue.Corresponds d d.SameWith) held held' := h.held
  cases cue with
  | begin operation =>
    cases hheld with
    | some hxy => exact ⟨h, fun _ => rfl⟩
    | none =>
      simp only [Scene.next, hs.clock]
      rcases cases_of_rel hs.tracker with ⟨hnone, hnone'⟩ | ⟨t, t', hsome, hsome', ht⟩
      · rw [hnone, hnone']
        exact ⟨h, fun _ => rfl⟩
      · rw [hsome, hsome']
        exact ⟨⟨hs, .some (ht.operate operation s.clock)⟩, fun _ => rfl⟩
  | send =>
    cases hheld with
    | none => exact ⟨h, fun _ => rfl⟩
    | some hxy =>
      cases hxy with
      | done hresult => exact ⟨h, fun _ => rfl⟩
      | send hrequest hnext =>
        obtain ⟨hsent, -, hreply⟩ := hs.send hnet hrequest
        exact ⟨⟨hsent, .some (hnext _ _ hreply)⟩, fun _ => rfl⟩
  | conclude =>
    cases hheld with
    | none => exact ⟨h, fun _ => rfl⟩
    | some hxy =>
      cases hxy with
      | send hrequest hnext => exact ⟨h, fun _ => rfl⟩
      | @done x y hresult =>
        obtain ⟨hafter, houtcome⟩ := hs.conclude hresult.tracker x.2
        simp only [Scene.next, hresult.result]
        exact ⟨⟨hafter, .none⟩, fun _ => congrArg some houtcome⟩
  | extend n =>
    rw [Scene.next, Scene.next]
    simp only [hs.transaction?, hs.now]
    split
    · exact ⟨h, fun _ => rfl⟩
    · next tx _ _ =>
      obtain ⟨htraffic, -, hresult⟩ := hs.traffic.perform hnet s.now tx.corresponds_extend
      refine ⟨⟨{ hs with now := rfl, traffic := htraffic }, hheld⟩, fun hexact => ?_⟩
      simp only [hresult (hexact ⟨n, rfl⟩)]
  | wait limit => exact ⟨⟨hs.wait hnet limit, hheld⟩, fun _ => rfl⟩
  | executeNow command =>
    obtain ⟨hafter, houtcome⟩ := hs.executeNow command
    exact ⟨⟨hafter, hheld⟩, fun _ => congrArg some houtcome⟩
  | settle =>
    cases hheld with
    | none => exact ⟨⟨hs.settle, .none⟩, fun _ => rfl⟩
    | some hxy => exact ⟨h, fun _ => rfl⟩

/-- **Moves in any order lead to scenes that correspond** from scenes that do, and the same comes of
them except for extensions whose replies may differ. -/
theorem play (hnet : net.Corresponds d R net') (h : a.Corresponds d R b) (cues : List Cue) :
    (a.play net cues).1.Corresponds d R (b.play net' cues).1 ∧
      AllThree (Gives d) cues (a.play net cues).2 (b.play net' cues).2 := by
  induction cues generalizing a b with
  | nil => exact ⟨h, .nil⟩
  | cons cue rest ih =>
    obtain ⟨hnext, houtcome⟩ := h.next hnet cue
    obtain ⟨hafter, houtcomes⟩ := ih hnext
    exact ⟨hafter, .cons houtcome houtcomes⟩

end Corresponds

end Scene

end FlowPeers
