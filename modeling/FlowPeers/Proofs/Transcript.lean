import FlowPeers.Network.Basic
import Mathlib.Tactic.Common

/-!
# Transcripts of dialogues

`d.Runs log result` says that the dialogue `d` ends with `result` when `log` is exchanged in it,
requests and replies in order. It speaks of all networks at once:

* whatever the replies to the requests of a dialogue are, there is such a run (`exists_runs`), and
  only one (`Runs.eq_of_gives`),
* where one request at most is wanted, `SendsJust` says that it is all that is exchanged,
* the runs of a dialogue that goes on with another one are those of the first followed by those of
  the second (`runs_andThen_iff`); likewise for exchanges, which stop at a failure
  (`Exchange.runs_andThen_iff`).
-/

namespace FlowPeers

theorem eq_ok_of_toOption {ε α : Type} {e : Except ε α} {a : α} (h : e.toOption = some a) :
    e = .ok a := by
  cases e with
  | error cause => contradiction
  | ok b => exact congrArg Except.ok (Option.some.inj h)

/-- A request and the reply to it. -/
structure Exchanged where
  request : Request
  reply : Reply

/-- What replies to a request, after what was exchanged before. -/
abbrev Opener : Type := List Exchanged → Request → Reply

/-- Whether all replies of a log are those of an opener. -/
def Opener.Gives (opener : Opener) (log : List Exchanged) : Prop :=
  ∀ past x later, log = past ++ x :: later → x.reply = opener past x.request

/-- Whether nothing but the wanted request is exchanged, and this one if there is one. -/
structure SendsJust (wanted : Request → Prop) (log : List Exchanged) : Prop where
  length_le : log.length ≤ 1
  mem_iff : ∀ request, request ∈ log.map (·.request) ↔ wanted request

namespace SendsJust

variable {wanted : Request → Prop}

theorem of_mem {log : List Exchanged} (h : SendsJust wanted log) {x : Exchanged} (hx : x ∈ log) :
    wanted x.request :=
  (h.mem_iff _).1 (List.mem_map_of_mem hx)

theorem nil (h : ∀ request, ¬ wanted request) : SendsJust wanted [] where
  length_le := Nat.zero_le 1
  mem_iff := fun request => iff_of_false List.not_mem_nil (h request)

theorem singleton {request : Request} (h : ∀ other, wanted other ↔ other = request) (reply : Reply) :
    SendsJust wanted [⟨request, reply⟩] where
  length_le := Nat.le_refl 1
  mem_iff := fun other => List.mem_singleton.trans (h other).symm

end SendsJust

namespace Dialogue

variable {α β : Type}

/-- A dialogue ends with a result when this is exchanged. -/
inductive Runs : Dialogue α → List Exchanged → α → Prop
  | done (result : α) : Runs (.done result) [] result
  | send {request : Request} {next : Reply → Dialogue α} {reply : Reply} {log : List Exchanged}
      {result : α} (rest : Runs (next reply) log result) :
      Runs (.send request next) (⟨request, reply⟩ :: log) result

@[simp] theorem runs_done_iff {result result' : α} {log : List Exchanged} :
    (Dialogue.done result).Runs log result' ↔ log = [] ∧ result' = result := by
  constructor
  · intro h
    cases h
    exact ⟨rfl, rfl⟩
  · rintro ⟨rfl, rfl⟩
    exact .done _

theorem runs_send_iff {request : Request} {next : Reply → Dialogue α} {log : List Exchanged}
    {result : α} : (Dialogue.send request next).Runs log result ↔
      ∃ reply rest, log = ⟨request, reply⟩ :: rest ∧ (next reply).Runs rest result := by
  constructor
  · intro h
    cases h with
    | send rest => exact ⟨_, _, rfl, rest⟩
  · rintro ⟨reply, rest, rfl, h⟩
    exact .send h

/-- Every dialogue comes to its end, whatever the replies are. -/
theorem exists_runs (opener : Opener) (d : Dialogue α) :
    ∃ log result, d.Runs log result ∧ opener.Gives log := by
  induction d generalizing opener with
  | done result =>
    refine ⟨[], result, .done result, ?_⟩
    intro past x later h
    simp at h
  | send request next ih =>
    -- what comes after the first reply is a run against the opener that remembers this exchange
    obtain ⟨log, result, hrun, hgives⟩ := ih (opener [] request)
      fun past => opener (⟨request, opener [] request⟩ :: past)
    refine ⟨⟨request, opener [] request⟩ :: log, result, .send hrun, ?_⟩
    intro past x later h
    cases past with
    | nil =>
      simp only [List.nil_append, List.cons.injEq] at h
      obtain ⟨rfl, -⟩ := h
      rfl
    | cons y past =>
      simp only [List.cons_append, List.cons.injEq] at h
      obtain ⟨rfl, h⟩ := h
      exact hgives past x later h

/-- What comes after the first exchange has its replies from the opener that remembers it. -/
theorem gives_of_gives_cons {opener : Opener} {x : Exchanged} {log : List Exchanged}
    (h : opener.Gives (x :: log)) :
    x.reply = opener [] x.request ∧ Opener.Gives (fun past => opener (x :: past)) log := by
  refine ⟨h [] x log rfl, ?_⟩
  intro past y later hlog
  exact h (x :: past) y later (congrArg (x :: ·) hlog)

/-- The replies determine the run. -/
theorem Runs.eq_of_gives {opener : Opener} {d : Dialogue α} {log log' : List Exchanged}
    {result result' : α} (h : d.Runs log result) (h' : d.Runs log' result')
    (hgives : opener.Gives log) (hgives' : opener.Gives log') : log = log' ∧ result = result' := by
  induction h generalizing opener log' with
  | done result =>
    cases h'
    exact ⟨rfl, rfl⟩
  | send rest ih =>
    obtain ⟨reply', rest', rfl, hrest'⟩ := runs_send_iff.1 h'
    obtain ⟨hreply, hgives⟩ := gives_of_gives_cons hgives
    obtain ⟨hreply', hgives'⟩ := gives_of_gives_cons hgives'
    simp only at hreply hreply'
    subst hreply hreply'
    obtain ⟨rfl, rfl⟩ := ih hrest' hgives hgives'
    exact ⟨rfl, rfl⟩

/-- What is exchanged determines the result. -/
theorem Runs.unique {d : Dialogue α} {log : List Exchanged} {result result' : α}
    (h : d.Runs log result) (h' : d.Runs log result') : result = result' := by
  induction h with
  | done result =>
    cases h'
    rfl
  | send rest ih =>
    cases h' with
    | send rest' => exact ih rest'

/-- What a dialogue gives on a network is the result of one of its runs. -/
theorem exists_runs_perform {σ : Type} (net : Responder σ) (now : Nat) (traffic : Traffic σ)
    (d : Dialogue α) : ∃ log, d.Runs log (d.perform net now traffic).2.2 := by
  induction d generalizing now traffic with
  | done result => exact ⟨[], .done result⟩
  | send request next ih =>
    obtain ⟨log, hrun⟩ := ih (traffic.send net now request).2.reply
      (now + (traffic.send net now request).2.delay) (traffic.send net now request).1
    exact ⟨⟨request, _⟩ :: log, .send hrun⟩

theorem runs_andThen_iff {d : Dialogue α} {next : α → Dialogue β} {log : List Exchanged}
    {result : β} : (d.andThen next).Runs log result ↔
      ∃ log₁ value log₂, d.Runs log₁ value ∧ (next value).Runs log₂ result ∧
        log = log₁ ++ log₂ := by
  induction d generalizing log with
  | done value =>
    rw [andThen]
    constructor
    · intro h
      exact ⟨[], value, log, .done value, h, rfl⟩
    · rintro ⟨log₁, value', log₂, h₁, h₂, rfl⟩
      obtain ⟨rfl, rfl⟩ := runs_done_iff.1 h₁
      exact h₂
  | send request more ih =>
    rw [andThen, runs_send_iff]
    constructor
    · rintro ⟨reply, rest, rfl, h⟩
      obtain ⟨log₁, value, log₂, h₁, h₂, rfl⟩ := (ih reply).1 h
      exact ⟨_, value, log₂, .send h₁, h₂, rfl⟩
    · rintro ⟨log₁, value, log₂, h₁, h₂, rfl⟩
      obtain ⟨reply, rest, rfl, hrest⟩ := runs_send_iff.1 h₁
      exact ⟨reply, rest ++ log₂, rfl, (ih reply).2 ⟨rest, value, log₂, hrest, h₂, rfl⟩⟩

theorem runs_map_iff {f : α → β} {d : Dialogue α} {log : List Exchanged} {result : β} :
    (d.map f).Runs log result ↔ ∃ value, d.Runs log value ∧ result = f value := by
  rw [map, runs_andThen_iff]
  constructor
  · rintro ⟨log₁, value, log₂, h₁, h₂, rfl⟩
    obtain ⟨rfl, rfl⟩ := runs_done_iff.1 h₂
    exact ⟨value, by rwa [List.append_nil], rfl⟩
  · rintro ⟨value, h, rfl⟩
    exact ⟨log, value, [], h, .done _, (List.append_nil log).symm⟩

@[simp] theorem map_done (f : α → β) (value : α) : map f (.done value) = .done (f value) := rfl

theorem map_andThen {γ : Type} (d : Dialogue α) (next : α → Dialogue β) (f : β → γ) :
    map f (d.andThen next) = d.andThen fun value => map f (next value) :=
  andThen_assoc d next _

theorem andThen_map {γ : Type} (f : α → β) (d : Dialogue α) (next : β → Dialogue γ) :
    (map f d).andThen next = d.andThen fun value => next (f value) :=
  andThen_assoc d _ next

end Dialogue

namespace Exchange

open Dialogue

variable {α β : Type}

theorem runs_andThen_iff {e : Exchange α} {next : α → Exchange β} {log : List Exchanged}
    {result : Except Failure β} : (Exchange.andThen e next).Runs log result ↔
      (∃ failure, e.Runs log (.error failure) ∧ result = .error failure) ∨
        ∃ log₁ value log₂, e.Runs log₁ (.ok value) ∧ (next value).Runs log₂ result ∧
          log = log₁ ++ log₂ := by
  rw [Exchange.andThen, Dialogue.runs_andThen_iff]
  constructor
  · rintro ⟨log₁, value, log₂, h₁, h₂, rfl⟩
    cases value with
    | error failure =>
      obtain ⟨rfl, rfl⟩ := runs_done_iff.1 h₂
      exact .inl ⟨failure, by rwa [List.append_nil], rfl⟩
    | ok value => exact .inr ⟨log₁, value, log₂, h₁, h₂, rfl⟩
  · rintro (⟨failure, h, rfl⟩ | ⟨log₁, value, log₂, h₁, h₂, rfl⟩)
    · exact ⟨log, .error failure, [], h, .done _, (List.append_nil log).symm⟩
    · exact ⟨log₁, .ok value, log₂, h₁, h₂, rfl⟩

/-- Sending a request takes one exchange, and none if the request cannot be made. -/
theorem runs_send_iff {request : Except RequestError Request} {log : List Exchanged}
    {result : Reply} : (Exchange.send request).Runs log result ↔
      (∃ cause, request = .error cause ∧ log = [] ∧ result = .error (.request cause)) ∨
        ∃ sent, request = .ok sent ∧ log = [⟨sent, result⟩] := by
  cases request with
  | error cause => simp [Exchange.send, Exchange.fail]
  | ok sent => simp [Exchange.send, Dialogue.runs_send_iff]

end Exchange

end FlowPeers
