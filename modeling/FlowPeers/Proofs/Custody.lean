import FlowPeers.Proofs.Tokens

/-!
# What entitles a request to a token

A token is granted by a peer in a login (`IsGranted`), and a transaction is kept under the token with
which its peer was asked to open it (`Transaction.IsKept`). A request is entitled to the tokens that
it carries (`Request.IsEntitled`) if for each of them a peer has granted it before, and the request is
one that an operation takes with this peer, or that extends a transaction where this peer has said
that it is.

Whether the requests of a log are entitled depends on what was exchanged before each (`AreEntitled`),
and more being exchanged takes nothing away. All requests of calls are entitled if the tokens that are
kept at the beginning were granted (`Calls.areEntitled`). So are all requests of an operation, however
it runs (`Tracker.isEntitled_operate`), and those by which a tracker is connected
(`Tracker.isEntitled_connect`).
-/

namespace FlowPeers

open Dialogue

variable {record record' : List Exchanged} {peer : String} {value : HeaderValue}

/-- Whether a login to a peer was granted an authorization. -/
def IsGranted (record : List Exchanged) (peer : String) (value : HeaderValue) : Prop :=
  ∃ x ∈ record, ∃ credentials, Logins.tokenRequest credentials peer = .ok x.request ∧
    Logins.Grants x.reply value

/-- Whether a peer has opened a transaction that it was asked for under an authorization, and says
that it is at a place. -/
def IsOpened (record : List Exchanged) (peer : String) (value : HeaderValue) (there : Url) : Prop :=
  ∃ x ∈ record, ∃ port url response location, Transaction.openUrl peer port = .ok url ∧
    Request.toUrl "POST" (String.ofList url.print) (Transaction.headers (some value)) .empty =
      .ok x.request ∧
    x.reply = .ok response ∧ response.status.isSuccess ∧
    Transaction.location? response = some location ∧ url.join location = .ok there

/-- Whether a transaction is the one that its peer has opened in an exchange: a request under the
authorization of the transaction asks for it, and the transaction is what the response says. -/
def Transaction.IsOpenedBy (tx : Transaction) (x : Exchanged) : Prop :=
  ∃ url response, openUrl tx.peer tx.port = .ok url ∧
    Request.toUrl "POST" (String.ofList url.print) (headers tx.authorization) .empty =
      .ok x.request ∧
    x.reply = .ok response ∧ response.status.isSuccess ∧
    ofResponse tx.peer tx.port tx.authorization url response = .ok tx

/-- Whether a request extends what is at a place, under an authorization. -/
def Request.Extends (request : Request) (there : Url) (value : HeaderValue) : Prop :=
  toUrl "PUT" (String.ofList there.print) (Transaction.headers (some value)) .empty = .ok request

/-- Whether a peer has granted each authorization that a request carries, and the request is for this
peer, or extends what it has opened. -/
def Request.IsEntitled (past : List Exchanged) (request : Request) : Prop :=
  ∀ value ∈ request.authorizations, ∃ peer, IsGranted past peer value ∧
    ((∃ operation : Operation, operation.IsRequest peer (some value) request) ∨
      ∃ there, IsOpened past peer value there ∧ request.Extends there value)

/-- Whether the requests of a log are entitled to what they carry, by what was exchanged before
them. -/
def AreEntitled : List Exchanged → List Exchanged → Prop
  | _, [] => True
  | past, x :: later => x.request.IsEntitled past ∧ AreEntitled (past ++ [x]) later

/-- Whether all tokens that are kept were granted where they are kept for. -/
def Logins.AreGranted (record : List Exchanged) (logins : Logins) : Prop :=
  ∀ url value, logins.authorization? url = some value → IsGranted record url value

/-- Whether the authorization of a transaction, if it has one, was granted by its peer, which has
opened it where it is. -/
def Transaction.IsKept (record : List Exchanged) (tx : Transaction) : Prop :=
  ∀ value, tx.authorization = some value → IsGranted record tx.peer value ∧
    ∃ there, IsOpened record tx.peer value there ∧ tx.url = String.ofList there.print

/-! ## More is exchanged -/

theorem append_subset_append {α : Type} {l l' : List α} (h : l ⊆ l') (later : List α) :
    l ++ later ⊆ l' ++ later :=
  List.append_subset_of_subset_of_subset (List.subset_append_of_subset_left _ h)
    (List.subset_append_right _ _)

theorem IsGranted.mono (h : IsGranted record peer value) (hle : record ⊆ record') :
    IsGranted record' peer value := by
  obtain ⟨x, hx, hgranted⟩ := h
  exact ⟨x, hle hx, hgranted⟩

theorem IsOpened.mono {there : Url} (h : IsOpened record peer value there)
    (hle : record ⊆ record') : IsOpened record' peer value there := by
  obtain ⟨x, hx, hopened⟩ := h
  exact ⟨x, hle hx, hopened⟩

theorem Request.IsEntitled.mono {request : Request} (h : request.IsEntitled record)
    (hle : record ⊆ record') : request.IsEntitled record' := by
  intro value hvalue
  obtain ⟨peer, hgranted, hrequest⟩ := h value hvalue
  refine ⟨peer, hgranted.mono hle, hrequest.imp_right ?_⟩
  rintro ⟨there, hopened, hextends⟩
  exact ⟨there, hopened.mono hle, hextends⟩

theorem Logins.AreGranted.mono {logins : Logins} (h : logins.AreGranted record)
    (hle : record ⊆ record') : logins.AreGranted record' :=
  fun url value hvalue => (h url value hvalue).mono hle

theorem Transaction.IsKept.mono {tx : Transaction} (h : tx.IsKept record)
    (hle : record ⊆ record') : tx.IsKept record' := by
  intro value hvalue
  obtain ⟨hgranted, there, hopened, hurl⟩ := h value hvalue
  exact ⟨hgranted.mono hle, there, hopened.mono hle, hurl⟩

/-! ## Logs -/

namespace AreEntitled

variable {log log' : List Exchanged}

theorem mono (h : AreEntitled record log) (hle : record ⊆ record') : AreEntitled record' log := by
  induction log generalizing record record' with
  | nil => trivial
  | cons x later ih => exact ⟨h.1.mono hle, ih h.2 (append_subset_append hle _)⟩

theorem append (h : AreEntitled record log) (h' : AreEntitled (record ++ log) log') :
    AreEntitled record (log ++ log') := by
  induction log generalizing record with
  | nil => rwa [List.append_nil] at h'
  | cons x later ih =>
    refine ⟨h.1, ih h.2 ?_⟩
    rwa [List.append_assoc]

/-- What was exchanged before a log may entitle all of it. -/
theorem of_forall (h : ∀ x ∈ log, x.request.IsEntitled record) : AreEntitled record log := by
  induction log generalizing record with
  | nil => trivial
  | cons x later ih =>
    obtain ⟨hfirst, hlater⟩ := List.forall_mem_cons.1 h
    exact ⟨hfirst, ih fun y hy => (hlater y hy).mono (List.subset_append_left _ _)⟩

theorem isEntitled {past later : List Exchanged} {x : Exchanged}
    (h : AreEntitled record (past ++ x :: later)) : x.request.IsEntitled (record ++ past) := by
  induction past generalizing record with
  | nil =>
    rw [List.append_nil]
    exact h.1
  | cons y past ih =>
    have hlater := ih h.2
    rwa [List.append_assoc] at hlater

end AreEntitled

/-! ## Calls -/

theorem Request.isEntitled_of_authorizations {request : Request} (h : request.authorizations = []) :
    request.IsEntitled record := by
  intro value hvalue
  rw [h] at hvalue
  contradiction

/-- A call is entitled to send what it was made for with an authorization of its peer. -/
theorem Call.IsWork.areEntitled {c : Call} {authorization : Option HeaderValue}
    {work : List Exchanged} (h : c.IsWork authorization work)
    (hgranted : ∀ value, authorization = some value → IsGranted record c.url value) :
    AreEntitled record work := by
  refine .of_forall fun x hx value hvalue => ?_
  have hrequest := h.of_mem hx
  rw [hrequest.authorizations_eq, Option.mem_toList] at hvalue
  subst hvalue
  exact ⟨c.url, hgranted value rfl, .inl ⟨c.purpose, hrequest⟩⟩

theorem Call.Gains.isGranted {c : Call} (h : c.Gains value) : IsGranted c.log c.url value := by
  obtain ⟨credentials, request, reply, work, -, hrequest, hlog, hgranted⟩ := h
  exact ⟨⟨request, reply⟩, by simp [hlog], credentials, hrequest, hgranted⟩

/-- After a call all tokens that are kept were granted if that was so before. -/
theorem Call.IsProper.areGranted {c : Call} (h : c.IsProper)
    (hbefore : c.before.AreGranted record) : c.after.AreGranted (record ++ c.log) := by
  intro url value hvalue
  rcases h.authorization?_eq_some_iff.1 hvalue with hkept | ⟨rfl, hgains⟩
  · exact (hbefore url value hkept).mono (List.subset_append_left _ _)
  · exact hgains.isGranted.mono (List.subset_append_right _ _)

theorem Call.IsProper.areEntitled {c : Call} (h : c.IsProper)
    (hbefore : c.before.AreGranted record) : AreEntitled record c.log := by
  cases h with
  | known hlogin hafter hwork => exact hwork.areEntitled (hbefore c.url)
  | unable hnone hsome hrequest hlog hafter =>
    rw [hlog]
    trivial
  | refused hnone hsome hrequest hlog hrefused hafter =>
    rw [hlog]
    exact ⟨Request.isEntitled_of_authorizations (Logins.authorizations_tokenRequest hrequest), trivial⟩
  | @granted credentials request reply value work hnone hsome hrequest hlog hgranted hafter hwork =>
    rw [hlog]
    refine ⟨Request.isEntitled_of_authorizations (Logins.authorizations_tokenRequest hrequest),
      hwork.areEntitled ?_⟩
    rintro _ ⟨⟩
    exact ⟨⟨request, reply⟩, by simp, credentials, hrequest, hgranted⟩

/-- What calls send they are entitled to send, and all tokens that are kept then were granted, if that
was so at the beginning. -/
theorem Calls.areEntitled {a b : Logins} {calls : List Call} (h : Calls a calls b)
    (ha : a.AreGranted record) : AreEntitled record (calls.flatMap (·.log)) ∧
      b.AreGranted (record ++ calls.flatMap (·.log)) := by
  induction h generalizing record with
  | nil logins => exact ⟨trivial, by simpa using ha⟩
  | @cons c calls after hc later ih =>
    obtain ⟨hlater, hafter⟩ := ih (hc.areGranted ha)
    rw [List.append_assoc] at hafter
    exact ⟨(hc.areEntitled ha).append hlater, hafter⟩

/-! ## Opening a transaction -/

/-- A transaction keeps what it was opened with and is where the response says. -/
theorem Transaction.of_ofResponse {port : String} {authorization : Option HeaderValue} {url : Url}
    {response : Response} {tx : Transaction}
    (h : ofResponse peer port authorization url response = .ok tx) :
    tx.peer = peer ∧ tx.port = port ∧ tx.authorization = authorization ∧ ∃ location there,
      location? response = some location ∧ url.join location = .ok there ∧
      tx.url = String.ofList there.print := by
  unfold ofResponse at h
  dsimp only at h
  split at h
  · contradiction
  · next location hlocation =>
    split at h
    · contradiction
    · next there hthere =>
      cases h
      exact ⟨rfl, rfl, rfl, location, there, hlocation, hthere, rfl⟩

theorem Transaction.IsOpenedBy.isOpened {tx : Transaction} {x : Exchanged} (h : tx.IsOpenedBy x)
    (hx : x ∈ record) (hvalue : tx.authorization = some value) :
    ∃ there, IsOpened record tx.peer value there ∧ tx.url = String.ofList there.print := by
  obtain ⟨url, response, hurl, hrequest, hreply, hsuccess, hopened⟩ := h
  obtain ⟨-, -, -, location, there, hlocation, hthere, hplace⟩ := of_ofResponse hopened
  exact ⟨there, ⟨x, hx, tx.port, url, response, location, hurl, hvalue ▸ hrequest, hreply, hsuccess,
    hlocation, hthere⟩, hplace⟩

/-- A transaction is opened by a request under the authorization that is kept for the peer. -/
theorem Transaction.of_runs_create {authorization : Option HeaderValue} {port : String}
    {log : List Exchanged} {tx : Transaction} (h : (create peer authorization port).Runs log (.ok tx)) :
    tx.peer = peer ∧ tx.authorization = authorization ∧ ∃ x ∈ log, tx.IsOpenedBy x := by
  rcases runs_create_iff.1 h with ⟨_, _, _, hok⟩ | ⟨url, hurl, ⟨_, _, _, hok⟩ |
    ⟨request, reply, hrequest, rfl, hok⟩⟩
  · contradiction
  · contradiction
  · cases reply with
    | error failure => contradiction
    | ok response =>
      rw [Except.bind, answer, Exchange.ifSuccess] at hok
      split at hok
      · next hsuccess =>
        obtain ⟨rfl, rfl, rfl, -⟩ := of_ofResponse hok.symm
        exact ⟨rfl, rfl, _, List.mem_singleton_self _, url, response, hurl, hrequest, rfl, hsuccess,
          hok.symm⟩
      · contradiction

/-- A visit that has opened a transaction has it under the authorization that is kept then. -/
theorem Visit.IsOf.of_opened {errand : Errand} {v : Visit Answer} (h : v.IsOf errand.action)
    {tx : Transaction} (hopened : v.result = .ok (.opened tx)) :
    tx.peer = v.url ∧ tx.authorization = v.after.authorization? v.url ∧
      ∃ x ∈ v.log, tx.IsOpenedBy x := by
  rcases Logins.runs_visit_iff.1 h with ⟨failure, -, -, hfail⟩ | ⟨entry, work, hlogin, hrun, hlog⟩
  · rw [hopened] at hfail
    contradiction
  · rw [hopened] at hrun
    cases errand with
    | resolvePort name =>
      obtain ⟨result, -, hresult⟩ := runs_map_iff.1 hrun
      cases result <;> cases hresult
    | openTransaction port =>
      obtain ⟨result, hcreate, hresult⟩ := runs_map_iff.1 hrun
      cases result with
      | error failure => cases hresult
      | ok tx' =>
        cases hresult
        obtain ⟨hpeer, hauthorization, x, hx, hopener⟩ := Transaction.of_runs_create hcreate
        exact ⟨hpeer, hauthorization, x, hlog ▸ List.mem_append_right _ hx, hopener⟩

/-! ## Operations -/

namespace Deed

variable {d : Deed}

/-- What an operation gives is what the last visit has given, or nothing was opened. -/
theorem Occurs.result_eq (h : d.Occurs) {tx : Transaction} (hopened : d.result = .ok (.opened tx)) :
    ∃ before v, d.tried = before ++ [v] ∧ v.result = .ok (.opened tx) := by
  have hlast : Visit.outcome .noPeers d.tried = .ok (.opened tx) := by
    cases h with
    | @refresh t now asked hasked =>
      exfalso
      cases houtcome : Visit.outcome .noPeers asked with
      | error failure =>
        rw [houtcome] at hopened
        cases hopened
      | ok reported =>
        rw [houtcome] at hopened
        cases hopened
    | fresh errand hfresh htried => exact hopened
    | stale errand hstale hasked hreported htried => exact hopened
    | expired errand hstale hasked hfailure => cases hopened
  rw [Visit.outcome] at hlast
  cases hget : d.tried.getLast? with
  | none =>
    rw [hget] at hlast
    contradiction
  | some v =>
    rw [hget] at hlast
    obtain ⟨before, hbefore⟩ := List.getLast?_eq_some_iff.1 hget
    exact ⟨before, v, hbefore, hlast⟩

/-- What an operation has opened was opened in it, under the authorization that is kept then. -/
theorem Occurs.of_opened (h : d.Occurs) {tx : Transaction}
    (hopened : d.result = .ok (.opened tx)) :
    tx.authorization = d.after.logins.authorization? tx.peer ∧
      ∃ x ∈ d.act.log, tx.IsOpenedBy x := by
  obtain ⟨before, v, htried, hresult⟩ := h.result_eq hopened
  rcases h.tried with hnone | ⟨errand, -, hvisits⟩
  · rw [hnone] at htried
    simp at htried
  · have hv : v.IsOf errand.action := hvisits.isOf v (by simp [htried])
    obtain ⟨hpeer, hauthorization, x, hx, hopener⟩ := hv.of_opened hresult
    have hlogins : d.after.logins = v.after := by
      rw [h.after_eq, Tracker.afterTrying]
      simp [Visit.finalLogins, htried]
    refine ⟨by rw [hlogins, hpeer, hauthorization], x, ?_, hopener⟩
    simp only [act, Visit.transcript, htried, List.flatMap_append, List.flatMap_singleton,
      List.mem_append]
    exact .inr (.inr hx)

/-- A transaction that an operation has opened is kept as what was exchanged says. -/
theorem Occurs.isKept (h : d.Occurs) (hbefore : d.before.logins.AreGranted record)
    {tx : Transaction} (hopened : d.result = .ok (.opened tx)) : tx.IsKept (record ++ d.act.log) := by
  obtain ⟨hauthorization, x, hx, hopener⟩ := h.of_opened hopened
  have hgranted := (h.calls.areEntitled hbefore).2
  rw [d.transcript_calls] at hgranted
  intro value hvalue
  exact ⟨hgranted _ _ (hauthorization ▸ hvalue),
    hopener.isOpened (List.mem_append_right _ hx) hvalue⟩

end Deed

/-! ## Dialogues -/

/-- Whether a dialogue, however it runs, sends only what is entitled by what was exchanged before, and
ends with what is right by then. -/
def Dialogue.IsEntitled {α : Type} (right : List Exchanged → α → Prop) (record : List Exchanged)
    (d : Dialogue α) : Prop :=
  ∀ log result, d.Runs log result → AreEntitled record log ∧ right (record ++ log) result

namespace Dialogue.IsEntitled

variable {α : Type} {right : List Exchanged → α → Prop}

theorem of_done {result : α} (h : (done result).IsEntitled right record) : right record result := by
  have hright := (h [] result (.done result)).2
  rwa [List.append_nil] at hright

/-- A dialogue that goes on with a reply is entitled by what was exchanged then. -/
theorem of_send {request : Request} {next : Reply → Dialogue α}
    (h : (send request next).IsEntitled right record) (reply : Reply) :
    request.IsEntitled record ∧ (next reply).IsEntitled right (record ++ [⟨request, reply⟩]) := by
  have hnext : ∀ log result, (next reply).Runs log result →
      AreEntitled record (⟨request, reply⟩ :: log) ∧
        right (record ++ ⟨request, reply⟩ :: log) result :=
    fun log result hrun => h _ result (.send hrun)
  refine ⟨?_, fun log result hrun => ?_⟩
  · obtain ⟨log, result, hrun, -⟩ := exists_runs (fun _ _ => reply) (next reply)
    exact (hnext log result hrun).1.1
  · obtain ⟨hentitled, hright⟩ := hnext log result hrun
    refine ⟨hentitled.2, ?_⟩
    rwa [List.append_assoc]

theorem mono {d : Dialogue α} (h : d.IsEntitled right record) (hle : record ⊆ record')
    (hright : ∀ {record record'} {result : α}, record ⊆ record' → right record result →
      right record' result) : d.IsEntitled right record' := by
  intro log result hrun
  obtain ⟨hentitled, hresult⟩ := h log result hrun
  exact ⟨hentitled.mono hle, hright (append_subset_append hle _) hresult⟩

end Dialogue.IsEntitled

namespace Tracker

/-- Whether a tracker keeps what was granted, and a transaction that was opened is kept as what was
exchanged says. -/
def IsRight (record : List Exchanged) : Tracker × Except Failure Answer → Prop
  | (t, result) => t.logins.AreGranted record ∧
      ∀ tx, result = .ok (.opened tx) → tx.IsKept record

theorem IsRight.mono {result : Tracker × Except Failure Answer} (hle : record ⊆ record')
    (h : IsRight record result) : IsRight record' result :=
  ⟨h.1.mono hle, fun tx hopened => (h.2 tx hopened).mono hle⟩

/-- Operations are entitled to what they send if all tokens that the tracker keeps were granted. -/
theorem isEntitled_operate {t : Tracker} (h : t.logins.AreGranted record) (operation : Operation)
    (now : UInt64) : (t.operate operation now).IsEntitled IsRight record := by
  rintro log ⟨t', result⟩ hrun
  let act : Act := ⟨operation, now, log, result⟩
  have hrun : (t.operate act.operation act.now).Runs act.log (t', act.result) := hrun
  obtain ⟨d, hd, rfl, rfl, hact⟩ := runs_operate_iff.1 hrun
  obtain ⟨hentitled, hafter⟩ := hd.calls.areEntitled h
  have hresult : d.result = result := congrArg Act.result hact
  have hlog : d.act.log = log := congrArg Act.log hact
  rw [d.transcript_calls, hlog] at hentitled hafter
  refine ⟨hentitled, hafter, fun tx hopened => ?_⟩
  rw [← hlog]
  exact hd.isKept h (hresult.trans hopened)

/-- Connecting is entitled to what it sends, and the tracker keeps what was granted. -/
theorem isEntitled_connect (raw : List String) (interval : Duration)
    (username password : Option String) (saved : Option PeerStatus) (now : UInt64) :
    (connect raw interval (.start username password) saved now).IsEntitled
      (fun record result => ∀ t, result = .ok t → t.logins.AreGranted record) [] := by
  intro log result hrun
  obtain ⟨start, opening, t, hstart, hlog, hcourse, hok⟩ := exists_opening_of_runs_connect hrun
  obtain ⟨deeds, hdeeds, hacts⟩ := exists_chronicle hcourse
  have hbefore : start.logins.AreGranted [] := by
    intro url value hvalue
    rw [hstart, Logins.authorization?_start] at hvalue
    contradiction
  obtain ⟨hentitled, hafter⟩ := hdeeds.calls.areEntitled hbefore
  have hcalls : (deeds.flatMap Deed.calls).flatMap (·.log) = log := by
    rw [← hlog, ← hacts, List.flatMap_map, List.flatMap_assoc]
    simp only [Deed.transcript_calls]
  rw [hcalls] at hentitled hafter
  refine ⟨hentitled, fun t₀ ht₀ => ?_⟩
  rw [← hok t₀ ht₀]
  exact hafter

end Tracker

end FlowPeers
