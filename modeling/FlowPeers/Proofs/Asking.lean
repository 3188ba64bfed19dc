import FlowPeers.Proofs.Transcript
import FlowPeers.Tracker

/-!
# What is asked of a peer

All that is done with a peer is asked with one request, and comes of what is read of the response to
it (`Exchange.ask`). So it takes one exchange at most, and what it gives is told by the reply
(`Exchange.runs_ask_iff`). What the readers below report as a failure is the fault of the peer, so
another one may do better.
-/

namespace FlowPeers

open Dialogue

variable {α β : Type}

namespace Exchange

/-! ## Questions -/

/-- Sends a request, if it could be made, and reads the response to it. -/
def ask (request : Except RequestError Request) (read : Response → Except Failure α) : Exchange α :=
  Exchange.andThen (Exchange.send request) fun response => .done (read response)

/-- Reads a response from the given address if it says success. -/
def ifSuccess (url : String) (read : Response → Except Failure α) (response : Response) :
    Except Failure α :=
  if response.status.isSuccess then read response else .error (.status url response.status)

variable {request : Except RequestError Request} {read : Response → Except Failure α}

/-- Asking for something takes one exchange, and none if the request cannot be made. -/
theorem runs_ask_iff {log : List Exchanged} {result : Except Failure α} :
    (ask request read).Runs log result ↔
      (∃ cause, request = .error cause ∧ log = [] ∧ result = .error (.request cause)) ∨
        ∃ sent reply, request = .ok sent ∧ log = [⟨sent, reply⟩] ∧ result = reply.bind read := by
  rw [ask, runs_andThen_iff]
  constructor
  · rintro (⟨failure, h, rfl⟩ | ⟨log₁, response, log₂, h₁, h₂, rfl⟩)
    · rcases runs_send_iff.1 h with ⟨cause, hreq, hlog, hfail⟩ | ⟨sent, hreq, hlog⟩
      · cases hfail
        exact .inl ⟨cause, hreq, hlog, rfl⟩
      · exact .inr ⟨sent, .error failure, hreq, hlog, rfl⟩
    · obtain ⟨rfl, rfl⟩ := runs_done_iff.1 h₂
      rcases runs_send_iff.1 h₁ with ⟨_, _, _, hfail⟩ | ⟨sent, hreq, rfl⟩
      · contradiction
      · exact .inr ⟨sent, .ok response, hreq, rfl, rfl⟩
  · rintro (⟨cause, hreq, rfl, rfl⟩ | ⟨sent, reply, hreq, rfl, rfl⟩)
    · exact .inl ⟨_, runs_send_iff.2 (.inl ⟨cause, hreq, rfl, rfl⟩), rfl⟩
    · have hsent : (Exchange.send request).Runs [⟨sent, reply⟩] reply :=
        runs_send_iff.2 (.inr ⟨sent, hreq, rfl⟩)
      cases reply with
      | error failure => exact .inl ⟨failure, hsent, rfl⟩
      | ok response => exact .inr ⟨_, response, [], hsent, .done _, rfl⟩

/-- A question takes its request, if it could be made, and no other one. -/
theorem sendsJust_of_runs_ask {log : List Exchanged} {result : Except Failure α}
    (h : (ask request read).Runs log result) : SendsJust (request = .ok ·) log := by
  rcases runs_ask_iff.1 h with ⟨cause, hreq, rfl, -⟩ | ⟨sent, reply, hreq, rfl, -⟩
  · exact .nil fun other => by simp [hreq]
  · exact .singleton (fun other => by simp [hreq, eq_comm]) reply

/-- Asking and going on with what has come of it is asking, if nothing else is sent. -/
theorem andThen_ask {next : α → Exchange β} {read' : α → Except Failure β}
    (hnext : ∀ value, next value = .done (read' value)) :
    Exchange.andThen (ask request read) next =
      ask request fun response => (read response).bind read' := by
  obtain rfl : next = fun value => .done (read' value) := funext hnext
  cases request with
  | error cause => rfl
  | ok sent =>
    refine congrArg (Dialogue.send sent) (funext fun reply => ?_)
    cases reply with
    | error failure => rfl
    | ok response =>
      cases hread : read response with
      | error failure => simp [Dialogue.andThen, hread, Except.bind, fail]
      | ok value => simp [Dialogue.andThen, hread, Except.bind]

theorem map_ask (f : α → β) (request : Except RequestError Request)
    (read : Response → Except Failure α) :
    Dialogue.map (Except.map f) (ask request read) =
      ask request fun response => (read response).map f := by
  cases request with
  | error cause => rfl
  | ok sent =>
    refine congrArg (Dialogue.send sent) (funext fun reply => ?_)
    cases reply <;> rfl

/-- Asking for something that a response without success does not give. -/
theorem ask_ifSuccess (request : Except RequestError Request) (url : String)
    (read : Response → Except Failure α) :
    (Exchange.andThen (Exchange.send request) fun response =>
      Exchange.andThen (Exchange.ensureSuccess url response) fun _ => .done (read response)) =
      ask request (ifSuccess url read) := by
  rw [ask]
  congr 1
  funext response
  rw [ensureSuccess, ifSuccess]
  split <;> rfl

end Exchange

open Exchange

/-! ## Questions to peers -/

/-- What a response serves. -/
def Logins.served (url : String) : Response → Except Failure (List UInt8) :=
  ifSuccess url fun response => readBody url response.body

theorem Logins.fetch_eq_ask (logins : Logins) (peer url : String) : logins.fetch peer url =
    ask (Request.toUrl "GET" url (logins.headers peer) .empty) (served url) :=
  ask_ifSuccess _ _ _

namespace Tracker

/-- The list of peers that a response serves. -/
def listed (url : String) (response : Response) : Except Failure (List Peer) :=
  (Logins.served url response).bind fun body =>
    (PeerList.readPeers? body).elim (.error (.invalidPeerList url)) .ok

theorem fetchPeers_eq_ask (peer : String) (logins : Logins) : fetchPeers peer logins =
    ask (Request.toUrl "GET" (peer ++ peersPath) (logins.headers peer) .empty)
      (listed (peer ++ peersPath)) := by
  rw [fetchPeers, Logins.fetch_eq_ask]
  refine andThen_ask fun body => ?_
  cases PeerList.readPeers? body <;> rfl

/-- Whether a request is the one for the list of the peer of an address. -/
def IsListRequest (url : String) (logins : Logins) (request : Request) : Prop :=
  Request.toUrl "GET" (url ++ peersPath) (logins.headers url) .empty = .ok request

theorem sendsJust_of_runs_fetchPeers {peer : String} {logins : Logins} {log : List Exchanged}
    {result : Except Failure (List Peer)} (h : (fetchPeers peer logins).Runs log result) :
    SendsJust (IsListRequest peer logins) log := by
  rw [fetchPeers_eq_ask] at h
  exact sendsJust_of_runs_ask h

theorem listed_eq_ok_iff {url : String} {response : Response} {peers : List Peer} :
    listed url response = .ok peers ↔ response.status.isSuccess ∧
      ∃ body, response.body.read = .ok body ∧ PeerList.readPeers? body = some peers := by
  rw [listed, Logins.served, ifSuccess, readBody]
  cases response.status.isSuccess with
  | false => simp [Except.bind]
  | true =>
    cases response.body.read with
    | error cause => simp [Except.bind]
    | ok body => cases hpeers : PeerList.readPeers? body <;> simp [Except.bind, hpeers]

/-- A peer serves a list by answering with success and with a list in the body. -/
theorem runs_fetchPeers_ok_iff {peer : String} {logins : Logins} {log : List Exchanged}
    {peers : List Peer} : (fetchPeers peer logins).Runs log (.ok peers) ↔
      ∃ request response body,
        Request.toUrl "GET" (peer ++ peersPath) (logins.headers peer) .empty = .ok request ∧
        log = [⟨request, .ok response⟩] ∧ response.status.isSuccess ∧
        response.body.read = .ok body ∧ PeerList.readPeers? body = some peers := by
  rw [fetchPeers_eq_ask, runs_ask_iff]
  constructor
  · rintro (⟨_, _, _, hok⟩ | ⟨request, reply, hrequest, rfl, hok⟩)
    · contradiction
    · cases reply with
      | error failure => contradiction
      | ok response =>
        obtain ⟨hsuccess, body, hread, hlist⟩ := listed_eq_ok_iff.1 hok.symm
        exact ⟨request, response, body, hrequest, rfl, hsuccess, hread, hlist⟩
  · rintro ⟨request, response, body, hrequest, rfl, hsuccess, hread, hlist⟩
    refine .inr ⟨request, .ok response, hrequest, rfl, ?_⟩
    exact (listed_eq_ok_iff.2 ⟨hsuccess, body, hread, hlist⟩).symm

/-- The identifier of a port that a response serves. -/
def found (url name : String) (response : Response) : Except Failure String :=
  (Logins.served url response).bind fun body =>
    (PortDirectory.identifier? body name).elim (.error (.portNotFound url name)) .ok

theorem resolvePort_eq_ask (name peer : String) (logins : Logins) : resolvePort name peer logins =
    ask (Request.toUrl "GET" (peer ++ portsPath) (logins.headers peer) .empty)
      (found (peer ++ portsPath) name) := by
  rw [resolvePort, Logins.fetch_eq_ask]
  refine andThen_ask fun body => ?_
  cases PortDirectory.identifier? body name <;> rfl

end Tracker

namespace Transaction

/-- What comes of a response to the request for a transaction. -/
def answer (peer port : String) (authorization : Option HeaderValue) (url : Url) :
    Response → Except Failure Transaction :=
  ifSuccess (String.ofList url.print) (ofResponse peer port authorization url)

variable {peer port : String} {authorization : Option HeaderValue}

theorem create_eq_ask {url : Url} (hurl : openUrl peer port = .ok url) :
    create peer authorization port =
      ask (Request.toUrl "POST" (String.ofList url.print) (headers authorization) .empty)
        (answer peer port authorization url) := by
  rw [create, hurl]
  exact ask_ifSuccess _ _ _

/-- To open a transaction takes one request to the URL for the port. -/
theorem runs_create_iff {log : List Exchanged} {result : Except Failure Transaction} :
    (create peer authorization port).Runs log result ↔
      (∃ failure, openUrl peer port = .error failure ∧ log = [] ∧ result = .error failure) ∨
      ∃ url, openUrl peer port = .ok url ∧
        ((∃ cause, Request.toUrl "POST" (String.ofList url.print) (headers authorization) .empty =
            .error cause ∧ log = [] ∧ result = .error (.request cause)) ∨
          ∃ request reply,
            Request.toUrl "POST" (String.ofList url.print) (headers authorization) .empty =
              .ok request ∧ log = [⟨request, reply⟩] ∧
            result = reply.bind (answer peer port authorization url)) := by
  cases hurl : openUrl peer port with
  | error failure =>
    rw [create, hurl]
    simp [Exchange.fail]
  | ok url =>
    rw [create_eq_ask hurl, runs_ask_iff]
    simp

theorem extend_eq_ask (tx : Transaction) : tx.extend =
    ask (Request.toUrl "PUT" tx.url (headers tx.authorization) .empty)
      (ifSuccess tx.url fun _ => .ok ()) := by
  rw [extend, ask]
  congr 1
  funext response
  rw [ensureSuccess, ifSuccess]
  split <;> rfl

/-- To extend a transaction takes one request to where it is. -/
theorem runs_extend_iff {tx : Transaction} {log : List Exchanged} {result : Except Failure Unit} :
    tx.extend.Runs log result ↔
      (∃ cause, Request.toUrl "PUT" tx.url (headers tx.authorization) .empty = .error cause ∧
        log = [] ∧ result = .error (.request cause)) ∨
      ∃ request reply, Request.toUrl "PUT" tx.url (headers tx.authorization) .empty = .ok request ∧
        log = [⟨request, reply⟩] ∧ result = reply.bind fun response =>
          if response.status.isSuccess then .ok () else .error (.status tx.url response.status) := by
  rw [extend_eq_ask, runs_ask_iff]
  rfl

end Transaction

/-! ## Failures that peers are at fault for -/

namespace Exchange

/-- Whether all failures that are read of responses are such that another peer may do better. -/
def BlamesPeers (read : Response → Except Failure α) : Prop :=
  ∀ response failure, read response = .error failure → failure.isRetryable

variable {read : Response → Except Failure α}

theorem BlamesPeers.ifSuccess (h : BlamesPeers read) (url : String) :
    BlamesPeers (ifSuccess url read) := by
  intro response failure hfail
  rw [Exchange.ifSuccess] at hfail
  split at hfail
  · exact h response failure hfail
  · cases hfail
    rfl

theorem BlamesPeers.bind (h : BlamesPeers read) {next : α → Except Failure β}
    (hnext : ∀ value failure, next value = .error failure → failure.isRetryable) :
    BlamesPeers fun response => (read response).bind next := by
  intro response failure hfail
  dsimp only at hfail
  cases hread : read response with
  | error failure' =>
    rw [hread] at hfail
    cases hfail
    exact h response failure hread
  | ok value =>
    rw [hread] at hfail
    exact hnext value failure hfail

theorem BlamesPeers.map (h : BlamesPeers read) (f : α → β) :
    BlamesPeers fun response => (read response).map f := by
  intro response failure hfail
  dsimp only at hfail
  cases hread : read response with
  | error failure' =>
    rw [hread] at hfail
    cases hfail
    exact h response failure hread
  | ok value =>
    rw [hread] at hfail
    contradiction

theorem isRetryable_of_elim {value : Option α} {failure failure' : Failure}
    (h : failure.isRetryable)
    (helim : value.elim (.error failure) .ok = (.error failure' : Except Failure α)) :
    failure'.isRetryable := by
  cases value with
  | none =>
    cases helim
    exact h
  | some value => contradiction

theorem isRetryable_of_readBody {url : String} {body : Body} {failure : Failure}
    (h : readBody url body = .error failure) : failure.isRetryable := by
  rw [readBody] at h
  split at h
  · cases h
    rfl
  · contradiction

end Exchange

theorem Logins.blamesPeers_served (url : String) : BlamesPeers (served url) :=
  BlamesPeers.ifSuccess (fun _ _ => isRetryable_of_readBody) url

theorem Tracker.blamesPeers_listed (url : String) : BlamesPeers (listed url) :=
  (Logins.blamesPeers_served url).bind fun _ _ => isRetryable_of_elim rfl

theorem Tracker.blamesPeers_found (url name : String) : BlamesPeers (found url name) :=
  (Logins.blamesPeers_served url).bind fun _ _ => isRetryable_of_elim rfl

namespace Transaction

/-- Where a response says that a transaction is. -/
def place? (url : Url) (response : Response) : Option Url :=
  (location? response).bind fun location => (url.join location).toOption

/-- A transaction is opened where a response says that one is; a response that does not say it is
reported. -/
theorem ofResponse_cases (peer port : String) (authorization : Option HeaderValue) (url : Url)
    (response : Response) :
    (∃ place tx, place? url response = some place ∧ tx.url = String.ofList place.print ∧
      ofResponse peer port authorization url response = .ok tx) ∨
    (place? url response = none ∧ ∃ reason, ofResponse peer port authorization url response =
      .error (.invalidTransaction (String.ofList url.print) reason)) := by
  rw [place?]
  unfold ofResponse
  dsimp only
  split
  · next hnone => exact .inr ⟨by rw [hnone]; rfl, _, rfl⟩
  · next location hlocation =>
    rw [hlocation, Option.bind_some]
    split
    · next cause hjoin => exact .inr ⟨by rw [hjoin]; rfl, _, rfl⟩
    · next place hjoin => exact .inl ⟨place, _, by rw [hjoin]; rfl, rfl, rfl⟩

theorem blamesPeers_answer (peer port : String) (authorization : Option HeaderValue) (url : Url) :
    BlamesPeers (answer peer port authorization url) := by
  refine BlamesPeers.ifSuccess (fun response failure h => ?_) _
  rcases ofResponse_cases peer port authorization url response with
    ⟨place, tx, -, -, hopened⟩ | ⟨-, reason, hreported⟩
  · rw [hopened] at h
    contradiction
  · rw [hreported] at h
    cases h
    rfl

end Transaction

end FlowPeers
