import FlowPeers.Proofs.History

/-!
# Calls and tokens

A call is what is done with one peer in the course of an operation: the login to it, if one is due,
and the request that the operation takes. In every run of a tracker the calls follow one another
(`Calls`), and each is proper (`Call.IsProper`): it begins with a request for a token if there is
somebody to log in and no token is kept for the peer; it ends with that if no token is granted; and
otherwise it sends the request that the operation takes, if this can be made, and nothing else. This
request carries the token that is kept for the peer and no other.

What is kept for an address is therefore what calls to this address have gained
(`Calls.authorization?_eq_some_iff`), and nobody logs in to a peer twice.
-/

namespace FlowPeers

open Dialogue

variable {α : Type}

/-! ## Requests -/

namespace Request

/-- The authorizations that a request carries. -/
def authorizations (request : Request) : List HeaderValue :=
  (request.headers.filter (·.name == "authorization")).map (·.value)

theorem eq_of_toUrl_eq_ok {method url : String} {headers : List Header} {body : Body}
    {request : Request} (h : toUrl method url headers body = .ok request) :
    ∃ target, Target.read url.toList = .ok target ∧
      request = { method := method, target := target, headers := headers, body := body } := by
  rw [toUrl] at h
  split at h
  · contradiction
  · next target htarget => exact ⟨target, htarget, (Except.ok.inj h).symm⟩

/-- Of the headers of a request only the last one, if it is there, is an authorization. -/
theorem authorizations_eq_of_toUrl {method url : String} {headers : List Header} {body : Body}
    {authorization : Option HeaderValue} {request : Request}
    (hothers : ∀ header ∈ headers, header.name ≠ "authorization")
    (h : toUrl method url (headers ++ authorization.toList.map Logins.header) body = .ok request) :
    request.authorizations = authorization.toList := by
  obtain ⟨target, -, rfl⟩ := eq_of_toUrl_eq_ok h
  have hnone : headers.filter (·.name == "authorization") = [] := by
    simpa [List.filter_eq_nil_iff] using hothers
  rw [authorizations, List.filter_append, hnone, List.nil_append]
  cases authorization <;> rfl

/-- A request about a transaction carries the authorization of the transaction, and no other. -/
theorem authorizations_eq_of_transaction {method url : String} {body : Body}
    {authorization : Option HeaderValue} {request : Request}
    (h : toUrl method url (Transaction.headers authorization) body = .ok request) :
    request.authorizations = authorization.toList :=
  authorizations_eq_of_toUrl (by simp [Transaction.versionHeader]) h

end Request

/-- Whether a request is the one that an operation takes with the peer of an address, under the
authorization that is kept for it. -/
def Operation.IsRequest (url : String) (authorization : Option HeaderValue) (request : Request) :
    Operation → Prop
  | .refresh => Request.toUrl "GET" (url ++ Tracker.peersPath)
      (authorization.toList.map Logins.header) .empty = .ok request
  | .resolvePort _ => Request.toUrl "GET" (url ++ Tracker.portsPath)
      (authorization.toList.map Logins.header) .empty = .ok request
  | .openTransaction port => ∃ place, Transaction.openUrl url port = .ok place ∧
      Request.toUrl "POST" (String.ofList place.print) (Transaction.headers authorization) .empty =
        .ok request

namespace Operation

variable {operation : Operation} {url : String} {authorization : Option HeaderValue}
  {request : Request}

/-- Requests carry the authorization that is kept, and no other. -/
theorem IsRequest.authorizations_eq (h : operation.IsRequest url authorization request) :
    request.authorizations = authorization.toList := by
  cases operation with
  | refresh => exact Request.authorizations_eq_of_toUrl (List.forall_mem_nil _) h
  | resolvePort name => exact Request.authorizations_eq_of_toUrl (List.forall_mem_nil _) h
  | openTransaction port =>
    obtain ⟨place, -, h⟩ := h
    exact Request.authorizations_eq_of_transaction h

/-- No operation takes a request for a token. -/
theorem IsRequest.tokenRequest_ne (h : operation.IsRequest url authorization request)
    (credentials : Credentials) (other : String) :
    Logins.tokenRequest credentials other ≠ .ok request := by
  intro htoken
  obtain ⟨target, -, rfl⟩ := Request.eq_of_toUrl_eq_ok htoken
  cases operation with
  | refresh =>
    obtain ⟨target', -, heq⟩ := Request.eq_of_toUrl_eq_ok h
    simp at heq
  | resolvePort name =>
    obtain ⟨target', -, heq⟩ := Request.eq_of_toUrl_eq_ok h
    simp at heq
  | openTransaction port =>
    obtain ⟨place, -, h⟩ := h
    obtain ⟨target', -, heq⟩ := Request.eq_of_toUrl_eq_ok h
    simp [Transaction.headers, Transaction.versionHeader] at heq

end Operation

namespace Logins

/-- Whether a reply to the request for a token grants an authorization: it says success, its body is
read, and the bearer of the text in it may stand in a header. -/
def Grants (reply : Reply) (value : HeaderValue) : Prop :=
  ∃ response token plain, reply = .ok response ∧ response.status.isSuccess ∧
    response.body.read = .ok token ∧
    HeaderValue.ofText? ("Bearer ".toList ++ Text.decodeLossy token) = some plain ∧
    value = { plain with sensitive := true }

theorem Grants.unique {reply : Reply} {value value' : HeaderValue} (h : Grants reply value)
    (h' : Grants reply value') : value = value' := by
  obtain ⟨response, token, plain, rfl, -, hread, hplain, rfl⟩ := h
  obtain ⟨response', token', plain', heq, -, hread', hplain', rfl⟩ := h'
  cases heq
  rw [hread] at hread'
  cases hread'
  rw [hplain] at hplain'
  cases hplain'
  rfl

theorem readToken_eq_ok_iff {reply : Reply} {url : String} {value : HeaderValue} :
    reply.bind (readToken url) = .ok value ↔ Grants reply value := by
  have hbearer : ∀ token, bearer? token = some value ↔
      ∃ plain, HeaderValue.ofText? ("Bearer ".toList ++ Text.decodeLossy token) = some plain ∧
        value = { plain with sensitive := true } := by
    intro token
    rw [bearer?, Option.map_eq_some_iff]
    simp only [eq_comm]
  cases reply with
  | error failure => simp [Except.bind, Grants]
  | ok response =>
    simp only [Except.bind, readToken, Exchange.readBody]
    cases hsuccess : response.status.isSuccess with
    | false => simp [Grants, hsuccess]
    | true =>
      cases hbody : response.body.read with
      | error cause => simp [Grants, hbody]
      | ok token =>
        have hgrants : Grants (.ok response) value ↔ bearer? token = some value := by
          rw [hbearer, Grants]
          constructor
          · rintro ⟨response', token', plain, heq, -, hread, hplain⟩
            cases heq
            rw [hbody] at hread
            cases hread
            exact ⟨plain, hplain⟩
          · rintro ⟨plain, hplain⟩
            exact ⟨response, token, plain, rfl, hsuccess, hbody, hplain⟩
        rw [hgrants]
        cases htoken : bearer? token <;> simp [htoken]

theorem authorizations_tokenRequest {credentials : Credentials} {url : String} {request : Request}
    (h : tokenRequest credentials url = .ok request) : request.authorizations = [] := by
  obtain ⟨target, -, rfl⟩ := Request.eq_of_toUrl_eq_ok h
  simp [Request.authorizations]

end Logins

/-! ## Calls -/

/-- What is done with a peer in the course of an operation. -/
structure Call where
  /-- The operation, which is to refresh also while another one waits for that. -/
  purpose : Operation
  /-- The address of the peer. -/
  url : String
  /-- The logins before it. -/
  before : Logins
  /-- What is exchanged. -/
  log : List Exchanged
  /-- The logins after it. -/
  after : Logins

namespace Call

/-- Whether just the request is sent that the purpose of a call takes under an authorization. -/
def IsWork (c : Call) (authorization : Option HeaderValue) (work : List Exchanged) : Prop :=
  SendsJust (fun request => c.purpose.IsRequest c.url authorization request) work

/-- The ways in which a call goes. -/
inductive IsProper (c : Call) : Prop
  /-- Nobody has to log in. -/
  | known (hlogin : c.before.authorization? c.url ≠ none ∨ c.before.credentials = none)
      (hafter : c.after = c.before) (hwork : c.IsWork (c.before.authorization? c.url) c.log)
  /-- The request for a token cannot be made. -/
  | unable {credentials : Credentials} {cause : RequestError}
      (hnone : c.before.authorization? c.url = none)
      (hsome : c.before.credentials = some credentials)
      (hrequest : Logins.tokenRequest credentials c.url = .error cause) (hlog : c.log = [])
      (hafter : c.after = c.before)
  /-- A token is asked for and not granted. -/
  | refused {credentials : Credentials} {request : Request} {reply : Reply}
      (hnone : c.before.authorization? c.url = none)
      (hsome : c.before.credentials = some credentials)
      (hrequest : Logins.tokenRequest credentials c.url = .ok request)
      (hlog : c.log = [⟨request, reply⟩]) (hrefused : ∀ value, ¬ Logins.Grants reply value)
      (hafter : c.after = c.before)
  /-- A token is asked for and granted. -/
  | granted {credentials : Credentials} {request : Request} {reply : Reply} {value : HeaderValue}
      {work : List Exchanged} (hnone : c.before.authorization? c.url = none)
      (hsome : c.before.credentials = some credentials)
      (hrequest : Logins.tokenRequest credentials c.url = .ok request)
      (hlog : c.log = ⟨request, reply⟩ :: work) (hgranted : Logins.Grants reply value)
      (hafter : c.after = c.before.gain c.url value) (hwork : c.IsWork (some value) work)

/-- Whether a call asks for a token and is granted an authorization. -/
def Gains (c : Call) (value : HeaderValue) : Prop :=
  ∃ credentials request reply work, c.before.credentials = some credentials ∧
    Logins.tokenRequest credentials c.url = .ok request ∧ c.log = ⟨request, reply⟩ :: work ∧
    Logins.Grants reply value

variable {c : Call}

theorem IsWork.not_gains {authorization : Option HeaderValue} (h : c.IsWork authorization c.log)
    (value : HeaderValue) : ¬ c.Gains value := by
  rintro ⟨credentials, request, reply, work, -, hrequest, hlog, -⟩
  have hwork := h.of_mem (x := ⟨request, reply⟩) (by rw [hlog]; exact List.mem_cons_self ..)
  exact hwork.tokenRequest_ne credentials c.url hrequest

/-- A call keeps what was kept before, and what it gains. -/
theorem IsProper.authorization?_eq_some_iff (h : c.IsProper) {url : String} {value : HeaderValue} :
    c.after.authorization? url = some value ↔
      c.before.authorization? url = some value ∨ (c.url = url ∧ c.Gains value) := by
  cases h with
  | known hlogin hafter hwork => simp [hafter, hwork.not_gains]
  | @unable credentials cause hnone hsome hrequest hlog hafter =>
    have hgains : ¬ c.Gains value := by
      rintro ⟨_, request, reply, work, -, -, hlog', -⟩
      rw [hlog] at hlog'
      contradiction
    simp [hafter, hgains]
  | @refused credentials request reply hnone hsome hrequest hlog hrefused hafter =>
    have hgains : ¬ c.Gains value := by
      rintro ⟨_, _, _, _, -, -, hlog', hgranted⟩
      rw [hlog] at hlog'
      cases hlog'
      exact hrefused value hgranted
    simp [hafter, hgains]
  | @granted credentials request reply value' work hnone hsome hrequest hlog hgranted hafter hwork =>
    have hgains : c.Gains value ↔ value = value' := by
      constructor
      · rintro ⟨_, _, _, _, -, -, hlog', hgranted'⟩
        rw [hlog] at hlog'
        cases hlog'
        exact hgranted'.unique hgranted
      · rintro rfl
        exact ⟨credentials, request, reply, work, hsome, hrequest, hlog, hgranted⟩
    rw [hafter, Logins.authorization?_gain, hgains]
    by_cases hurl : url = c.url
    · subst hurl
      simp [hnone, eq_comm]
    · simp [hurl, Ne.symm hurl]

theorem IsProper.credentials_eq (h : c.IsProper) : c.after.credentials = c.before.credentials := by
  cases h with
  | known hlogin hafter hwork => rw [hafter]
  | unable hnone hsome hrequest hlog hafter => rw [hafter]
  | refused hnone hsome hrequest hlog hrefused hafter => rw [hafter]
  | granted hnone hsome hrequest hlog hgranted hafter hwork =>
    rw [hafter]
    rfl

theorem IsProper.keeps (h : c.IsProper) : c.before.Keeps c.after where
  credentials := h.credentials_eq
  tokens := fun _ _ hkept => h.authorization?_eq_some_iff.2 (.inl hkept)

/-- Without anybody to log in a call is the request that it was made for, or nothing. -/
theorem IsProper.isWork_of_credentials (h : c.IsProper) (hnobody : c.before.credentials = none) :
    c.after = c.before ∧ c.IsWork (c.before.authorization? c.url) c.log := by
  cases h with
  | known hlogin hafter hwork => exact ⟨hafter, hwork⟩
  | unable hnone hsome | refused hnone hsome | granted hnone hsome =>
    rw [hnobody] at hsome
    contradiction

/-- Every request of a call is the one for a token, without any authorization, or the one that the
call was made for, with what is kept for the peer. -/
theorem IsProper.request_cases (h : c.IsProper) {x : Exchanged} (hx : x ∈ c.log) :
    (∃ credentials, c.before.credentials = some credentials ∧
        Logins.tokenRequest credentials c.url = .ok x.request ∧ x.request.authorizations = []) ∨
      (c.purpose.IsRequest c.url (c.after.authorization? c.url) x.request ∧
        x.request.authorizations = (c.after.authorization? c.url).toList) := by
  have hentry : ∀ {credentials : Credentials} {request : Request},
      c.before.credentials = some credentials →
      Logins.tokenRequest credentials c.url = .ok request →
      ∃ credentials, c.before.credentials = some credentials ∧
        Logins.tokenRequest credentials c.url = .ok request ∧ request.authorizations = [] :=
    fun hsome hrequest => ⟨_, hsome, hrequest, Logins.authorizations_tokenRequest hrequest⟩
  cases h with
  | known hlogin hafter hwork =>
    have hrequest := hwork.of_mem hx
    rw [hafter]
    exact .inr ⟨hrequest, hrequest.authorizations_eq⟩
  | unable hnone hsome hrequest hlog hafter =>
    rw [hlog] at hx
    contradiction
  | refused hnone hsome hrequest hlog hrefused hafter =>
    rw [hlog, List.mem_singleton] at hx
    subst hx
    exact .inl (hentry hsome hrequest)
  | granted hnone hsome hrequest hlog hgranted hafter hwork =>
    rw [hlog] at hx
    rcases List.mem_cons.1 hx with rfl | hx
    · exact .inl (hentry hsome hrequest)
    · have hkept := hwork.of_mem hx
      rw [hafter, Logins.authorization?_gain, if_pos rfl]
      exact .inr ⟨hkept, hkept.authorizations_eq⟩

/-- When a token is kept for the peer a call is the request that it was made for, or nothing. -/
theorem IsProper.isWork (h : c.IsProper) {value : HeaderValue}
    (hvalue : c.before.authorization? c.url = some value) :
    c.after = c.before ∧ c.IsWork (some value) c.log := by
  cases h with
  | known hlogin hafter hwork => exact ⟨hafter, hvalue ▸ hwork⟩
  | unable hnone | refused hnone | granted hnone =>
    rw [hvalue] at hnone
    contradiction

end Call

/-! ## Calls one after the other -/

/-- Proper calls that lead from some logins to others. -/
inductive Calls : Logins → List Call → Logins → Prop
  | nil (logins : Logins) : Calls logins [] logins
  | cons {c : Call} {calls : List Call} {after : Logins} (hc : c.IsProper)
      (later : Calls c.after calls after) : Calls c.before (c :: calls) after

namespace Calls

variable {a b : Logins} {calls calls' : List Call}

theorem append {b' : Logins} (h : Calls a calls b) (h' : Calls b calls' b') :
    Calls a (calls ++ calls') b' := by
  induction h with
  | nil logins => exact h'
  | cons hc later ih => exact .cons hc (ih h')

theorem of_append (h : Calls a (calls ++ calls') b) : ∃ m, Calls a calls m ∧ Calls m calls' b := by
  induction calls generalizing a with
  | nil => exact ⟨a, .nil a, h⟩
  | cons c rest ih =>
    cases h with
    | cons hc later =>
      obtain ⟨m, hrest, hlater⟩ := ih later
      exact ⟨m, .cons hc hrest, hlater⟩

/-- What comes before a call, the call itself, and what comes after it. -/
theorem of_split {past later : List Call} {c : Call} (h : Calls a (past ++ c :: later) b) :
    Calls a past c.before ∧ c.IsProper ∧ Calls c.after later b := by
  obtain ⟨m, hpast, hlater⟩ := of_append h
  cases hlater with
  | cons hc hlater => exact ⟨hpast, hc, hlater⟩

theorem keeps (h : Calls a calls b) : a.Keeps b := by
  induction h with
  | nil logins => exact .refl logins
  | cons hc later ih => exact hc.keeps.trans ih

theorem of_mem (h : Calls a calls b) {c : Call} (hc : c ∈ calls) : a.Keeps c.before ∧ c.IsProper := by
  obtain ⟨past, later, rfl⟩ := List.append_of_mem hc
  obtain ⟨hpast, hproper, -⟩ := h.of_split
  exact ⟨hpast.keeps, hproper⟩

/-- What is kept after some calls was kept before, or a call to the same address has gained it. -/
theorem authorization?_eq_some_iff (h : Calls a calls b) {url : String} {value : HeaderValue} :
    b.authorization? url = some value ↔
      a.authorization? url = some value ∨ ∃ c ∈ calls, c.url = url ∧ c.Gains value := by
  induction h with
  | nil logins => simp
  | cons hc later ih => rw [ih, hc.authorization?_eq_some_iff, List.exists_mem_cons_iff, or_assoc]

/-- Once a token is kept for a peer nobody logs in to it again. -/
theorem isWork_of_authorization? (h : Calls a calls b) {url : String} {value : HeaderValue}
    (hvalue : a.authorization? url = some value) {c : Call} (hc : c ∈ calls) (hurl : c.url = url) :
    c.after = c.before ∧ c.IsWork (some value) c.log := by
  obtain ⟨hkeeps, hproper⟩ := h.of_mem hc
  subst hurl
  exact hproper.isWork (hkeeps.tokens _ _ hvalue)

/-- Without anybody to log in nothing is gained. -/
theorem eq_of_credentials (h : Calls a calls b) (hnobody : a.credentials = none) : b = a := by
  induction h with
  | nil logins => rfl
  | cons hc later ih =>
    have hafter := (hc.isWork_of_credentials hnobody).1
    exact (ih (hc.credentials_eq.trans hnobody)).trans hafter

theorem isWork_of_credentials (h : Calls a calls b) (hnobody : a.credentials = none) {c : Call}
    (hc : c ∈ calls) : c.IsWork (a.authorization? c.url) c.log := by
  obtain ⟨past, later, rfl⟩ := List.append_of_mem hc
  obtain ⟨hpast, hproper, -⟩ := h.of_split
  have hbefore := hpast.eq_of_credentials hnobody
  have hwork := hproper.isWork_of_credentials (hbefore ▸ hnobody)
  rw [hbefore] at hwork
  exact hwork.2

end Calls

/-! ## The calls of an operation -/

/-- The call that a visit is. -/
def Visit.call (purpose : Operation) (v : Visit α) : Call :=
  ⟨purpose, v.url, v.before, v.log, v.after⟩

/-- A visit is a proper call if its action takes the request of its purpose and no other one. -/
theorem Visit.IsOf.isProper {action : Tracker.Action α} {purpose : Operation} {v : Visit α}
    (h : v.IsOf action)
    (haction : ∀ logins log result, (action v.url logins).Runs log result →
      SendsJust (fun request => purpose.IsRequest v.url (logins.authorization? v.url) request)
        log) :
    (v.call purpose).IsProper := by
  rcases Logins.runs_visit_iff.1 h with ⟨failure, hlogin, hafter, -⟩ | ⟨entry, work, hlogin, hrun, hlog⟩
  · rcases Logins.runs_login_iff.1 hlogin with ⟨-, -, hok⟩ | ⟨credentials, hnone, hsome, hobtain⟩
    · contradiction
    · rcases Logins.runs_obtain_iff.1 hobtain with
        ⟨cause, hrequest, hlog, -⟩ | ⟨request, reply, hrequest, hlog, hresult⟩
      · exact .unable hnone hsome hrequest hlog hafter
      · refine .refused hnone hsome hrequest hlog (fun value hgrants => ?_) hafter
        rw [Logins.readToken_eq_ok_iff.2 hgrants] at hresult
        contradiction
  · have hwork := haction v.after work v.result hrun
    rcases Logins.runs_login_iff.1 hlogin with ⟨hknown, rfl, hok⟩ | ⟨credentials, hnone, hsome, hobtain⟩
    · have hafter : v.after = v.before := Except.ok.inj hok
      refine .known hknown hafter ?_
      rw [hafter] at hwork
      rw [Call.IsWork, show (v.call purpose).log = work from hlog]
      exact hwork
    · rcases Logins.runs_obtain_iff.1 hobtain with
        ⟨_, _, _, hfail⟩ | ⟨request, reply, hrequest, rfl, hresult⟩
      · contradiction
      · cases htoken : reply.bind (Logins.readToken (v.url ++ Logins.tokenPath)) with
        | error failure =>
          rw [htoken] at hresult
          contradiction
        | ok value =>
          rw [htoken] at hresult
          have hafter : v.after = v.before.gain v.url value := Except.ok.inj hresult
          refine .granted hnone hsome hrequest hlog (Logins.readToken_eq_ok_iff.1 htoken) hafter ?_
          rw [hafter, Logins.authorization?_gain, if_pos rfl] at hwork
          exact hwork

/-- Visits are calls one after the other. -/
theorem Visits.calls {action : Tracker.Action α} {purpose : Operation} {logins : Logins}
    {urls : List String} {visits : List (Visit α)} (h : Visits action logins urls visits)
    (haction : ∀ url logins log result, (action url logins).Runs log result →
      SendsJust (fun request => purpose.IsRequest url (logins.authorization? url) request) log) :
    Calls logins (visits.map (·.call purpose)) (Visit.finalLogins logins visits) := by
  induction h with
  | none logins => exact .nil logins
  | @success logins url rest v hv hbefore hurl hresult =>
    subst hbefore
    exact .cons (hv.isProper (haction v.url)) (.nil _)
  | @failure logins url rest v visits hv hbefore hurl hresult later ih =>
    subst hbefore
    rw [Visit.finalLogins_cons]
    exact .cons (hv.isProper (haction v.url)) ih

/-- What an errand does with a peer takes the request of its operation. -/
theorem Errand.sendsJust_of_runs_action_operation (errand : Errand) {url : String} {logins : Logins}
    {log : List Exchanged} {result : Except Failure Answer}
    (h : (errand.action url logins).Runs log result) :
    SendsJust (fun request =>
      errand.operation.IsRequest url (logins.authorization? url) request) log := by
  have hsends := Errand.sendsJust_of_runs_action h
  cases errand with
  | resolvePort name => exact hsends
  | openTransaction port => exact hsends

namespace Deed

variable {d : Deed}

/-- The calls of an operation: those in which the peers were asked for their list, and those in which
it was tried. -/
def calls (d : Deed) : List Call :=
  d.asked.map (·.call .refresh) ++ d.tried.map (·.call d.operation)

theorem transcript_calls (d : Deed) : d.calls.flatMap (·.log) = d.act.log := by
  simp [calls, act, Visit.transcript, Visit.call, List.flatMap_append, List.flatMap_map]

theorem refreshed_logins (d : Deed) :
    d.refreshed.logins = Visit.finalLogins d.before.logins d.asked :=
  Tracker.afterAsking_logins ..

/-- What an operation does consists of calls one after the other. -/
theorem Occurs.calls (h : d.Occurs) : Calls d.before.logins d.calls d.after.logins := by
  have hasked : Calls d.before.logins (d.asked.map (·.call .refresh)) d.refreshed.logins := by
    rw [refreshed_logins]
    rcases h.asked with hnone | hasked
    · rw [hnone]
      exact .nil _
    · exact hasked.calls fun url logins log result => Tracker.sendsJust_of_runs_fetchPeers
  have htried : Calls d.refreshed.logins (d.tried.map (·.call d.operation))
      (Visit.finalLogins d.refreshed.logins d.tried) := by
    rcases h.tried with hnone | ⟨errand, hoperation, htried⟩
    · rw [hnone]
      exact .nil _
    · rw [hoperation]
      exact htried.calls fun url logins log result => errand.sendsJust_of_runs_action_operation
  rw [h.after_eq]
  exact hasked.append htried

end Deed

theorem Tracker.Chronicle.calls {start t : Tracker} {deeds : List Deed}
    (h : Chronicle start deeds t) : Calls start.logins (deeds.flatMap Deed.calls) t.logins := by
  induction h with
  | rest => exact .nil _
  | step chronicle occurs ih =>
    rw [List.flatMap_append, List.flatMap_singleton]
    exact ih.append occurs.calls

end FlowPeers
