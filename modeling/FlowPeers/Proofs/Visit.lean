import FlowPeers.Proofs.Asking

/-!
# Visits to peers

Whatever is done with a peer is done in a visit, `Logins.visit`: a login if one is due and then an
action. A `Visit` is the record of one, and `Visits` are those that a list of addresses gets until
one succeeds, each with the logins that the one before has left.

* A visit sends one request to log in if somebody can log in and no token is kept for the address,
  then the request of its action unless that login fails, and nothing else (`Visit.IsOf.sends`).
* The addresses are visited in order and each once; all visits but the last fail, and if the last
  one fails no address is left (`Visits.urls_eq_take`, `Visits.eq_failures_append`).
* Logins only gain tokens (`Visits.keeps`).
-/

namespace FlowPeers

open Dialogue

variable {α β : Type}

/-! ## Logging in -/

namespace Logins

/-- What an exchange with a peer never takes away: the credentials and the tokens that are kept. -/
structure Keeps (before after : Logins) : Prop where
  credentials : after.credentials = before.credentials
  tokens : ∀ url value, before.authorization? url = some value →
    after.authorization? url = some value

theorem Keeps.refl (logins : Logins) : Keeps logins logins :=
  ⟨rfl, fun _ _ h => h⟩

theorem Keeps.trans {a b c : Logins} (hab : Keeps a b) (hbc : Keeps b c) : Keeps a c where
  credentials := hbc.credentials.trans hab.credentials
  tokens := fun url value h => hbc.tokens url value (hab.tokens url value h)

/-- The logins with another token. -/
def gain (logins : Logins) (url : String) (value : HeaderValue) : Logins :=
  { logins with tokens := (url, value) :: logins.tokens }

theorem authorization?_gain (logins : Logins) (url : String) (value : HeaderValue)
    (other : String) : (logins.gain url value).authorization? other =
      if other = url then some value else logins.authorization? other := by
  rw [authorization?, gain, List.lookup_cons]
  by_cases h : other = url
  · simp [h]
  · rw [if_neg h, beq_eq_false_iff_ne.2 h]
    rfl

theorem keeps_gain {logins : Logins} {url : String} (h : logins.authorization? url = none)
    (value : HeaderValue) : Keeps logins (logins.gain url value) where
  credentials := rfl
  tokens := by
    intro other kept hkept
    rw [authorization?_gain, if_neg]
    · exact hkept
    · rintro rfl
      rw [h] at hkept
      contradiction

theorem obtain_eq_ask (logins : Logins) (credentials : Credentials) (url : String) :
    logins.obtain credentials url = Exchange.ask (tokenRequest credentials url) fun response =>
      (readToken (url ++ tokenPath) response).map (logins.gain url) := by
  rw [obtain, Exchange.ask]
  congr 1
  funext response
  cases readToken (url ++ tokenPath) response <;> rfl

/-- Asking for a token takes one exchange at most, and the token is kept if the reply has one. -/
theorem runs_obtain_iff {logins : Logins} {credentials : Credentials} {url : String}
    {log : List Exchanged} {result : Except Failure Logins} :
    (logins.obtain credentials url).Runs log result ↔
      (∃ cause, tokenRequest credentials url = .error cause ∧ log = [] ∧
        result = .error (.request cause)) ∨
      ∃ request reply, tokenRequest credentials url = .ok request ∧ log = [⟨request, reply⟩] ∧
        result = (reply.bind (readToken (url ++ tokenPath))).map (logins.gain url) := by
  have hbind : ∀ reply : Reply,
      reply.bind (fun response => (readToken (url ++ tokenPath) response).map (logins.gain url)) =
        (reply.bind (readToken (url ++ tokenPath))).map (logins.gain url) := by
    intro reply
    cases reply <;> rfl
  rw [obtain_eq_ask, Exchange.runs_ask_iff]
  simp only [hbind]

/-- A login asks for a token if there is somebody to log in and no token yet. -/
theorem runs_login_iff {logins : Logins} {url : String} {log : List Exchanged}
    {result : Except Failure Logins} : (logins.login url).Runs log result ↔
      ((logins.authorization? url ≠ none ∨ logins.credentials = none) ∧ log = [] ∧
        result = .ok logins) ∨
      ∃ credentials, logins.authorization? url = none ∧ logins.credentials = some credentials ∧
        (logins.obtain credentials url).Runs log result := by
  rw [login]
  cases hvalue : logins.authorization? url with
  | some value => simp [Exchange.pure]
  | none =>
    cases hcredentials : logins.credentials with
    | none => simp [Exchange.pure]
    | some credentials => simp

/-- Whether a request is the one for a token, with a login to the peer of an address being due. -/
def IsEntry (logins : Logins) (url : String) (request : Request) : Prop :=
  ∃ credentials, logins.credentials = some credentials ∧ logins.authorization? url = none ∧
    tokenRequest credentials url = .ok request

/-- A login takes the request for a token, if it is due and this could be made, and no other one. -/
theorem sendsJust_of_runs_login {logins : Logins} {url : String} {log : List Exchanged}
    {result : Except Failure Logins} (h : (logins.login url).Runs log result) :
    SendsJust (logins.IsEntry url) log := by
  rcases runs_login_iff.1 h with ⟨hknown, rfl, -⟩ | ⟨credentials, hnone, hsome, h⟩
  · refine .nil ?_
    rintro request ⟨credentials, hsome, hnone, -⟩
    rcases hknown with hkept | hnobody
    · exact hkept hnone
    · rw [hsome] at hnobody
      contradiction
  · have hentry : ∀ request, logins.IsEntry url request ↔
        tokenRequest credentials url = .ok request := by
      simp [IsEntry, hsome, hnone]
    rcases runs_obtain_iff.1 h with ⟨cause, hreq, rfl, -⟩ | ⟨request, reply, hreq, rfl, -⟩
    · exact .nil fun other => by simp [hentry, hreq]
    · exact .singleton (fun other => by simp [hentry, hreq, eq_comm]) reply

theorem keeps_of_runs_login {logins logins' : Logins} {url : String} {log : List Exchanged}
    (h : (logins.login url).Runs log (.ok logins')) : Keeps logins logins' := by
  rcases runs_login_iff.1 h with ⟨-, -, hok⟩ | ⟨credentials, hnone, -, h⟩
  · cases hok
    exact .refl logins
  · rcases runs_obtain_iff.1 h with ⟨_, _, _, hfail⟩ | ⟨request, reply, -, -, hok⟩
    · contradiction
    · cases htoken : reply.bind (readToken (url ++ tokenPath)) with
      | error failure =>
        rw [htoken] at hok
        contradiction
      | ok value =>
        rw [htoken] at hok
        cases hok
        exact keeps_gain hnone value

/-- In a visit the action comes after the login, and only if that has succeeded. -/
theorem runs_visit_iff {logins logins' : Logins} {url : String} {action : Logins → Exchange α}
    {log : List Exchanged} {result : Except Failure α} :
    (logins.visit url action).Runs log (logins', result) ↔
      (∃ failure, (logins.login url).Runs log (.error failure) ∧ logins' = logins ∧
        result = .error failure) ∨
      ∃ log₁ log₂, (logins.login url).Runs log₁ (.ok logins') ∧
        (action logins').Runs log₂ result ∧ log = log₁ ++ log₂ := by
  rw [visit, runs_andThen_iff]
  constructor
  · rintro ⟨log₁, value, log₂, h₁, h₂, rfl⟩
    cases value with
    | error failure =>
      obtain ⟨rfl, heq⟩ := runs_done_iff.1 h₂
      cases heq
      exact .inl ⟨failure, by rwa [List.append_nil], rfl, rfl⟩
    | ok value =>
      obtain ⟨result, h₂, heq⟩ := runs_map_iff.1 h₂
      cases heq
      exact .inr ⟨log₁, log₂, h₁, h₂, rfl⟩
  · rintro (⟨failure, h, rfl, rfl⟩ | ⟨log₁, log₂, h₁, h₂, rfl⟩)
    · exact ⟨log, .error failure, [], h, .done _, (List.append_nil log).symm⟩
    · exact ⟨log₁, .ok logins', log₂, h₁, runs_map_iff.2 ⟨result, h₂, rfl⟩, rfl⟩

/-- What becomes of the result of the action becomes of the result of the visit. -/
theorem visit_map (f : Except Failure α → Except Failure β)
    (hf : ∀ failure, f (.error failure) = .error failure) (logins : Logins) (url : String)
    (action : Logins → Exchange α) :
    logins.visit url (fun logins => Dialogue.map f (action logins)) =
      Dialogue.map (fun (logins, result) => (logins, f result)) (logins.visit url action) := by
  rw [visit, visit, map_andThen]
  congr 1
  funext result
  cases result with
  | error failure => simp [hf]
  | ok logins =>
    simp only [Dialogue.map, andThen_assoc]
    rfl

end Logins

/-! ## Records of visits -/

/-- The record of a visit. -/
structure Visit (α : Type) where
  /-- The address of the peer. -/
  url : String
  /-- The logins before it. -/
  before : Logins
  /-- What was exchanged. -/
  log : List Exchanged
  /-- The logins after it. -/
  after : Logins
  /-- What came of it. -/
  result : Except Failure α

namespace Visit

/-- Whether the visit went as one for an action can go. -/
def IsOf (action : Tracker.Action α) (v : Visit α) : Prop :=
  (v.before.visit v.url (action v.url)).Runs v.log (v.after, v.result)

/-- Whether the visit was in vain. -/
def hasFailed (v : Visit α) : Bool :=
  match v.result with
  | .error _ => true
  | .ok _ => false

theorem hasFailed_iff {v : Visit α} : v.hasFailed ↔ ∃ failure, v.result = .error failure := by
  cases hresult : v.result <;> simp [hasFailed, hresult]

theorem hasFailed_eq_false_iff {v : Visit α} :
    v.hasFailed = false ↔ ∃ value, v.result = .ok value := by
  cases hresult : v.result <;> simp [hasFailed, hresult]

theorem IsOf.keeps {action : Tracker.Action α} {v : Visit α} (h : v.IsOf action) :
    v.before.Keeps v.after := by
  rcases Logins.runs_visit_iff.1 h with ⟨_, _, hafter, _⟩ | ⟨_, _, hlogin, _, _⟩
  · rw [hafter]
    exact .refl _
  · exact Logins.keeps_of_runs_login hlogin

/-- Whether a visit sends what is wanted and nothing else: first the request for a token, if a login
is due and this request can be made; and then, if the login has succeeded or was not due, the request
that is wanted with the logins afterwards, if it can be made. -/
def Sends (wanted : Logins → Request → Prop) (v : Visit α) : Prop :=
  ∃ entry work, v.log = entry ++ work ∧ SendsJust (v.before.IsEntry v.url) entry ∧
    SendsJust (fun request => (v.before.login v.url).Runs entry (.ok v.after) ∧
      wanted v.after request) work

theorem IsOf.sends {action : Tracker.Action α} {wanted : Logins → Request → Prop} {v : Visit α}
    (h : v.IsOf action) (haction : ∀ log result, (action v.url v.after).Runs log result →
      SendsJust (wanted v.after) log) : v.Sends wanted := by
  rcases Logins.runs_visit_iff.1 h with ⟨failure, hlogin, -, -⟩ | ⟨entry, work, hlogin, hrun, hlog⟩
  · refine ⟨v.log, [], (List.append_nil _).symm, Logins.sendsJust_of_runs_login hlogin, .nil ?_⟩
    rintro request ⟨hok, -⟩
    have hfail := hlogin.unique hok
    contradiction
  · refine ⟨entry, work, hlog, Logins.sendsJust_of_runs_login hlogin, ?_⟩
    simpa [hlogin] using haction work v.result hrun

/-- A dialogue that begins with a visit goes on with what has come of it. -/
theorem runs_andThen_iff {action : Tracker.Action α} {logins : Logins} {url : String}
    {next : Logins × Except Failure α → Dialogue β} {log : List Exchanged} {result : β} :
    ((logins.visit url (action url)).andThen next).Runs log result ↔
      ∃ (v : Visit α) (later : List Exchanged), v.IsOf action ∧ v.before = logins ∧ v.url = url ∧
        (next (v.after, v.result)).Runs later result ∧ log = v.log ++ later := by
  rw [Dialogue.runs_andThen_iff]
  constructor
  · rintro ⟨log₁, ⟨after, outcome⟩, log₂, h₁, h₂, rfl⟩
    exact ⟨⟨url, logins, log₁, after, outcome⟩, log₂, h₁, rfl, rfl, h₂, rfl⟩
  · rintro ⟨v, later, hv, rfl, rfl, hnext, rfl⟩
    exact ⟨v.log, (v.after, v.result), later, hv, hnext, rfl⟩

/-- What was exchanged in some visits. -/
def transcript (visits : List (Visit α)) : List Exchanged :=
  visits.flatMap (·.log)

/-- How many of some visits were in vain. -/
def failures (visits : List (Visit α)) : Nat :=
  visits.countP hasFailed

/-- What has come of some visits, which is what has come of the last one; without any it is the
given failure. -/
def outcome (failure : Failure) (visits : List (Visit α)) : Except Failure α :=
  match visits.getLast? with
  | some v => v.result
  | none => .error failure

/-- The logins after some visits. -/
def finalLogins (logins : Logins) (visits : List (Visit α)) : Logins :=
  match visits.getLast? with
  | some v => v.after
  | none => logins

@[simp] theorem transcript_nil : transcript ([] : List (Visit α)) = [] := rfl

@[simp] theorem transcript_cons (v : Visit α) (visits : List (Visit α)) :
    transcript (v :: visits) = v.log ++ transcript visits := rfl

@[simp] theorem failures_nil : failures ([] : List (Visit α)) = 0 := rfl

theorem failures_cons (v : Visit α) (visits : List (Visit α)) :
    failures (v :: visits) = failures visits + if v.hasFailed then 1 else 0 :=
  List.countP_cons

@[simp] theorem outcome_nil (failure : Failure) :
    outcome failure ([] : List (Visit α)) = .error failure := rfl

theorem outcome_cons {failure failure' : Failure} {v : Visit α} (visits : List (Visit α))
    (h : v.result = .error failure') : outcome failure (v :: visits) = outcome failure' visits := by
  cases visits with
  | nil => exact h
  | cons w rest => simp [outcome, List.getLast?_cons]

@[simp] theorem outcome_singleton (failure : Failure) (v : Visit α) :
    outcome failure [v] = v.result := rfl

@[simp] theorem finalLogins_nil (logins : Logins) :
    finalLogins logins ([] : List (Visit α)) = logins := rfl

theorem finalLogins_cons (logins : Logins) (v : Visit α) (visits : List (Visit α)) :
    finalLogins logins (v :: visits) = finalLogins v.after visits := by
  cases visits with
  | nil => rfl
  | cons w rest => simp [finalLogins, List.getLast?_cons]

end Visit

/-! ## Visits in order until one succeeds -/

/-- The visits that some addresses get in order until one succeeds. -/
inductive Visits (action : Tracker.Action α) : Logins → List String → List (Visit α) → Prop
  | none (logins : Logins) : Visits action logins [] []
  | success {logins : Logins} {url : String} {rest : List String} {v : Visit α}
      (hv : v.IsOf action) (hbefore : v.before = logins) (hurl : v.url = url)
      (hresult : v.hasFailed = false) : Visits action logins (url :: rest) [v]
  | failure {logins : Logins} {url : String} {rest : List String} {v : Visit α}
      {visits : List (Visit α)} (hv : v.IsOf action) (hbefore : v.before = logins)
      (hurl : v.url = url) (hresult : v.hasFailed) (later : Visits action v.after rest visits) :
      Visits action logins (url :: rest) (v :: visits)

namespace Visits

variable {action : Tracker.Action α} {logins : Logins} {urls : List String}
  {visits : List (Visit α)}

theorem isOf (h : Visits action logins urls visits) : ∀ v ∈ visits, v.IsOf action := by
  induction h with
  | none logins => simp
  | success hv => simpa using hv
  | failure hv hbefore hurl hresult later ih =>
    intro w hw
    rcases List.mem_cons.1 hw with rfl | hw
    · exact hv
    · exact ih w hw

/-- The first addresses are visited, in order. -/
theorem urls_eq_take (h : Visits action logins urls visits) :
    visits.map (·.url) = urls.take visits.length := by
  induction h with
  | none logins => rfl
  | success hv hbefore hurl hresult => simp [hurl]
  | failure hv hbefore hurl hresult later ih => simp [hurl, ih]

/-- Either all visits are in vain and no address is left, or one more was made, which has
succeeded. -/
theorem eq_failures_append (h : Visits action logins urls visits) :
    (visits.length = Visit.failures visits ∧ visits.length = urls.length ∧
      ∀ v ∈ visits, v.hasFailed) ∨
    ∃ before v, visits = before ++ [v] ∧ before.length = Visit.failures visits ∧
      (∀ w ∈ before, w.hasFailed) ∧ v.hasFailed = false := by
  induction h with
  | none logins => simp
  | @success logins url rest v hv hbefore hurl hresult =>
    refine .inr ⟨[], v, rfl, ?_, by simp, hresult⟩
    simp [Visit.failures_cons, hresult]
  | @failure logins url rest v visits hv hbefore hurl hresult later ih =>
    rw [Visit.failures_cons, if_pos hresult]
    rcases ih with ⟨hcount, hlength, hall⟩ | ⟨before, w, rfl, hcount, hall, hw⟩
    · refine .inl ⟨by simp [hcount], by simp [hlength], ?_⟩
      simpa [hresult] using hall
    · refine .inr ⟨v :: before, w, rfl, by simp [hcount], ?_, hw⟩
      simpa [hresult] using hall

/-- The addresses of the visits in vain are the first ones. -/
theorem urls_failed_eq_take (h : Visits action logins urls visits) :
    (visits.filter Visit.hasFailed).map (·.url) = urls.take (Visit.failures visits) := by
  induction h with
  | none logins => rfl
  | success hv hbefore hurl hresult => simp [Visit.failures_cons, hresult]
  | failure hv hbefore hurl hresult later ih => simp [Visit.failures_cons, hresult, hurl, ih]

theorem keeps (h : Visits action logins urls visits) :
    logins.Keeps (Visit.finalLogins logins visits) := by
  induction h with
  | none logins => exact .refl logins
  | success hv hbefore hurl hresult => exact hbefore ▸ hv.keeps
  | failure hv hbefore hurl hresult later ih =>
    rw [Visit.finalLogins_cons]
    exact hbefore ▸ hv.keeps.trans ih

end Visits

end FlowPeers
