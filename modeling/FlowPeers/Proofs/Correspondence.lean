import FlowPeers.Proofs.Moves

/-!
# Dialogues that correspond

Two runs of the same operations may differ in who logs in, in what is sent and in what comes back; a
`Discrepancy` says how far. Dialogues correspond under it if the requests that they send do and, for
all replies that correspond, so do the dialogues in which they go on (`Dialogue.Corresponds`).

What a tracker does with a network depends neither on the credentials, except for the requests for
tokens, nor on replies that the discrepancy allows to differ: the dialogues of an operation with
trackers that correspond do so too, give the same and end in trackers that correspond
(`Tracker.Corresponds.operate`, `Tracker.corresponds_connect`).
-/

namespace FlowPeers

variable {α β γ δ : Type}

/-- In what two runs may differ. Requests for tokens may differ as the credentials do, and only
replies to extensions may differ. -/
structure Discrepancy where
  /-- Who may log in in the place of whom. -/
  credentials : Credentials → Credentials → Prop
  /-- What may be sent in the place of a request. -/
  requests : Request → Request → Prop
  /-- What may come back for a request in the place of a reply. -/
  replies : Request → Reply → Reply → Prop
  requests_refl (request : Request) : requests request request
  requests_login {c c' : Credentials} (h : credentials c c') {url : String}
    {request request' : Request} (hrequest : Logins.tokenRequest c url = .ok request)
    (hrequest' : Logins.tokenRequest c' url = .ok request') : requests request request'
  eq_of_replies {request : Request} {reply reply' : Reply} (h : replies request reply reply')
    (hmethod : request.method ≠ "PUT") : reply = reply'

/-- Whether no reply may differ. -/
def Discrepancy.IsExact (d : Discrepancy) : Prop :=
  ∀ request reply reply', d.replies request reply reply' → reply = reply'

variable {d : Discrepancy}

/-- Of options that are related both are empty, or the values of both are related. -/
theorem cases_of_rel {r : α → β → Prop} {a : Option α} {b : Option β} (h : Option.Rel r a b) :
    (a = none ∧ b = none) ∨ ∃ x y, a = some x ∧ b = some y ∧ r x y := by
  cases h with
  | none => exact .inl ⟨rfl, rfl⟩
  | some h => exact .inr ⟨_, _, rfl, rfl, h⟩

/-! ## Dialogues -/

namespace Dialogue

/-- Whether dialogues send requests that correspond, whatever replies that correspond come back, and
end with related results. -/
inductive Corresponds (d : Discrepancy) (results : α → β → Prop) : Dialogue α → Dialogue β → Prop
  | done {a : α} {b : β} (h : results a b) : Corresponds d results (.done a) (.done b)
  | send {request request' : Request} {next : Reply → Dialogue α} {next' : Reply → Dialogue β}
      (hrequest : d.requests request request')
      (h : ∀ reply reply', d.replies request reply reply' →
        Corresponds d results (next reply) (next' reply')) :
      Corresponds d results (.send request next) (.send request' next')

namespace Corresponds

variable {results : α → β → Prop} {results' : γ → δ → Prop} {x : Dialogue α} {y : Dialogue β}

theorem andThen (h : x.Corresponds d results y) {next : α → Dialogue γ} {next' : β → Dialogue δ}
    (hnext : ∀ a b, results a b → (next a).Corresponds d results' (next' b)) :
    (x.andThen next).Corresponds d results' (y.andThen next') := by
  induction h with
  | done h => exact hnext _ _ h
  | send hrequest _ ih => exact .send hrequest ih

theorem map (h : x.Corresponds d results y) {f : α → γ} {g : β → δ}
    (hfg : ∀ a b, results a b → results' (f a) (g b)) :
    (x.map f).Corresponds d results' (y.map g) :=
  h.andThen fun a b hab => .done (hfg a b hab)

end Corresponds

end Dialogue

/-! ## Exchanges -/

/-- Whether two results are the same failure or related values. -/
inductive SameUpTo (values : α → β → Prop) : Except Failure α → Except Failure β → Prop
  | error (failure : Failure) : SameUpTo values (.error failure) (.error failure)
  | ok {a : α} {b : β} (h : values a b) : SameUpTo values (.ok a) (.ok b)

theorem SameUpTo.refl (result : Except Failure α) : SameUpTo Eq result result := by
  cases result with
  | error failure => exact .error failure
  | ok value => exact .ok rfl

namespace Exchange

variable {values : α → β → Prop} {values' : γ → δ → Prop} {x : Exchange α} {y : Exchange β}

theorem corresponds_andThen (h : Dialogue.Corresponds d (SameUpTo values) x y)
    {next : α → Exchange γ} {next' : β → Exchange δ}
    (hnext : ∀ a b, values a b →
      Dialogue.Corresponds d (SameUpTo values') (next a) (next' b)) :
    Dialogue.Corresponds d (SameUpTo values') (x.andThen next) (y.andThen next') := by
  refine Dialogue.Corresponds.andThen h ?_
  rintro _ _ (failure | hab)
  · exact .done (.error failure)
  · exact hnext _ _ hab

/-- A request that is no extension, and whose body may differ, is sent or cannot be made. -/
theorem corresponds_send {method url : String} {headers : List Header} {body body' : Body}
    (hmethod : method ≠ "PUT") (hrequests : ∀ request request',
      Request.toUrl method url headers body = .ok request →
      Request.toUrl method url headers body' = .ok request' → d.requests request request') :
    Dialogue.Corresponds d (SameUpTo Eq) (Exchange.send (Request.toUrl method url headers body))
      (Exchange.send (Request.toUrl method url headers body')) := by
  rw [Request.toUrl, Request.toUrl] at *
  cases htarget : Target.read url.toList with
  | error cause => exact .done (.error _)
  | ok target =>
    rw [htarget] at hrequests
    refine .send (hrequests _ _ rfl rfl) fun reply reply' hreply => ?_
    rw [d.eq_of_replies hreply hmethod]
    exact .done (.refl _)

/-- The same is made of a successful response to a request that is no extension. -/
theorem corresponds_request {method url text : String} {headers : List Header} {body : Body}
    (hmethod : method ≠ "PUT") (read : Response → Except Failure α) :
    let exchange : Exchange α :=
      Exchange.andThen (Exchange.send (Request.toUrl method url headers body)) fun response =>
        Exchange.andThen (ensureSuccess text response) fun _ => .done (read response)
    Dialogue.Corresponds d (SameUpTo Eq) exchange exchange := by
  refine corresponds_andThen (corresponds_send hmethod ?_) ?_
  · intro request request' hrequest hrequest'
    obtain rfl := Except.ok.inj (hrequest.symm.trans hrequest')
    exact d.requests_refl request
  · rintro response _ rfl
    rw [ensureSuccess]
    split
    · exact .done (.refl _)
    · exact .done (.refl _)

end Exchange

/-! ## Logins -/

/-- Whether credentials correspond and the tokens are the same. -/
structure Logins.Corresponds (d : Discrepancy) (l l' : Logins) : Prop where
  credentials : Option.Rel d.credentials l.credentials l'.credentials
  tokens : l'.tokens = l.tokens

namespace Logins.Corresponds

variable {l l' : Logins}

theorem authorization?_eq (h : l.Corresponds d l') (url : String) :
    l'.authorization? url = l.authorization? url := by
  rw [authorization?, authorization?, h.tokens]

theorem headers_eq (h : l.Corresponds d l') (url : String) : l'.headers url = l.headers url := by
  rw [headers, headers, h.authorization?_eq]

theorem fetch (h : l.Corresponds d l') (peer url : String) :
    Dialogue.Corresponds d (SameUpTo Eq) (l.fetch peer url) (l'.fetch peer url) := by
  rw [Logins.fetch, Logins.fetch, h.headers_eq]
  exact Exchange.corresponds_request (by decide) _

theorem obtain (h : l.Corresponds d l') {c c' : Credentials} (hc : d.credentials c c')
    (url : String) : Dialogue.Corresponds d (SameUpTo (Logins.Corresponds d)) (l.obtain c url)
      (l'.obtain c' url) := by
  rw [Logins.obtain, Logins.obtain]
  refine Exchange.corresponds_andThen (Exchange.corresponds_send (by decide) ?_) ?_
  · intro request request' hrequest hrequest'
    exact d.requests_login hc hrequest hrequest'
  rintro response _ rfl
  split
  · exact .done (.error _)
  · refine .done (.ok ⟨h.credentials, ?_⟩)
    rw [h.tokens]

theorem login (h : l.Corresponds d l') (url : String) :
    Dialogue.Corresponds d (SameUpTo (Logins.Corresponds d)) (l.login url) (l'.login url) := by
  rw [Logins.login, Logins.login, h.authorization?_eq]
  cases l.authorization? url with
  | some authorization => exact .done (.ok h)
  | none =>
    rcases cases_of_rel h.credentials with ⟨hl, hl'⟩ | ⟨c, c', hl, hl', hc⟩
    · rw [hl, hl']
      exact .done (.ok h)
    · rw [hl, hl']
      exact h.obtain hc url

/-- What is done with a peer gives the same, and the logins correspond afterwards, if what follows the
login does so. -/
theorem visit (h : l.Corresponds d l') (url : String) {action : Logins → Exchange α}
    (haction : ∀ l l' : Logins, l.Corresponds d l' →
      Dialogue.Corresponds d (SameUpTo Eq) (action l) (action l')) :
    (l.visit url action).Corresponds d (fun a b => a.1.Corresponds d b.1 ∧ SameUpTo Eq a.2 b.2)
      (l'.visit url action) := by
  rw [Logins.visit, Logins.visit]
  refine (h.login url).andThen ?_
  rintro _ _ (failure | hlogins)
  · exact .done ⟨h, .error failure⟩
  · exact (haction _ _ hlogins).map fun _ _ hresult => ⟨hlogins, hresult⟩

end Logins.Corresponds

/-! ## Trackers -/

/-- Whether the logins of trackers correspond, and everything else is the same. -/
structure Tracker.Corresponds (d : Discrepancy) (t t' : Tracker) : Prop where
  seeds : t'.seeds = t.seeds
  interval : t'.interval = t.interval
  logins : t.logins.Corresponds d t'.logins
  status : t'.status = t.status
  saved : t'.saved = t.saved

/-- Whether trackers correspond with which something has given the same. -/
structure Discrepancy.SameWith (d : Discrepancy) (a b : Tracker × α) : Prop where
  tracker : a.1.Corresponds d b.1
  result : b.2 = a.2

namespace Tracker.Corresponds

variable {t t' : Tracker}

theorem withLogins (h : t.Corresponds d t') {l l' : Logins} (hl : l.Corresponds d l') :
    Tracker.Corresponds d { t with logins := l } { t' with logins := l' } :=
  { h with logins := hl }

theorem withStatus (h : t.Corresponds d t') (status : PeerStatus) :
    Tracker.Corresponds d { t with status := status } { t' with status := status } :=
  { h with status := rfl }

theorem adopt (h : t.Corresponds d t') (reported : List Peer) (now : UInt64) :
    (t.adopt reported now).Corresponds d (t'.adopt reported now) := by
  rw [Tracker.adopt, Tracker.adopt, h.status, h.seeds]
  exact ⟨rfl, h.interval, h.logins, rfl, rfl⟩

end Tracker.Corresponds

theorem Logins.Corresponds.fetchPeers {l l' : Logins} (h : l.Corresponds d l') (peer : String) :
    Dialogue.Corresponds d (SameUpTo Eq) (Tracker.fetchPeers peer l)
      (Tracker.fetchPeers peer l') := by
  rw [Tracker.fetchPeers, Tracker.fetchPeers]
  refine Exchange.corresponds_andThen (h.fetch peer _) ?_
  rintro body _ rfl
  split
  · exact .done (.error _)
  · exact .done (.refl _)

namespace Tracker

variable {t t' : Tracker}

/-- Whether an action gives the same with logins that correspond. -/
def Action.IsIndifferent (d : Discrepancy) (action : Action α) : Prop :=
  ∀ peer (l l' : Logins), l.Corresponds d l' →
    Dialogue.Corresponds d (SameUpTo Eq) (action peer l) (action peer l')

theorem isIndifferent_resolvePort (name : String) :
    Action.IsIndifferent d (resolvePort name) := by
  intro peer l l' h
  refine Exchange.corresponds_andThen (h.fetch peer _) ?_
  rintro body _ rfl
  split
  · exact .done (.error _)
  · exact .done (.refl _)

theorem isIndifferent_openTransaction (port : String) :
    Action.IsIndifferent d (openTransaction port) := by
  intro peer l l' h
  rw [openTransaction, openTransaction, h.authorization?_eq, Transaction.create]
  split
  · exact .done (.error _)
  · exact Exchange.corresponds_request (by decide) _

namespace Corresponds

theorem refreshFrom (h : t.Corresponds d t') (now : UInt64) (failure : Failure)
    (peers : List Peer) : (Tracker.refreshFrom now t failure peers).Corresponds d d.SameWith
      (Tracker.refreshFrom now t' failure peers) := by
  induction peers generalizing t t' failure with
  | nil => exact .done ⟨h, rfl⟩
  | cons peer rest ih =>
    rw [Tracker.refreshFrom, Tracker.refreshFrom]
    refine (h.logins.visit peer.url fun l l' hl => hl.fetchPeers peer.url).andThen ?_
    rintro ⟨l, _⟩ ⟨l', _⟩ ⟨hl, failure | heq⟩
    · exact ih (h.withLogins hl) failure
    · subst heq
      exact .done ⟨(h.withLogins hl).adopt _ now, rfl⟩

theorem refresh (h : t.Corresponds d t') (now : UInt64) :
    (t.refresh now).Corresponds d d.SameWith (t'.refresh now) := by
  rw [Tracker.refresh, Tracker.refresh, h.status]
  exact h.refreshFrom now .noPeers _

theorem refreshIfStale (h : t.Corresponds d t') (now : UInt64) :
    (t.refreshIfStale now).Corresponds d d.SameWith (t'.refreshIfStale now) := by
  rw [Tracker.refreshIfStale, Tracker.refreshIfStale, h.status, h.interval]
  split
  · exact h.refresh now
  · exact .done ⟨h, rfl⟩

theorem tryFrom {action : Action α} (haction : Action.IsIndifferent d action)
    (h : t.Corresponds d t') (place : Nat) (failure : Option Failure) (peers : List Peer) :
    (Tracker.tryFrom action t place failure peers).Corresponds d d.SameWith
      (Tracker.tryFrom action t' place failure peers) := by
  induction peers generalizing t t' place failure with
  | nil =>
    rw [Tracker.tryFrom, Tracker.tryFrom, h.status]
    exact .done ⟨h.withStatus _, rfl⟩
  | cons peer rest ih =>
    rw [Tracker.tryFrom, Tracker.tryFrom]
    refine (h.logins.visit peer.url (haction peer.url)).andThen ?_
    rintro ⟨l, _⟩ ⟨l', _⟩ ⟨hl, failure' | heq⟩
    · simp only [h.status]
      exact ih ((h.withLogins hl).withStatus _) _ _
    · subst heq
      cases failure with
      | none => exact .done ⟨h.withLogins hl, rfl⟩
      | some failure =>
        simp only [h.status]
        exact .done ⟨(h.withLogins hl).withStatus _, rfl⟩

theorem failover {action : Action α} (haction : Action.IsIndifferent d action)
    (h : t.Corresponds d t') (now : UInt64) :
    (t.failover action now).Corresponds d d.SameWith (t'.failover action now) := by
  rw [Tracker.failover, Tracker.failover]
  refine (h.refreshIfStale now).andThen ?_
  rintro ⟨t, _⟩ ⟨t', result⟩ ⟨h, rfl⟩
  cases result with
  | error failure => exact .done ⟨h, rfl⟩
  | ok done =>
    have htracker : t.Corresponds d t' := h
    simp only [htracker.status]
    exact htracker.tryFrom haction 0 none _

/-- An operation gives the same with trackers that correspond, and they correspond afterwards. -/
theorem operate (h : t.Corresponds d t') (operation : Operation) (now : UInt64) :
    (t.operate operation now).Corresponds d d.SameWith (t'.operate operation now) := by
  cases operation with
  | refresh =>
    refine (h.refresh now).map ?_
    rintro ⟨_, _⟩ ⟨_, result⟩ ⟨h, rfl⟩
    exact ⟨h, rfl⟩
  | resolvePort name =>
    refine (h.failover (isIndifferent_resolvePort name) now).map ?_
    rintro ⟨_, _⟩ ⟨_, result⟩ ⟨h, rfl⟩
    exact ⟨h, rfl⟩
  | openTransaction port =>
    refine (h.failover (isIndifferent_openTransaction port) now).map ?_
    rintro ⟨_, _⟩ ⟨_, result⟩ ⟨h, rfl⟩
    exact ⟨h, rfl⟩

end Corresponds

theorem corresponds_ofSeeds {l l' : Logins} (h : l.Corresponds d l') (seeds : List String)
    (interval : Duration) :
    (ofSeeds seeds interval l).Corresponds d (ofSeeds seeds interval l') :=
  ⟨rfl, rfl, h, rfl, rfl⟩

/-- With logins that correspond, connecting fails in the same way or gives trackers that
correspond. -/
theorem corresponds_connect {l l' : Logins} (h : l.Corresponds d l') (raw : List String)
    (interval : Duration) (saved : Option PeerStatus) (now : UInt64) :
    Dialogue.Corresponds d (SameUpTo (Tracker.Corresponds d)) (connect raw interval l saved now)
      (connect raw interval l' saved now) := by
  rw [connect, connect]
  cases readSeeds [] raw with
  | error failure => exact .done (.error failure)
  | ok seeds =>
    have hseeds := corresponds_ofSeeds h seeds interval
    cases saved with
    | some status => exact .done (.ok ⟨rfl, rfl, h, rfl, rfl⟩)
    | none =>
      refine (hseeds.refresh now).map ?_
      rintro ⟨_, _⟩ ⟨_, result⟩ ⟨h, rfl⟩
      cases result with
      | error failure => exact .error failure
      | ok done => exact .ok h

end Tracker

/-! ## Extensions -/

/-- An extension is the same request, and gives the same unless its reply may differ. -/
theorem Transaction.corresponds_extend (tx : Transaction) :
    tx.extend.Corresponds d (fun a b => d.IsExact → a = b) tx.extend := by
  rcases Session.extend_eq_done_or_send tx with ⟨result, h⟩ | ⟨request, next, h, hnext⟩
  · rw [h]
    exact .done fun _ => rfl
  · rw [h]
    refine .send (d.requests_refl request) fun reply reply' hreply => ?_
    obtain ⟨result, hresult⟩ := hnext reply
    obtain ⟨result', hresult'⟩ := hnext reply'
    rw [hresult, hresult']
    refine .done fun hexact => ?_
    rw [hexact _ _ _ hreply] at hresult
    exact Dialogue.done.inj (hresult.symm.trans hresult')

end FlowPeers
