import FlowPeers.Proofs.Address
import FlowPeers.Proofs.Custody
import FlowPeers.Proofs.Moves
import FlowPeers.Proofs.Opening
import FlowPeers.Proofs.Tasks

/-!
# Where tokens go in a session

On a network that writes down what is exchanged (`Responder.recording`) one can tell of every request
in a run of a session what was exchanged before it, whoever has sent it: an operation, the scheduler,
or the user who extends a transaction. A session is faithful (`Session.IsFaithful`) if all requests so
far were entitled to what they carry, and what it has at hand to send later is as well: the tokens of
its tracker, and its transactions with their tokens. Every move of a session keeps it so
(`Session.Move.isFaithful`).

Tokens therefore go to the peers that have granted them (`Session.tokens_go_to_their_peers`), with one
exception: a peer that opens a transaction says where it is, and the token goes with every extension
to wherever that is (`Session.extension_takes_token_elsewhere`).
-/

namespace FlowPeers

variable {σ : Type} {past past' : List Exchanged}

/-! ## Records -/

/-- A network that writes down what is exchanged on it. -/
def Responder.recording (net : Responder σ) : Responder (σ × List Exchanged) :=
  fun now request (network, record) =>
    let (network, delivery) := net now request network
    ((network, record ++ [⟨request, delivery.reply⟩]), delivery)

namespace Traffic

/-- What was exchanged, as far as it was written down. -/
def record (traffic : Traffic (σ × List Exchanged)) : List Exchanged :=
  traffic.network.2

/-- Whether all that was sent was written down, and was entitled to what it carries. -/
structure IsEntitled (traffic : Traffic (σ × List Exchanged)) : Prop where
  sent : traffic.log.map (·.request) = traffic.record.map (·.request)
  entitled : AreEntitled [] traffic.record

variable {traffic : Traffic (σ × List Exchanged)} {request : Request}

theorem record_send (net : Responder σ) (now : Nat) (request : Request)
    (traffic : Traffic (σ × List Exchanged)) : (traffic.send net.recording now request).1.record =
      traffic.record ++ [⟨request, (traffic.send net.recording now request).2.reply⟩] :=
  rfl

theorem isEntitled_send (h : traffic.IsEntitled) (hrequest : request.IsEntitled traffic.record)
    (net : Responder σ) (now : Nat) :
    (traffic.send net.recording now request).1.IsEntitled where
  sent := by
    rw [record_send, List.map_append, ← h.sent]
    exact List.map_append
  entitled := by
    rw [record_send]
    exact h.entitled.append ⟨hrequest, trivial⟩

end Traffic

/-! ## Extensions -/

/-- A transaction that is kept is extended with the token that its peer has granted, where this peer
says that it is. -/
theorem Transaction.IsKept.isEntitled {tx : Transaction} (h : tx.IsKept past) {request : Request}
    {next : Reply → Exchange Unit} (hextend : tx.extend = Dialogue.send request next) :
    request.IsEntitled past := by
  have hrequest : Request.toUrl "PUT" tx.url (headers tx.authorization) .empty = .ok request := by
    rw [extend] at hextend
    cases hsent : Request.toUrl "PUT" tx.url (headers tx.authorization) .empty with
    | error cause =>
      rw [hsent] at hextend
      cases hextend
    | ok sent =>
      rw [hsent] at hextend
      cases hextend
      rfl
  intro value hvalue
  rw [Request.authorizations_eq_of_transaction hrequest, Option.mem_toList] at hvalue
  obtain ⟨hgranted, there, hopened, hurl⟩ := h value hvalue
  rw [hvalue, hurl] at hrequest
  exact ⟨tx.peer, hgranted, .inr ⟨there, hopened, hrequest⟩⟩

/-- Whether a chore is to extend a transaction that is kept as it was opened, or nothing. -/
def Chore.IsKept (past : List Exchanged) : Chore → Prop
  | .probe => True
  | .extend tx => tx.IsKept past

theorem Chore.IsKept.mono {chore : Chore} (h : chore.IsKept past) (hle : past ⊆ past') :
    chore.IsKept past' := by
  cases chore with
  | probe => trivial
  | extend tx => exact Transaction.IsKept.mono h hle

namespace Session

/-- Starting a chore sends nothing but what is entitled. -/
theorem isEntitled_launch (net : Responder σ) (now : Nat) {chore : Chore}
    (hchore : chore.IsKept past) {traffic : Traffic (σ × List Exchanged)}
    (h : traffic.IsEntitled ∧ past ⊆ traffic.record) :
    (launch net.recording now chore traffic).1.IsEntitled ∧
      past ⊆ (launch net.recording now chore traffic).1.record := by
  obtain ⟨hentitled, hle⟩ := h
  cases chore with
  | probe => exact ⟨hentitled, hle⟩
  | extend tx =>
    rw [launch]
    rcases extend_eq_done_or_send tx with ⟨result, hextend⟩ | ⟨request, next, hextend, hnext⟩
    · rw [hextend]
      exact ⟨hentitled, hle⟩
    · have hrequest := (Transaction.IsKept.isEntitled hchore hextend).mono hle
      obtain ⟨result, hresult⟩ := hnext (traffic.send net.recording now request).2.reply
      rw [hextend]
      simp only [Dialogue.perform, hresult]
      refine ⟨Traffic.isEntitled_send hentitled hrequest net now, ?_⟩
      rw [Traffic.record_send]
      exact List.subset_append_of_subset_left _ hle

/-! ## One move -/

/-- What was exchanged in a session, as far as it was written down. -/
def record (s : Session (σ × List Exchanged)) : List Exchanged :=
  s.traffic.record

/-- Whether all that a session has sent was entitled to what it carries, and all that it keeps to send
later is as what was exchanged says. -/
structure IsFaithful (s : Session (σ × List Exchanged)) : Prop where
  traffic : s.traffic.IsEntitled
  tracker : ∀ t, s.tracker = some t → t.logins.AreGranted s.record
  transactions : ∀ tx ticket, some (tx, ticket) ∈ s.transactions → tx.IsKept s.record
  chores : s.keepAlive.DoesOnly (Chore.IsKept s.record)

variable {net : Responder σ} {s : Session (σ × List Exchanged)}

theorem isFaithful_start (epoch : Int) (network : σ) (saved : Option PeerStatus) :
    (start epoch (network, []) saved).IsFaithful where
  traffic := ⟨rfl, trivial⟩
  tracker := by simp [start]
  transactions := by simp [start]
  chores := .start

theorem isFaithful_send (h : s.IsFaithful) {request : Request}
    (hrequest : request.IsEntitled s.record) : (s.send net.recording request).1.IsFaithful := by
  have hle : s.record ⊆ (s.send net.recording request).1.record := List.subset_append_left _ _
  exact
    { traffic := Traffic.isEntitled_send h.traffic hrequest net s.now
      tracker := fun t ht => (h.tracker t ht).mono hle
      transactions := fun tx ticket hmem => (h.transactions tx ticket hmem).mono hle
      chores := h.chores.mono fun chore hchore => hchore.mono hle }

/-- While time passes the scheduler extends what is kept. -/
theorem isFaithful_wait (net : Responder σ) (h : s.IsFaithful) (limit : Nat) :
    (s.wait net.recording limit).IsFaithful ∧ s.record ⊆ (s.wait net.recording limit).record := by
  rw [wait]
  split
  · exact ⟨h, List.Subset.refl _⟩
  · obtain ⟨hchores, htraffic, hle⟩ := KeepAlive.advance_keeps
      (P := fun traffic : Traffic (σ × List Exchanged) =>
        traffic.IsEntitled ∧ s.record ⊆ traffic.record)
      (fun now _ _ hchore htraffic => isEntitled_launch net now hchore htraffic) h.chores limit s.now
      ⟨h.traffic, List.Subset.refl _⟩
    refine ⟨?_, hle⟩
    exact
      { traffic := htraffic
        tracker := fun t ht => (h.tracker t ht).mono hle
        transactions := fun tx ticket hmem => (h.transactions tx ticket hmem).mono hle
        chores := hchores.mono fun chore hchore => hchore.mono hle }

/-- A dialogue that is entitled to what it sends comes to its end in a session that is faithful. -/
theorem isFaithful_converse {α : Type} (net : Responder σ) {right : List Exchanged → α → Prop}
    (hright : ∀ {record record'} {result : α}, record ⊆ record' → right record result →
      right record' result)
    {d : Dialogue α} (h : s.IsFaithful) (hd : d.IsEntitled right s.record) :
    (s.converse net.recording d).1.IsFaithful ∧
      right (s.converse net.recording d).1.record (s.converse net.recording d).2 := by
  induction d generalizing s with
  | done result => exact ⟨h, hd.of_done⟩
  | send request next ih =>
    obtain ⟨hrequest, hnext⟩ := hd.of_send (s.send net.recording request).2.reply
    obtain ⟨hwait, hle⟩ := isFaithful_wait net (isFaithful_send h hrequest)
      (s.now + (s.send net.recording request).2.delay)
    exact ih _ hwait (hnext.mono hle hright)

/-- A transaction that was opened is kept as it was opened. -/
theorem isFaithful_conclude (h : s.IsFaithful) {t : Tracker} {result : Except Failure Answer}
    (hright : Tracker.IsRight s.record (t, result)) :
    (s.conclude t result).1.IsFaithful := by
  obtain ⟨hlogins, hopened⟩ := hright
  have hother : { s with tracker := some t }.IsFaithful :=
    { traffic := h.traffic
      tracker := by
        rintro _ ⟨⟩
        exact hlogins
      transactions := h.transactions
      chores := h.chores }
  rcases result with failure | answer
  · exact hother
  · cases answer with
    | done => exact hother
    | identifier id => exact hother
    | opened tx =>
      have hkept : tx.IsKept s.record := hopened tx rfl
      exact
        { traffic := h.traffic
          tracker := hother.tracker
          transactions := by
            intro tx' ticket hmem
            rcases List.mem_append.1 hmem with hmem | hmem
            · exact h.transactions tx' ticket hmem
            · cases List.mem_singleton.1 hmem
              exact hkept
          chores := h.chores.schedule _ hkept }

/-- What is done at once sends nothing. -/
theorem AtOnce.isFaithful {after : Session (σ × List Exchanged) × Outcome} (h : AtOnce s after)
    (hs : s.IsFaithful) : after.1.IsFaithful ∧ after.1.record = s.record := by
  obtain ⟨htraffic, htracker, htransactions, hchores⟩ := hs
  cases h with
  | pass epoch outcome => exact ⟨⟨htraffic, htracker, htransactions, hchores⟩, rfl⟩
  | @close n tx ticket htx =>
    refine ⟨⟨htraffic, htracker, fun tx' ticket' hmem => ?_, hchores.cancel ticket⟩, rfl⟩
    exact htransactions tx' ticket' ((List.mem_or_eq_of_mem_set hmem).resolve_right (by simp))
  | shutDown => exact ⟨⟨htraffic, htracker, htransactions, hchores.shutDown⟩, rfl⟩
  | probe ht => exact ⟨⟨htraffic, htracker, htransactions, hchores.schedule _ trivial⟩, rfl⟩
  | dropProbes => exact ⟨⟨htraffic, htracker, htransactions, hchores.foldl_cancel _⟩, rfl⟩
  | release => exact ⟨⟨htraffic, htracker, htransactions, hchores⟩, rfl⟩

theorem isFaithful_settle (h : s.IsFaithful) : s.settle.IsFaithful where
  traffic := h.traffic
  tracker := fun t ht => h.tracker t (tracker_of_tracker? ht)
  transactions := h.transactions
  chores := by
    rw [settle]
    cases s.isInUse with
    | true => exact h.chores.settle s.now
    | false => exact (h.chores.settle s.now).stop

end Session

/-- Where a peer says that a transaction is can be written down, if the peer is somewhere. -/
theorem IsOpened.isWritable {peer : String} {value : HeaderValue} {there place : Url}
    (h : IsOpened past peer value there) (hparse : Url.parse peer.toList = .ok place) :
    there.IsWritable := by
  obtain ⟨x, -, port, url, response, location, hurl, -, -, -, -, hthere⟩ := h
  exact Url.isWritable_join (Transaction.isWritable_openUrl hurl hparse).1 hthere

/-! ## Runs -/

/-- Whether a session is faithful, and the operation that holds the lock is entitled to what it goes
on to send. -/
structure Scene.IsFaithful (a : Scene (σ × List Exchanged)) : Prop where
  session : a.session.IsFaithful
  held : ∀ d, a.held = some d → d.IsEntitled Tracker.IsRight a.session.record

namespace Session

variable {net : Responder σ}

theorem Move.isFaithful {allowed : Outcome → Prop} {a b : Scene (σ × List Exchanged)}
    (h : Move net.recording allowed a b) (ha : a.IsFaithful) : b.IsFaithful := by
  obtain ⟨hsession, hheld⟩ := ha
  -- what holds the lock goes on to be entitled when more is exchanged
  have hlater : ∀ {s s' : Session (σ × List Exchanged)}
      {held : Option (Dialogue (Tracker × Except Failure Answer))},
      (∀ d, held = some d → d.IsEntitled Tracker.IsRight s.record) → s.record ⊆ s'.record →
      ∀ d, held = some d → d.IsEntitled Tracker.IsRight s'.record :=
    fun hheld hle d hd => (hheld d hd).mono hle Tracker.IsRight.mono
  have hnone : ∀ {record : List Exchanged} (d : Dialogue (Tracker × Except Failure Answer)),
      none = some d → d.IsEntitled Tracker.IsRight record := by simp
  cases h with
  | begin ht operation =>
    refine ⟨hsession, ?_⟩
    rintro _ ⟨⟩
    exact Tracker.isEntitled_operate (hsession.tracker _ ht) operation _
  | send s request next =>
    obtain ⟨hrequest, hnext⟩ := (hheld _ rfl).of_send (s.send net.recording request).2.reply
    refine ⟨isFaithful_send hsession hrequest, ?_⟩
    rintro _ ⟨⟩
    exact hnext
  | conclude hallowed =>
    exact ⟨isFaithful_conclude hsession (hheld _ rfl).of_done, hnone⟩
  | @extend s tx ticket hopen request next hextend held =>
    have hrequest := (hsession.transactions tx ticket hopen).isEntitled hextend
    exact ⟨isFaithful_send hsession hrequest, hlater hheld (List.subset_append_left _ _)⟩
  | wait s limit held =>
    obtain ⟨hwait, hle⟩ := isFaithful_wait net hsession limit
    exact ⟨hwait, hlater hheld hle⟩
  | @executeNow s command hallowed held =>
    obtain ⟨hnow, hsame⟩ := (atOnce_executeNow s command).isFaithful hsession
    exact ⟨hnow, hlater hheld (hsame ▸ List.Subset.refl _)⟩
  | settle s => exact ⟨isFaithful_settle hsession, hnone⟩

/-- A session begins faithful when its tracker is connected, or when that fails. -/
theorem isFaithful_connect (net : Responder σ) (epoch : Int) (network : σ)
    (saved : Option PeerStatus) (seeds : List String) (interval : Duration)
    (username password : Option String) :
    ((start epoch (network, []) saved).connect net.recording seeds interval
      (.start username password)).1.IsFaithful := by
  have hconnect := isFaithful_converse net (fun hle hright t ht => (hright t ht).mono hle)
    (isFaithful_start epoch network saved)
    (Tracker.isEntitled_connect seeds interval username password
      (start epoch (network, ([] : List Exchanged)) saved).saved
      (start epoch (network, ([] : List Exchanged)) saved).clock)
  rw [connect_eq]
  rcases hconverse : (start epoch (network, []) saved).converse net.recording
    (Tracker.connect seeds interval (.start username password)
      (start epoch (network, ([] : List Exchanged)) saved).saved
      (start epoch (network, ([] : List Exchanged)) saved).clock) with ⟨s, result⟩
  rw [hconverse] at hconnect
  obtain ⟨hs, hright⟩ := hconnect
  cases result with
  | error failure => exact hs
  | ok t =>
    exact
      { traffic := hs.traffic
        tracker := by
          rintro _ ⟨⟩
          exact hright t rfl
        transactions := hs.transactions
        chores := .start }

theorem isFaithful_follow {s : Session (σ × List Exchanged)} (h : s.IsFaithful)
    (steps : List Step) : (s.follow net.recording steps).1.IsFaithful := by
  have hleads : Leads net.recording (fun _ => True) ⟨s, none⟩
      ⟨(s.follow net.recording steps).1, none⟩ :=
    leads_follow fun _ _ => trivial
  exact (hleads.keeps (fun _ _ hmove => hmove.isFaithful) ⟨h, by simp⟩).session

/-- **Tokens go to the peers that have granted them.** Let a tracker be connected, with or without
success, and then do anything with it, at the same time or one after the other, and let time pass in
which its transactions are extended. All that is sent is written down. A request that carries an
authorization was preceded by a login to a peer that has granted it, and is addressed to the scheme,
the host and the port of this peer; unless this peer has opened a transaction under it and says that
it is where one of them is another, and the request is the extension of this transaction. -/
theorem tokens_go_to_their_peers (net : Responder σ) (epoch : Int) (network : σ)
    (saved : Option PeerStatus) (seeds : List String) (interval : Duration)
    (username password : Option String) (steps : List Step) :
    let s₀ := ((start epoch (network, []) saved).connect net.recording seeds interval
      (.start username password)).1
    let s := (s₀.follow net.recording steps).1
    s.traffic.log.map (·.request) = s.record.map (·.request) ∧
      ∀ past x later, s.record = past ++ x :: later → ∀ value ∈ x.request.authorizations,
        ∃ peer, IsGranted past peer value ∧
          ∀ place, Url.parse peer.toList = .ok place → place.host? ≠ none →
            x.request.IsTo place ∨
              ∃ there, IsOpened past peer value there ∧ ¬ there.SameOrigin place ∧
                x.request.Extends there value := by
  intro s₀ s
  have hs : s.IsFaithful := isFaithful_follow
    (isFaithful_connect net epoch network saved seeds interval username password) steps
  refine ⟨hs.traffic.sent, fun past x later hrecord value hvalue => ?_⟩
  have hentitled : AreEntitled [] (past ++ x :: later) := hrecord ▸ hs.traffic.entitled
  obtain ⟨peer, hgranted, hrequest⟩ := hentitled.isEntitled value hvalue
  refine ⟨peer, hgranted, fun place hparse hhost => ?_⟩
  rcases hrequest with ⟨operation, hrequest⟩ | ⟨there, hopened, hextends⟩
  · exact .inl (hrequest.isTo hparse hhost)
  · by_cases hsame : there.SameOrigin place
    · have hsome : there.host? ≠ none := hsame.host ▸ hhost
      exact .inl (Request.isTo_of_toUrl_print (hopened.isWritable hparse)
        (Url.authority_ne_none hsome) hsame hextends)
    · exact .inr ⟨there, hopened, hsame, hextends⟩

/-- What is exchanged while somebody logs in to a peer, opens a transaction that is at a location as
the peer says, and waits until it is extended. -/
def exchangedAfterOpening (location : String) : List Exchanged :=
  let token : Response := ⟨.created, [], .ofText "token".toList⟩
  let script : Script := [
    { ending := some "/access/token", replies := [(0, .response token)] },
    { replies := [(0, .ofExcept (Transaction.created location 30))] }]
  let peer : Peer := { url := "http://[::1]:80/nifi-api", flowFiles := 0 }
  let s := ((start 0 (script, []) (some ⟨[peer], 0⟩)).connect Script.responder.recording
    ["http://[::1]:80"] (.ofSeconds 1800) (.start (some "user") (some "pass"))).1
  (s.follow Script.responder.recording
    [.one (.operate (.openTransaction "in")), .one (.sleep 15000)]).1.record

/-- A peer that says that a transaction is with somebody else has its token sent there. -/
theorem extension_takes_token_elsewhere : ∃ past x later value place,
    exchangedAfterOpening "https://[::2]/tx/1" = past ++ x :: later ∧
      value ∈ x.request.authorizations ∧ IsGranted past "http://[::1]:80/nifi-api" value ∧
      Url.parse "http://[::1]:80/nifi-api".toList = .ok place ∧ place.host? ≠ none ∧
      ¬ x.request.IsTo place := by
  have hsent : (exchangedAfterOpening "https://[::2]/tx/1").map (fun x => (x.request.method,
      x.request.authorizations.map (·.text), x.request.target.scheme, x.request.target.authority)) =
        [("POST", [], some "http".toList, some "[::1]:80".toList),
          ("POST", ["Bearer token"], some "http".toList, some "[::1]".toList),
          ("PUT", ["Bearer token"], some "https".toList, some "[::2]".toList)] := by
    decide +kernel
  have hlogin : (exchangedAfterOpening "https://[::2]/tx/1")[0]?.map (.ok ·.request) =
      some (Logins.tokenRequest ⟨"user", "pass"⟩ "http://[::1]:80/nifi-api") := by
    decide +kernel
  have htoken : (exchangedAfterOpening "https://[::2]/tx/1")[0]?.map (fun x =>
      (x.reply.bind (Logins.readToken "")).toOption.toList) =
        (exchangedAfterOpening "https://[::2]/tx/1")[2]?.map (·.request.authorizations) := by
    decide +kernel
  have hpeer : (Url.parse "http://[::1]:80/nifi-api".toList).toOption.map (fun place =>
      (place.scheme, place.host?.isSome)) = some ("http".toList, true) := by
    decide +kernel
  have helsewhere : (Url.parse ("https".toList ++ ':' :: '/' :: '/' :: "[::2]".toList)).toOption.map
      (·.scheme) = some "https".toList := by
    decide +kernel
  obtain ⟨place, hplace, hpeer⟩ := Option.map_eq_some_iff.1 hpeer
  obtain ⟨elsewhere, hread, hhttps⟩ := Option.map_eq_some_iff.1 helsewhere
  obtain ⟨hhttp, hhost⟩ := Prod.mk.inj hpeer
  generalize exchangedAfterOpening "https://[::2]/tx/1" = record at hsent hlogin htoken ⊢
  obtain ⟨login, opening, extension, rfl⟩ : ∃ a b c, record = [a, b, c] :=
    List.length_eq_three.1 (by simpa using congrArg List.length hsent)
  simp only [List.map_cons, List.map_nil, List.cons.injEq, Prod.mk.injEq] at hsent
  obtain ⟨-, -, ⟨-, htext, hscheme, hauthority⟩, -⟩ := hsent
  obtain ⟨value, hvalue, -⟩ := List.map_eq_singleton_iff.1 htext
  have hgranted : (login.reply.bind (Logins.readToken "")).toOption = some value :=
    Option.toList_eq_singleton_iff.1 ((Option.some.inj htoken).trans hvalue)
  refine ⟨[login, opening], extension, [], value, place, rfl, ?_, ?_, eq_ok_of_toOption hplace,
    Option.isSome_iff_ne_none.1 hhost, ?_⟩
  · rw [hvalue]
    exact List.mem_singleton_self _
  · exact ⟨login, List.mem_cons_self .., _, (Option.some.inj hlogin).symm,
      Logins.readToken_eq_ok_iff.1 (eq_ok_of_toOption hgranted)⟩
  · rintro ⟨scheme, authority, url, hscheme', hauthority', hsame, hurl⟩
    obtain rfl := Option.some.inj (hscheme.symm.trans hscheme')
    obtain rfl := Option.some.inj (hauthority.symm.trans hauthority')
    have hother : "https".toList ≠ url.scheme := by
      rw [hsame.scheme, hhttp]
      decide
    rcases hurl with ⟨heq, -⟩ | hurl
    · exact hother heq
    · rw [Except.ok.inj ((eq_ok_of_toOption hread).symm.trans hurl)] at hhttps
      exact hother hhttps.symm

end Session

end FlowPeers
