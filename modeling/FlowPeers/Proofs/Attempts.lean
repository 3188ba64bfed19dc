import FlowPeers.Proofs.Course
import FlowPeers.Proofs.Locations

/-!
# Failures of attempts

An operation attempts something at one peer after the other, so its failure is that of its last
attempt, or says that nobody was there to turn to (`Deed.Occurs.failsWith`). At a plain address
(`PeerAddress.IsPlain`) an attempt can fail with the network, with a reply, or before a request is
sent, which takes an address that is too long (`Request.toUrl_cases`). All that a reply can bring
about is such that another peer may do better, but for a token that does not fit into a header
(`Visit.IsOf.failsWith`). So the failure of an attempt is retryable unless it comes of such a token
or such an address (`Tracker.failures_are_retryable_iff`).
-/

namespace FlowPeers

open Text Dialogue

variable {α : Type}

/-! ## Addresses that requests are sent to -/

/-- Whether a text is too long for the target of a request. -/
def Target.IsTooLong (text : List Char) : Prop :=
  65534 < (encode text).length

theorem Target.read_of_isTooLong {text : List Char} (h : IsTooLong text) :
    Target.read text = .error .tooLong := by
  unfold read
  exact if_pos h

/-- Whether a text is a target unless it is too long. -/
def Target.IsRegular (text : List Char) : Prop :=
  ¬ IsTooLong text → ∃ target, Target.read text = .ok target

/-- At a regular address a request can be made unless it is too long. -/
theorem Request.toUrl_cases {method url : String} {headers : List Header} {body : Body}
    (hread : Target.IsRegular url.toList) :
    (Target.IsTooLong url.toList ∧ toUrl method url headers body = .error (.badTarget .tooLong)) ∨
      (¬ Target.IsTooLong url.toList ∧ ∃ request, toUrl method url headers body = .ok request) := by
  by_cases hlong : Target.IsTooLong url.toList
  · exact .inl ⟨hlong, by rw [toUrl, Target.read_of_isTooLong hlong]⟩
  · exact .inr ⟨hlong, exists_toUrl_iff.2 (hread hlong)⟩

namespace PeerAddress

/-- Whether an address is canonical and of the web, and its host can stand in the target of a
request. -/
def IsPlain (url : String) : Prop :=
  canonical url = .ok url ∧ ∃ place host, Url.parse url.toList = .ok place ∧
    place.host? = some host ∧ place.scheme ∈ Target.webSchemes ∧ host.IsBare

theorem length_of_mem_webSchemes : ∀ scheme ∈ Target.webSchemes, scheme.length ≤ 64 := by
  decide

/-- What is beyond a plain address is regular. -/
theorem IsPlain.isRegular_append {url : String} (h : IsPlain url) (path : String)
    (steps : List (List Char)) (hpath : path.toList = (Url.Path.rooted steps).print)
    (hsteps : ∀ step ∈ steps, Url.IsStep step) : Target.IsRegular (url ++ path).toList := by
  obtain ⟨hcanonical, place, host, hparse, hhost, hscheme, hbare⟩ := h
  obtain ⟨place', host', hparse', hhost', -, hurl⟩ := canonical_eq_ok_iff.1 hcanonical
  obtain rfl : place = place' := Except.ok.inj (hparse.symm.trans hparse')
  obtain rfl : host = host' := Option.some.inj (hhost.symm.trans hhost')
  have hread := Url.isEncoded_parse hparse
  let whole : Url :=
    ⟨place.scheme, some { host := some host, port := place.port? },
      .rooted ("nifi-api".toList :: steps), none, none⟩
  have hauthority : ({ host := some host, port := place.port? } : Url.Authority).print =
      host.print ++ portText place.port? :=
    Url.Authority.print_of_host rfl
  have hprint : (url ++ path).toList = whole.print := by
    rw [String.toList_append, hpath, hurl, toList_render, Url.print_of_authority rfl, hauthority]
    simp [remainder, Url.beyond, Url.suffixText, Url.Path.print, whole, apiRoot]
  have hencoded : whole.IsEncoded := by
    refine ⟨⟨hread.isScheme, ?_, fun _ => ⟨_, rfl⟩⟩, ?_, ?_, by simp [whole]⟩
    · rintro a ⟨⟩
      exact Url.isWithin_print_authority isWithin_nil isWithin_nil fun _ heq =>
        Option.some.inj heq ▸ hread.isWithin_host hhost
    · rintro a ⟨⟩
      refine ⟨by simp, by simp, ?_, by simp⟩
      rintro host ⟨⟩
      exact hread.host_isEncoded hhost
    · exact List.forall_mem_cons.2 ⟨List.all_eq_true.1 (by decide), hsteps⟩
  rw [hprint]
  exact fun hfits => hencoded.exists_read_iff.2
    ⟨Nat.le_of_not_lt hfits, ⟨host, rfl, hbare⟩, length_of_mem_webSchemes _ hscheme⟩

/-- A plain address has a place for the transactions of every port, and it is regular. -/
theorem IsPlain.exists_openUrl {url : String} (h : IsPlain url) (port : String) :
    ∃ place, Transaction.openUrl url port = .ok place ∧ Target.IsRegular place.print := by
  obtain ⟨-, base, host, hparse, hhost, hscheme, hbare⟩ := h
  obtain ⟨a, ha, hhost⟩ := Option.bind_eq_some_iff.1 hhost
  obtain ⟨segments, hpath⟩ := (Url.isEncoded_parse hparse).rooted (by simp [ha])
  have hopen : ∃ place, Transaction.openUrl url port = .ok place ∧ place.scheme = base.scheme ∧
      place.authority = base.authority := by
    rw [Transaction.openUrl, hparse]
    simp only [Url.extend?, hpath]
    exact ⟨_, rfl, rfl, rfl⟩
  obtain ⟨place, hplace, hscheme', hauthority⟩ := hopen
  refine ⟨place, hplace, fun hfits => ?_⟩
  refine ((Transaction.isEncoded_openUrl hplace).exists_read_of_authority_iff
    (hauthority.trans ha)).2 ⟨Nat.le_of_not_lt hfits, ⟨host, hhost, hbare⟩, ?_⟩
  rw [hscheme']
  exact length_of_mem_webSchemes _ hscheme

end PeerAddress

/-! ## Questions that fail for one peer only -/

namespace Failure

/-- Whether the network itself can fail in this way. -/
def isOfNetwork : Failure → Bool
  | .transport _ _ | .timeout _ => true
  | _ => false

theorem isRetryable_of_isOfNetwork {failure : Failure} (h : failure.isOfNetwork) :
    failure.isRetryable := by
  cases failure with
  | transport url cause => rfl
  | timeout url => rfl
  | _ => contradiction

end Failure

/-- Whether the network fails only in ways of its own, whatever the peers reply. -/
def FailsOfNetwork (log : List Exchanged) : Prop :=
  ∀ x ∈ log, ∀ failure, x.reply = .error failure → failure.isOfNetwork

open Exchange

/-- A question at a regular address that blames the peer fails as one that another peer may do better
than, unless the address is too long. -/
theorem Exchange.failure_cases_of_runs_ask {method address : String} {headers : List Header}
    {body : Body} {read : Response → Except Failure α} {log : List Exchanged} {failure : Failure}
    (hrun : (ask (Request.toUrl method address headers body) read).Runs log (.error failure))
    (hblames : BlamesPeers read) (haddress : Target.IsRegular address.toList)
    (hnetwork : FailsOfNetwork log) :
    (failure.isRetryable ∧ ¬ Target.IsTooLong address.toList) ∨
      (failure = .request (.badTarget .tooLong) ∧ Target.IsTooLong address.toList) := by
  have hcases := @Request.toUrl_cases method address headers body haddress
  rcases runs_ask_iff.1 hrun with ⟨cause, hreq, rfl, hfail⟩ | ⟨sent, reply, hreq, rfl, hfail⟩
  · rw [hreq] at hcases
    rcases hcases with ⟨hlong, herror⟩ | ⟨-, request, hok⟩
    · cases herror
      cases hfail
      exact .inr ⟨rfl, hlong⟩
    · contradiction
  · rw [hreq] at hcases
    rcases hcases with ⟨-, herror⟩ | ⟨hfits, -⟩
    · contradiction
    · refine .inl ⟨?_, hfits⟩
      cases reply with
      | error failure' =>
        cases hfail
        exact Failure.isRetryable_of_isOfNetwork (hnetwork _ (List.mem_singleton_self _) _ rfl)
      | ok response => exact hblames response failure hfail.symm

/-! ## Where operations ask -/

/-- Where an operation asks a peer for what it needs. -/
def Operation.address (url : String) : Operation → Except Failure String
  | .refresh => .ok (url ++ Tracker.peersPath)
  | .resolvePort _ => .ok (url ++ Tracker.portsPath)
  | .openTransaction port =>
    (Transaction.openUrl url port).map fun place => String.ofList place.print

/-- A plain address gives an operation one where to ask, which is regular. -/
theorem PeerAddress.IsPlain.exists_address {url : String} (h : IsPlain url)
    (operation : Operation) :
    ∃ address, operation.address url = .ok address ∧ Target.IsRegular address.toList := by
  cases operation with
  | refresh =>
    exact ⟨_, rfl, h.isRegular_append _ ["site-to-site".toList, "peers".toList]
      (by decide) (by decide)⟩
  | resolvePort name =>
    exact ⟨_, rfl, h.isRegular_append _ ["site-to-site".toList]
      (by decide) (by decide)⟩
  | openTransaction port =>
    obtain ⟨place, hplace, hread⟩ := h.exists_openUrl port
    rw [← String.toList_ofList (l := place.print)] at hread
    exact ⟨_, by rw [Operation.address, hplace]; rfl, hread⟩

/-- Whether an action does an operation with a peer by asking where the operation does, with a
reading of the response that blames the peer. -/
def Operation.IsDoneBy (operation : Operation) (action : Tracker.Action α) : Prop :=
  ∀ url logins address, operation.address url = .ok address → ∃ method headers read,
    action url logins = ask (Request.toUrl method address headers .empty) read ∧ BlamesPeers read

theorem Tracker.isDoneBy_fetchPeers : Operation.refresh.IsDoneBy fetchPeers := by
  rintro url logins _ ⟨⟩
  exact ⟨_, _, _, fetchPeers_eq_ask url logins, blamesPeers_listed _⟩

theorem Errand.isDoneBy_action (errand : Errand) : errand.operation.IsDoneBy errand.action := by
  intro url logins address haddress
  cases errand with
  | resolvePort name =>
    cases haddress
    exact ⟨_, _, _, action_resolvePort_eq_ask name url logins,
      (Tracker.blamesPeers_found _ name).map _⟩
  | openTransaction port =>
    rw [Errand.operation, Operation.address] at haddress
    cases hplace : Transaction.openUrl url port with
    | error failure =>
      rw [hplace] at haddress
      contradiction
    | ok place =>
      rw [hplace] at haddress
      cases haddress
      exact ⟨_, _, _, action_openTransaction_eq_ask hplace logins,
        (Transaction.blamesPeers_answer _ _ _ _).map _⟩

/-! ## Tokens that do not fit -/

/-- Whether a response grants a token of which no header can be made. -/
def Response.HasUnfitToken (response : Response) : Prop :=
  response.status.isSuccess ∧ ∃ token, response.body.read = .ok token ∧ Logins.bearer? token = none

namespace Logins

/-- An answer without a token is the fault of the peer, unless it has one that does not fit. -/
theorem readToken_eq_error {url : String} {response : Response} {failure : Failure}
    (h : readToken url response = .error failure) :
    (failure.isRetryable ∧ ¬ response.HasUnfitToken) ∨
      (failure = .invalidHeader ∧ response.HasUnfitToken) := by
  rw [readToken] at h
  unfold Response.HasUnfitToken
  split at h
  · next hsuccess =>
    cases hread : response.body.read with
    | error cause =>
      rw [readBody, hread] at h
      cases h
      exact .inl ⟨rfl, by simp⟩
    | ok token =>
      rw [readBody, hread] at h
      simp only at h
      split at h
      · next hnone =>
        cases h
        exact .inr ⟨rfl, hsuccess, token, rfl, hnone⟩
      · contradiction
  · next hfail =>
    cases h
    exact .inl ⟨rfl, fun hunfit => hfail hunfit.1⟩

theorem not_hasUnfitToken_of_readToken {url : String} {response : Response} {value : HeaderValue}
    (h : readToken url response = .ok value) : ¬ response.HasUnfitToken := by
  rintro ⟨hsuccess, token, hread, hnone⟩
  rw [readToken, if_pos hsuccess, readBody, hread] at h
  simp [hnone] at h

end Logins

namespace Visit

/-- Whether a visit is over with the request for a token, which is granted and does not fit. -/
def HasGotUnfitToken (v : Visit α) : Prop :=
  ∃ credentials request response, v.before.authorization? v.url = none ∧
    v.before.credentials = some credentials ∧
    Logins.tokenRequest credentials v.url = .ok request ∧ v.log = [⟨request, .ok response⟩] ∧
    response.HasUnfitToken

/-- Whether a visit has come to its operation: nobody logs in, or a token is kept. -/
def IsAdmitted (v : Visit α) : Prop :=
  v.before.credentials = none ∨ v.after.authorization? v.url ≠ none

/-- Whether the address where a visit for an operation asks last is too long: that for a token, or
once it has come to the operation that for this one. -/
def IsStuck (operation : Operation) (v : Visit α) : Prop :=
  (¬ v.IsAdmitted ∧ Target.IsTooLong (v.url ++ Logins.tokenPath).toList) ∨
    (v.IsAdmitted ∧ ∃ address, operation.address v.url = .ok address ∧
      Target.IsTooLong address.toList)

/-- With which failures a visit for an operation fails, and when: with one that another peer may do
better than, unless the token does not fit or the address is too long. -/
inductive FailsWith (operation : Operation) (v : Visit α) : Failure → Prop
  | peer {failure : Failure} (retryable : failure.isRetryable) (fit : ¬ v.HasGotUnfitToken)
      (free : ¬ v.IsStuck operation) : FailsWith operation v failure
  | token (unfit : v.HasGotUnfitToken) (free : ¬ v.IsStuck operation) :
      FailsWith operation v .invalidHeader
  | address (fit : ¬ v.HasGotUnfitToken) (stuck : v.IsStuck operation) :
      FailsWith operation v (.request (.badTarget .tooLong))

variable {v : Visit α} {operation : Operation} {action : Tracker.Action α} {failure : Failure}

namespace FailsWith

theorem ne_noPeers (h : v.FailsWith operation failure) : failure ≠ .noPeers := by
  rintro rfl
  cases h with
  | peer retryable fit free => contradiction

theorem isRetryable_iff (h : v.FailsWith operation failure) :
    failure.isRetryable ↔ ¬ v.HasGotUnfitToken ∧ ¬ v.IsStuck operation := by
  cases h with
  | peer retryable fit free => exact iff_of_true retryable ⟨fit, free⟩
  | token unfit free => exact iff_of_false (by decide) fun h => h.1 unfit
  | address fit stuck => exact iff_of_false (by decide) fun h => h.2 stuck

theorem eq_invalidHeader (h : v.FailsWith operation failure) (hunfit : v.HasGotUnfitToken) :
    failure = .invalidHeader := by
  cases h with
  | peer retryable fit free => exact absurd hunfit fit
  | token unfit free => rfl
  | address fit stuck => exact absurd hunfit fit

theorem eq_tooLong (h : v.FailsWith operation failure) (hstuck : v.IsStuck operation) :
    failure = .request (.badTarget .tooLong) := by
  cases h with
  | peer retryable fit free => exact absurd hstuck free
  | token unfit free => exact absurd hstuck free
  | address fit stuck => rfl

end FailsWith

/-- A visit that fails with its login has failed because of the peer, the token or the address for
tokens. -/
theorem failsWith_of_login (hlogin : (v.before.login v.url).Runs v.log (.error failure))
    (hafter : v.after = v.before) (hplain : PeerAddress.IsPlain v.url)
    (hnetwork : FailsOfNetwork v.log) :
    v.FailsWith operation failure := by
  rcases Logins.runs_login_iff.1 hlogin with ⟨-, -, hok⟩ | ⟨credentials, hnone, hcredentials, hrun⟩
  · contradiction
  have hnot : ¬ v.IsAdmitted := by
    rw [IsAdmitted, hafter, hnone, hcredentials]
    simp
  have hstuck : v.IsStuck operation ↔ Target.IsTooLong (v.url ++ Logins.tokenPath).toList := by
    simp [IsStuck, hnot]
  have hread := hplain.isRegular_append Logins.tokenPath ["access".toList, "token".toList]
    (by decide) (by decide)
  rcases Logins.runs_obtain_iff.1 hrun with ⟨cause, hreq, hlog, hfail⟩ |
    ⟨request, reply, hreq, hlog, hresult⟩
  · rcases Request.toUrl_cases hread with ⟨hlong, herror⟩ | ⟨-, request, hok⟩
    · obtain rfl : cause = .badTarget .tooLong := Except.error.inj (hreq.symm.trans herror)
      cases hfail
      refine .address ?_ (hstuck.2 hlong)
      rintro ⟨_, _, _, -, -, -, hlog', -⟩
      rw [hlog] at hlog'
      contradiction
    · cases hreq.symm.trans hok
  · have hfree : ¬ v.IsStuck operation := by
      rw [hstuck]
      intro hlong
      rw [Logins.tokenRequest, Request.toUrl, Target.read_of_isTooLong hlong] at hreq
      contradiction
    have hunfit : v.HasGotUnfitToken ↔ ∃ response, reply = .ok response ∧ response.HasUnfitToken := by
      constructor
      · rintro ⟨_, _, response, -, -, -, hlog', hunfit⟩
        rw [hlog] at hlog'
        cases hlog'
        exact ⟨response, rfl, hunfit⟩
      · rintro ⟨response, rfl, hunfit⟩
        exact ⟨credentials, request, response, hnone, hcredentials, hreq, hlog, hunfit⟩
    cases reply with
    | error failure' =>
      cases hresult
      have hof := hnetwork ⟨request, .error failure⟩ (by simp [hlog]) failure rfl
      exact .peer (Failure.isRetryable_of_isOfNetwork hof) (by simp [hunfit]) hfree
    | ok response =>
      rw [Except.bind] at hresult
      cases htoken : Logins.readToken (v.url ++ Logins.tokenPath) response with
      | ok value =>
        rw [htoken] at hresult
        contradiction
      | error failure' =>
        rw [htoken] at hresult
        cases hresult
        rcases Logins.readToken_eq_error htoken with ⟨hretry, hfit⟩ | ⟨rfl, hgranted⟩
        · exact .peer hretry (by simpa [hunfit] using hfit) hfree
        · exact .token (hunfit.2 ⟨response, rfl, hgranted⟩) hfree

/-- A visit that has logged in, or did not need to, has got no token that does not fit. -/
theorem of_runs_login {entry work : List Exchanged}
    (hlogin : (v.before.login v.url).Runs entry (.ok v.after)) (hlog : v.log = entry ++ work) :
    v.IsAdmitted ∧ ¬ v.HasGotUnfitToken := by
  rcases Logins.runs_login_iff.1 hlogin with ⟨hneeds, -, hok⟩ |
    ⟨credentials, hnone, hcredentials, hrun⟩
  · have hafter : v.after = v.before := Except.ok.inj hok
    refine ⟨?_, ?_⟩
    · rw [IsAdmitted, hafter]
      exact hneeds.symm
    · rintro ⟨credentials, _, _, hnone, hcredentials, -⟩
      rcases hneeds with hsome | hnobody
      · exact hsome hnone
      · rw [hnobody] at hcredentials
        contradiction
  · rcases Logins.runs_obtain_iff.1 hrun with ⟨_, _, _, hfail⟩ | ⟨request, reply, -, rfl, hok⟩
    · contradiction
    cases htoken : reply.bind (Logins.readToken (v.url ++ Logins.tokenPath)) with
    | error failure =>
      rw [htoken] at hok
      contradiction
    | ok value =>
      rw [htoken] at hok
      have hafter : v.after = v.before.gain v.url value := Except.ok.inj hok
      refine ⟨.inr ?_, ?_⟩
      · rw [hafter, Logins.authorization?_gain, if_pos rfl]
        simp
      · rintro ⟨_, _, response, -, -, -, hlog', hunfit⟩
        rw [hlog] at hlog'
        cases (List.cons.inj hlog').1
        exact Logins.not_hasUnfitToken_of_readToken htoken hunfit

/-- A visit that fails with its operation has failed because of the peer or the address for the
operation. -/
theorem failsWith_of_action {entry work : List Exchanged}
    (hlogin : (v.before.login v.url).Runs entry (.ok v.after)) (hlog : v.log = entry ++ work)
    (hrun : (action v.url v.after).Runs work (.error failure)) (hdone : operation.IsDoneBy action)
    (hplain : PeerAddress.IsPlain v.url)
    (hnetwork : FailsOfNetwork v.log) :
    v.FailsWith operation failure := by
  obtain ⟨hadmitted, hfit⟩ := of_runs_login hlogin hlog
  obtain ⟨address, haddress, hread⟩ := hplain.exists_address operation
  have hstuck : v.IsStuck operation ↔ Target.IsTooLong address.toList := by
    simp [IsStuck, hadmitted, haddress]
  have hwork : FailsOfNetwork work := fun x hx => hnetwork x (by simp [hlog, hx])
  obtain ⟨_, _, _, hasks, hblames⟩ := hdone v.url v.after address haddress
  rw [hasks] at hrun
  rcases failure_cases_of_runs_ask hrun hblames hread hwork with
    ⟨hretry, hfits⟩ | ⟨rfl, hlong⟩
  · exact .peer hretry hfit (by rwa [hstuck])
  · exact .address hfit (hstuck.2 hlong)

/-- A visit fails because of the peer, the token or the address. -/
theorem IsOf.failsWith (h : v.IsOf action) (hdone : operation.IsDoneBy action)
    (hplain : PeerAddress.IsPlain v.url)
    (hnetwork : FailsOfNetwork v.log)
    (hresult : v.result = .error failure) :
    v.FailsWith operation failure := by
  rcases Logins.runs_visit_iff.1 h with ⟨failure', hlogin, hafter, heq⟩ |
    ⟨entry, work, hlogin, hrun, hlog⟩
  · rw [hresult] at heq
    cases heq
    exact failsWith_of_login hlogin hafter hplain hnetwork
  · rw [hresult] at hrun
    exact failsWith_of_action hlogin hlog hrun hdone hplain hnetwork

/-- The record of a visit without the value that it has given. -/
def erase (v : Visit α) : Visit Unit :=
  { v with result := v.result.map fun _ => () }

theorem erase_result_eq_error_iff :
    v.erase.result = .error failure ↔ v.result = .error failure := by
  cases hresult : v.result <;> simp [erase, hresult, Except.map]

theorem FailsWith.erase (h : v.FailsWith operation failure) :
    v.erase.FailsWith operation failure := by
  cases h with
  | peer retryable fit free => exact .peer retryable fit free
  | token unfit free => exact .token unfit free
  | address fit stuck => exact .address fit stuck

end Visit

/-- If visits end with a failure nobody was visited, or it is that of the last visit. -/
theorem Visits.failsWith {operation : Operation} {action : Tracker.Action α} {logins : Logins}
    {urls : List String} {visits : List (Visit α)} {failure : Failure}
    (h : Visits action logins urls visits) (hdone : operation.IsDoneBy action)
    (hplain : ∀ url ∈ urls, PeerAddress.IsPlain url)
    (hnetwork : FailsOfNetwork (Visit.transcript visits))
    (houtcome : Visit.outcome .noPeers visits = .error failure) :
    (visits = [] ∧ failure = .noPeers) ∨
      ∃ v, visits.getLast? = some v ∧ v.result = .error failure ∧ v.FailsWith operation failure := by
  cases hlast : visits.getLast? with
  | none =>
    obtain rfl := List.getLast?_eq_none_iff.1 hlast
    cases houtcome
    exact .inl ⟨rfl, rfl⟩
  | some v =>
    have hv : v ∈ visits := List.mem_of_getLast? hlast
    have hurl : v.url ∈ urls := by
      refine List.mem_of_mem_take (i := visits.length) ?_
      rw [← h.urls_eq_take]
      exact List.mem_map.2 ⟨v, hv, rfl⟩
    rw [Visit.outcome, hlast] at houtcome
    refine .inr ⟨v, rfl, houtcome, (h.isOf v hv).failsWith hdone (hplain _ hurl) ?_ houtcome⟩
    exact fun x hx => hnetwork x (List.mem_flatMap.2 ⟨v, hv, hx⟩)

/-! ## Attempts in an operation -/

namespace Deed

/-- All visits of a deed in order, each with the operation that it is for. -/
def attempts (d : Deed) : List (Operation × Visit Unit) :=
  d.asked.map (fun v => (.refresh, v.erase)) ++ d.tried.map (fun v => (d.operation, v.erase))

variable {d : Deed} {failure : Failure}

theorem getLast?_attempts (d : Deed) : d.attempts.getLast? =
    ((d.tried.getLast?.map fun v => (d.operation, v.erase)).or
      (d.asked.getLast?.map fun v => (.refresh, v.erase))) := by
  rw [attempts, List.getLast?_append, List.getLast?_map, List.getLast?_map]

/-- If a deed ends with a failure there was nobody to turn to in the end, or it is that of the last
attempt. -/
theorem Occurs.failsWith (h : d.Occurs)
    (hplain : ∀ url ∈ d.before.status.urls ++ d.after.status.urls, PeerAddress.IsPlain url)
    (hnetwork : FailsOfNetwork d.act.log)
    (hresult : d.result = .error failure) :
    (failure = .noPeers ∧
      ∀ operation v, d.attempts.getLast? = some (operation, v) → v.result = .ok ()) ∨
      ∃ operation v, d.attempts.getLast? = some (operation, v) ∧ v.result = .error failure ∧
        v.FailsWith operation failure := by
  obtain ⟨hbefore, hafter⟩ := List.forall_mem_append.1 hplain
  have hrefreshed : ∀ url ∈ d.refreshed.status.urls, PeerAddress.IsPlain url :=
    fun url hurl => hafter url (h.urls_perm.mem_iff.2 hurl)
  obtain ⟨hasking, htrying⟩ := List.forall_mem_append.1 hnetwork
  rw [getLast?_attempts]
  cases h with
  | @refresh t now asked hasked =>
    cases houtcome : Visit.outcome .noPeers asked with
    | ok reported =>
      rw [houtcome] at hresult
      contradiction
    | error failure' =>
      rw [houtcome] at hresult
      cases hresult
      rcases hasked.failsWith Tracker.isDoneBy_fetchPeers hbefore hasking houtcome with
        ⟨rfl, rfl⟩ | ⟨v, hlast, hv, hfails⟩
      · exact .inl ⟨rfl, by simp⟩
      · exact .inr ⟨_, _, by simp [hlast], Visit.erase_result_eq_error_iff.2 hv, hfails.erase⟩
  | @fresh errand t now tried hfresh htried =>
    rcases htried.failsWith errand.isDoneBy_action hbefore htrying hresult with
      ⟨rfl, rfl⟩ | ⟨v, hlast, hv, hfails⟩
    · exact .inl ⟨rfl, by simp⟩
    · exact .inr ⟨_, _, by simp [hlast], Visit.erase_result_eq_error_iff.2 hv, hfails.erase⟩
  | @stale errand t now asked tried reported hstale hasked hreported htried =>
    rcases htried.failsWith errand.isDoneBy_action hrefreshed htrying hresult with
      ⟨rfl, rfl⟩ | ⟨v, hlast, hv, hfails⟩
    · -- the last attempt was to get the list, and it has succeeded
      refine .inl ⟨rfl, ?_⟩
      cases hlast : asked.getLast? with
      | none => simp
      | some v =>
        rw [Visit.outcome, hlast] at hreported
        rintro operation _ ⟨⟩
        simp [Visit.erase, hreported, Except.map]
    · exact .inr ⟨_, _, by simp [hlast], Visit.erase_result_eq_error_iff.2 hv, hfails.erase⟩
  | @expired errand t now asked failure' hstale hasked hfailure =>
    cases hresult
    rcases hasked.failsWith Tracker.isDoneBy_fetchPeers hbefore hasking hfailure with
      ⟨rfl, rfl⟩ | ⟨v, hlast, hv, hfails⟩
    · exact .inl ⟨rfl, by simp⟩
    · exact .inr ⟨_, _, by simp [hlast], Visit.erase_result_eq_error_iff.2 hv, hfails.erase⟩

end Deed

namespace Tracker

/-- **Failures of attempts are retryable.** Let an operation fail that began and ended with plain
addresses alone, over a network that fails only in ways of its own. Whatever the replies are:

* the failure says that there are no peers, unless it is the one of the last attempt;
* another peer may do better if and only if it is the one of the last attempt, and this has neither
  got a token that does not fit nor come to an address that is too long;
* in these two cases it says so. -/
theorem failures_are_retryable_iff {t t' : Tracker} {act : Act} {failure : Failure}
    (hrun : (t.operate act.operation act.now).Runs act.log (t', act.result))
    (hresult : act.result = .error failure)
    (hplain : ∀ url ∈ t.status.urls ++ t'.status.urls, PeerAddress.IsPlain url)
    (hnetwork : FailsOfNetwork act.log) :
    (∃ d : Deed, d.Occurs ∧ d.before = t ∧ d.after = t' ∧ d.act = act) ∧
    ∀ d : Deed, d.Occurs → d.before = t → d.after = t' → d.act = act →
      (failure ≠ .noPeers ↔ ∃ operation v, d.attempts.getLast? = some (operation, v) ∧
        v.result = .error failure) ∧
      (failure.isRetryable ↔ ∃ operation v, d.attempts.getLast? = some (operation, v) ∧
        v.result = .error failure ∧ ¬ v.HasGotUnfitToken ∧ ¬ v.IsStuck operation) ∧
      ∀ operation v, d.attempts.getLast? = some (operation, v) → v.result = .error failure →
        (v.HasGotUnfitToken → failure = .invalidHeader) ∧
        (v.IsStuck operation → failure = .request (.badTarget .tooLong)) := by
  refine ⟨runs_operate_iff.1 hrun, ?_⟩
  rintro d hd rfl rfl rfl
  rcases hd.failsWith hplain hnetwork hresult with ⟨rfl, hnobody⟩ | ⟨operation, v, hlast, hv, hfails⟩
  · have hnone : ∀ operation v, d.attempts.getLast? = some (operation, v) →
        v.result ≠ .error .noPeers := by
      intro operation v hlast heq
      rw [hnobody operation v hlast] at heq
      contradiction
    refine ⟨iff_of_false (by simp) ?_, iff_of_false (by decide) ?_, ?_⟩
    · rintro ⟨operation, v, hlast, hv⟩
      exact hnone operation v hlast hv
    · rintro ⟨operation, v, hlast, hv, -⟩
      exact hnone operation v hlast hv
    · exact fun operation v hlast hv => absurd hv (hnone operation v hlast)
  · refine ⟨iff_of_true hfails.ne_noPeers ⟨operation, v, hlast, hv⟩, ?_, ?_⟩
    · rw [hfails.isRetryable_iff]
      constructor
      · exact fun h => ⟨operation, v, hlast, hv, h⟩
      · rintro ⟨_, _, hlast', -, h⟩
        cases hlast.symm.trans hlast'
        exact h
    · rintro _ _ hlast' -
      cases hlast.symm.trans hlast'
      exact ⟨hfails.eq_invalidHeader, hfails.eq_tooLong⟩

/-- A tracker with one peer, for a user who has not logged in. -/
def lone : Tracker :=
  ofSeeds ["http://a:80/nifi-api"] (.ofSeconds 1) (.start (some "user") none)

theorem isPlain_of_mem_lone : ∀ url ∈ lone.status.urls, PeerAddress.IsPlain url := by
  have hurls : lone.status.urls = ["http://a:80/nifi-api"] := by
    decide +kernel
  have hparse : Url.parse "http://a:80/nifi-api".toList = .ok ⟨"http".toList,
      some { host := some (.domain ['a']) }, .rooted ["nifi-api".toList], none, none⟩ := by
    decide +kernel
  rw [hurls, List.forall_mem_singleton]
  exact ⟨by decide +kernel, _, .domain ['a'], hparse, rfl, by decide, by decide⟩

/-- The peer is asked for a token, and that it gives none is what comes of the refresh. -/
theorem exists_runs_lone (response : Response) (failure : Failure)
    (h : Logins.readToken "http://a:80/nifi-api/access/token" response = .error failure) :
    ∃ request, Logins.tokenRequest ⟨"user", ""⟩ "http://a:80/nifi-api" = .ok request ∧
      (lone.operate .refresh 0).Runs [⟨request, .ok response⟩] (lone, .error failure) := by
  obtain ⟨request, hrequest⟩ : ∃ request,
      Logins.tokenRequest ⟨"user", ""⟩ "http://a:80/nifi-api" = .ok request :=
    Request.exists_toUrl_iff.2 ⟨⟨some "http".toList, some "a:80".toList,
      "/nifi-api/access/token".toList, none⟩, by decide +kernel⟩
  have hurls : lone.status.urls = ["http://a:80/nifi-api"] := by
    decide +kernel
  let v : Visit (List Peer) :=
    ⟨"http://a:80/nifi-api", lone.logins, [⟨request, .ok response⟩], lone.logins, .error failure⟩
  have hresult : (.error failure : Except Failure Logins) =
      (Except.bind (.ok response)
        (Logins.readToken ("http://a:80/nifi-api" ++ Logins.tokenPath))).map
          (lone.logins.gain "http://a:80/nifi-api") := by
    have hpath : "http://a:80/nifi-api" ++ Logins.tokenPath =
        "http://a:80/nifi-api/access/token" := by
      decide +kernel
    rw [hpath, Except.bind, h]
    rfl
  have hv : v.IsOf fetchPeers := Logins.runs_visit_iff.2 (.inl ⟨failure, Logins.runs_login_iff.2
    (.inr ⟨⟨"user", ""⟩, rfl, rfl, Logins.runs_obtain_iff.2
      (.inr ⟨request, .ok response, hrequest, rfl, hresult⟩)⟩), rfl, rfl⟩)
  have hvisits : Visits fetchPeers lone.logins lone.status.urls [v] := by
    rw [hurls]
    exact .failure hv rfl rfl rfl (.none _)
  exact ⟨request, hrequest, runs_of_occurs (Deed.Occurs.refresh hvisits)⟩

/-- A login that is refused is the fault of the peer, which was tried. -/
theorem refused_login_is_retryable : ∃ request response failure,
    (lone.operate .refresh 0).Runs [⟨request, .ok response⟩] (lone, .error failure) ∧
    failure = .authentication "http://a:80/nifi-api/access/token" .notFound ∧
    failure.isRetryable ∧
    ∃ (d : Deed) (operation : Operation) (v : Visit Unit), d.Occurs ∧
      d.act = ⟨.refresh, 0, [⟨request, .ok response⟩], .error failure⟩ ∧
      d.attempts.getLast? = some (operation, v) ∧ v.result = .error failure ∧
      ¬ v.HasGotUnfitToken ∧ ¬ v.IsStuck operation := by
  let response : Response := ⟨.notFound, [], .empty⟩
  obtain ⟨request, -, hrun⟩ := exists_runs_lone response
    (.authentication "http://a:80/nifi-api/access/token" .notFound) (by decide +kernel)
  let act : Act := ⟨.refresh, 0, [⟨request, .ok response⟩],
    .error (.authentication "http://a:80/nifi-api/access/token" .notFound)⟩
  have hact : (lone.operate act.operation act.now).Runs act.log (lone, act.result) := hrun
  obtain ⟨⟨d, hd, hbefore, hafter, heq⟩, hall⟩ := failures_are_retryable_iff hact rfl
    (List.forall_mem_append.2 ⟨isPlain_of_mem_lone, isPlain_of_mem_lone⟩)
    (by simp [act, FailsOfNetwork])
  obtain ⟨operation, v, hlast⟩ := (hall d hd hbefore hafter heq).2.1.1 rfl
  exact ⟨request, response, _, hrun, rfl, rfl, d, operation, v, hd, heq, hlast⟩

/-- A token with the end of a line in it is not, though a peer was tried. -/
theorem unfit_token_is_not_retryable : ∃ request response failure,
    Logins.tokenRequest ⟨"user", ""⟩ "http://a:80/nifi-api" = .ok request ∧
    (lone.operate .refresh 0).Runs [⟨request, .ok response⟩] (lone, .error failure) ∧
    response.status.isSuccess ∧ response.body = .ofText "a\nb".toList ∧
    (∀ url ∈ lone.status.urls, PeerAddress.IsPlain url) ∧
    failure ≠ .noPeers ∧ failure.isRetryable = false := by
  let response : Response := ⟨.created, [], .ofText "a\nb".toList⟩
  obtain ⟨request, hrequest, hrun⟩ := exists_runs_lone response .invalidHeader (by decide +kernel)
  exact ⟨request, response, _, hrequest, hrun, rfl, rfl, isPlain_of_mem_lone, by simp, rfl⟩

end Tracker

end FlowPeers
