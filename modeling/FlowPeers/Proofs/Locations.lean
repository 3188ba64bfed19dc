import FlowPeers.Proofs.Custody
import FlowPeers.Proofs.Targets

/-!
# Where transactions are extended

A peer that opens a transaction says where it is. This is read as a URL, relative to that of the
request (`Transaction.place?`), and a successful response opens a transaction if and only if it is
read (`Transaction.ofResponse_cases`). But the transaction is extended by a request, whose target is
read by rules of its own, so it can be extended just where a request can be sent to
(`Transaction.opened_transactions_are_extended_iff`); a URL without a host is opened and never
extended (`Transaction.location_without_host_is_not_extended`).
-/

namespace FlowPeers

open Text Dialogue

theorem Request.exists_toUrl_iff {method url : String} {headers : List Header} {body : Body} :
    (∃ request, toUrl method url headers body = .ok request) ↔
      ∃ target, Target.read url.toList = .ok target := by
  rw [toUrl]
  cases Target.read url.toList <;> simp

namespace Transaction

/-! ## Opening and extending -/

variable {peer port : String} {authorization : Option HeaderValue} {log : List Exchanged}

theorem exists_runs_create {url : Url} (hurl : openUrl peer port = .ok url)
    (hread : (Target.read url.print).toOption.isSome) (response : Response) :
    ∃ request, (create peer authorization port).Runs [⟨request, .ok response⟩]
      (answer peer port authorization url response) := by
  obtain ⟨target, htarget⟩ := Option.isSome_iff_exists.1 hread
  obtain ⟨request, hrequest⟩ : ∃ request, Request.toUrl "POST" (String.ofList url.print)
      (headers authorization) .empty = .ok request := by
    rw [Request.exists_toUrl_iff, String.toList_ofList]
    exact ⟨target, eq_ok_of_toOption htarget⟩
  refine ⟨request, runs_create_iff.2 (.inr ⟨url, hurl, .inr ?_⟩)⟩
  exact ⟨request, .ok response, hrequest, rfl, rfl⟩

/-! ## What is opened and extended -/

/-- The request that extends a transaction can be made if and only if a request can be sent to where
the transaction is. -/
theorem exists_extension_iff {url place : Url} {response : Response} {tx : Transaction}
    (hurl : openUrl peer port = .ok url) (hplace : place? url response = some place)
    (htx : tx.url = String.ofList place.print) :
    (∃ request, Request.toUrl "PUT" tx.url (headers tx.authorization) .empty = .ok request) ↔
      place.IsRequestable := by
  obtain ⟨location, -, hjoin⟩ := Option.bind_eq_some_iff.1 hplace
  have hencoded := Url.isEncoded_join (isEncoded_openUrl hurl) (eq_ok_of_toOption hjoin)
  rw [Request.exists_toUrl_iff, htx, String.toList_ofList, hencoded.exists_read_iff]

/-- **Transactions are extended where requests can be sent to.** In whatever way it goes to open a
transaction:

* if one is opened, then by the successful response to the one request for it, and it is where this
  response says, read relative to the URL of the request. If a request can be sent to there, then
  extending the transaction is one request, which fails only with what the network fails with or with
  the status of the response. If not, nothing is sent to extend it, and each attempt fails because no
  request can be made;
* a successful response opens a transaction if it says where one is, whether or not a request can be
  sent to there; and if it does not say so, this is reported, as something that another peer may do
  better. -/
theorem opened_transactions_are_extended_iff {result : Except Failure Transaction}
    (h : (create peer authorization port).Runs log result) :
    (∀ tx, result = .ok tx → ∃ url request response place, openUrl peer port = .ok url ∧
      log = [⟨request, .ok response⟩] ∧ response.status.isSuccess ∧
      place? url response = some place ∧ tx.url = String.ofList place.print ∧
      (place.IsRequestable → ∃ sign, ∀ log result, tx.extend.Runs log result ↔
        ∃ reply, log = [⟨sign, reply⟩] ∧ result = reply.bind fun response =>
          if response.status.isSuccess then .ok () else .error (.status tx.url response.status)) ∧
      (¬ place.IsRequestable → ∃ cause, ∀ log result, tx.extend.Runs log result ↔
        log = [] ∧ result = .error (.request cause))) ∧
    ∀ request response, log = [⟨request, .ok response⟩] → response.status.isSuccess →
      ∃ url, openUrl peer port = .ok url ∧
        (∀ place, place? url response = some place → ∃ tx, result = .ok tx) ∧
        (place? url response = none → ∃ failure reason, result = .error failure ∧
          failure = .invalidTransaction (String.ofList url.print) reason ∧ failure.isRetryable) := by
  rcases runs_create_iff.1 h with ⟨failure, -, rfl, rfl⟩ | ⟨url, hurl, ⟨cause, -, rfl, rfl⟩ |
    ⟨request, reply, -, rfl, rfl⟩⟩
  · exact ⟨by simp, by simp⟩
  · exact ⟨by simp, by simp⟩
  · constructor
    · intro tx htx
      cases reply with
      | error failure => cases htx
      | ok response =>
        rw [Except.bind, answer, Exchange.ifSuccess] at htx
        split at htx
        · next hsuccess =>
          rcases ofResponse_cases peer port authorization url response with
            ⟨place, tx', hplace, hwhere, hopened⟩ | ⟨-, reason, hreported⟩
          · obtain rfl : tx' = tx := Except.ok.inj (hopened.symm.trans htx)
            have hiff := exists_extension_iff hurl hplace hwhere
            refine ⟨url, request, response, place, hurl, rfl, hsuccess, hplace, hwhere, ?_, ?_⟩
            · intro hrequestable
              obtain ⟨sign, hsign⟩ := hiff.2 hrequestable
              exact ⟨sign, fun log result => by rw [runs_extend_iff, hsign]; simp⟩
            · intro hnot
              cases hsign : Request.toUrl "PUT" tx'.url (headers tx'.authorization) .empty with
              | ok sign => exact absurd (hiff.1 ⟨sign, hsign⟩) hnot
              | error cause => exact ⟨cause, fun log result => by rw [runs_extend_iff, hsign]; simp⟩
          · rw [hreported] at htx
            contradiction
        · contradiction
    · rintro _ response ⟨⟩ hsuccess
      refine ⟨url, hurl, ?_⟩
      simp only [Except.bind, answer, Exchange.ifSuccess, if_pos hsuccess]
      rcases ofResponse_cases peer port authorization url response with
        ⟨place, tx, hplace, -, hopened⟩ | ⟨hnone, reason, hreported⟩
      · rw [hplace, hopened]
        exact ⟨fun _ _ => ⟨tx, rfl⟩, by simp⟩
      · rw [hnone, hreported]
        exact ⟨by simp, fun _ => ⟨_, reason, rfl, rfl, rfl⟩⟩

/-- The URL for the port `in` of a peer. -/
def portUrl : Url :=
  ⟨"http".toList, some { host := some (.domain ['a']), port := some 8080 },
    .rooted ["nifi-api".toList, "data-transfer".toList, "input-ports".toList, "in".toList,
      "transactions".toList], none, none⟩

theorem openUrl_in : openUrl "http://a:8080/nifi-api" "in" = .ok portUrl := by
  decide +kernel

/-- A transaction that is opened at another host, with a query. -/
theorem location_elsewhere_is_extended : ∃ request response tx sign,
    (create "http://a:8080/nifi-api" none "in").Runs [⟨request, .ok response⟩] (.ok tx) ∧
    location? response = some "//b/tx?1".toList ∧ tx.url = "http://b/tx?1" ∧
    ∀ log result, tx.extend.Runs log result ↔ ∃ reply, log = [⟨sign, reply⟩] ∧
      result = reply.bind fun response =>
        if response.status.isSuccess then .ok () else .error (.status tx.url response.status) := by
  let response : Response := ⟨.created, [⟨"location", .ofString "//b/tx?1"⟩], .empty⟩
  obtain ⟨request, hrun⟩ := exists_runs_create openUrl_in (by decide +kernel) response
  have hopened : answer "http://a:8080/nifi-api" "in" none portUrl response =
      .ok ⟨"http://a:8080/nifi-api", "http://b/tx?1", "in", 30, none⟩ := by
    decide +kernel
  rw [hopened] at hrun
  obtain ⟨url, _, _, place, hurl, hlog, -, hplace, -, hextended, -⟩ :=
    (opened_transactions_are_extended_iff hrun).1 _ rfl
  cases hlog
  obtain rfl : portUrl = url := Except.ok.inj (openUrl_in.symm.trans hurl)
  have hthere : place? portUrl response = some ⟨"http".toList, some { host := some (.domain ['b']) },
      .rooted ["tx".toList], some ['1'], none⟩ := by
    decide +kernel
  obtain rfl := Option.some.inj (hthere.symm.trans hplace)
  obtain ⟨sign, hsign⟩ := hextended ⟨by decide +kernel, ⟨_, rfl, by decide⟩, by decide⟩
  exact ⟨request, response, _, sign, hrun, by decide +kernel, rfl, hsign⟩

/-- A transaction that is opened at a path without a host, where no request can be sent to. -/
theorem location_without_host_is_not_extended : ∃ request response tx,
    (create "http://a:8080/nifi-api" none "in").Runs [⟨request, .ok response⟩] (.ok tx) ∧
    response.status.isSuccess ∧ location? response = some "unix:/tx".toList ∧ tx.url = "unix:/tx" ∧
    Request.toUrl "PUT" tx.url (headers tx.authorization) .empty = .error (.badTarget .badFormat) ∧
    ∀ log result, tx.extend.Runs log result ↔
      log = [] ∧ result = .error (.request (.badTarget .badFormat)) := by
  let response : Response := ⟨.created, [⟨"location", .ofString "unix:/tx"⟩], .empty⟩
  obtain ⟨request, hrun⟩ := exists_runs_create openUrl_in (by decide +kernel) response
  have hopened : answer "http://a:8080/nifi-api" "in" none portUrl response =
      .ok ⟨"http://a:8080/nifi-api", "unix:/tx", "in", 30, none⟩ := by
    decide +kernel
  have hput : Request.toUrl "PUT" "unix:/tx" (headers none) .empty =
      .error (.badTarget .badFormat) := by
    decide +kernel
  rw [hopened] at hrun
  refine ⟨request, response, _, hrun, rfl, by decide +kernel, rfl, hput, fun log result => ?_⟩
  rw [runs_extend_iff, hput]
  simp

end Transaction

end FlowPeers
