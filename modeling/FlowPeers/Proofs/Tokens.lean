import FlowPeers.Proofs.Calls

/-!
# Tokens over whole runs

A run of a tracker begins when it is connected, and ends there if that fails; otherwise anything may
be done with the tracker (`Tracker.Follows`). In every run a token is asked for at most once for each
peer that grants it, is kept for the address that it was asked for at, and goes to no other address
(`Tracker.tokens_are_kept_apart`).
-/

namespace FlowPeers

open Dialogue

namespace Logins

/-- At the beginning no token is kept. -/
theorem authorization?_start (username password : Option String) (url : String) :
    (start username password).authorization? url = none :=
  rfl

end Logins

namespace Tracker

/-- Whether some acts can follow when connecting has come to an end: none if it has failed. -/
def Follows (acts : List Act) : Except Failure Tracker → Prop
  | .error _ => acts = []
  | .ok t₀ => ∃ t, Course t₀ acts t

/-- What is exchanged while a tracker is connected is what is exchanged in a refresh, or nothing. -/
theorem exists_opening_of_runs_connect {raw : List String} {interval : Duration} {logins : Logins}
    {saved : Option PeerStatus} {now : UInt64} {log : List Exchanged}
    {outcome : Except Failure Tracker} (h : (connect raw interval logins saved now).Runs log outcome) :
    ∃ start opening t, start.logins = logins ∧ opening.flatMap Act.log = log ∧
      Course start opening t ∧ ∀ t₀, outcome = .ok t₀ → t = t₀ := by
  rw [connect] at h
  split at h
  · obtain ⟨rfl, rfl⟩ := runs_done_iff.1 h
    exact ⟨ofSeeds [] interval logins, [], ofSeeds [] interval logins, rfl, rfl, .rest, by simp⟩
  · next seeds hseeds =>
    unfold connectTo at h
    split at h
    · next status =>
      obtain ⟨rfl, rfl⟩ := runs_done_iff.1 h
      exact ⟨{ ofSeeds seeds interval logins with status := status, saved := some status }, [], _,
        rfl, rfl, .rest, fun t₀ hok => Except.ok.inj hok⟩
    · obtain ⟨⟨t, result⟩, hrefresh, rfl⟩ := runs_map_iff.1 h
      have hrun : ((ofSeeds seeds interval logins).operate .refresh now).Runs log
          (t, result.map fun _ => Answer.done) :=
        runs_map_iff.2 ⟨_, hrefresh, rfl⟩
      refine ⟨_, [⟨.refresh, now, log, result.map fun _ => Answer.done⟩], t, rfl,
        List.append_nil log, .step .rest hrun, ?_⟩
      cases result <;> simp [Except.map]

/-- A run is a course of a tracker that has just the logins it was given. -/
theorem exists_course_of_runs_connect {raw : List String} {interval : Duration} {logins : Logins}
    {saved : Option PeerStatus} {now : UInt64} {log : List Exchanged}
    {outcome : Except Failure Tracker} {acts : List Act}
    (h : (connect raw interval logins saved now).Runs log outcome) (hacts : Follows acts outcome) :
    ∃ start opening t, start.logins = logins ∧ opening.flatMap Act.log = log ∧
      Course start (opening ++ acts) t := by
  obtain ⟨start, opening, t₁, hstart, hlog, hopening, hok⟩ := exists_opening_of_runs_connect h
  cases outcome with
  | error failure =>
    have hnone : acts = [] := hacts
    rw [hnone]
    exact ⟨start, opening, t₁, hstart, hlog, by rwa [List.append_nil]⟩
  | ok t₀ =>
    obtain ⟨t, hcourse⟩ := hacts
    rw [hok t₀ rfl] at hopening
    exact ⟨start, opening, t, hstart, hlog, hopening.append hcourse⟩

/-- **Tokens are asked for once and sent to nobody else.** Let a tracker be connected, with or
without success, and then do anything with it. All that is exchanged is told in deeds, and however it
is told:

* it is exchanged in calls to peers, each of which is proper (`Call.IsProper`): with somebody to log
  in and no token kept for the peer, it begins with the request for a token, and the token is kept if
  and only if it is granted; a call that is not granted its token ends there;
* what is kept for an address are the tokens that calls to this address have gained, and once one is
  kept nobody logs in there again;
* a request for a token carries no authorization, and any other request carries what is kept for the
  peer that it goes to, and nothing else;
* without a user name no token is asked for and no authorization is sent. -/
theorem tokens_are_kept_apart {raw : List String} {interval : Duration}
    {username password : Option String} {saved : Option PeerStatus} {now : UInt64}
    {log : List Exchanged} {outcome : Except Failure Tracker} {acts : List Act}
    (hconnect : (connect raw interval (.start username password) saved now).Runs log outcome)
    (hacts : Follows acts outcome) :
    ∃ start opening t, start.logins = .start username password ∧
      opening.flatMap Act.log = log ∧ Course start (opening ++ acts) t ∧
      (∃ deeds, Chronicle start deeds t ∧ deeds.map Deed.act = opening ++ acts) ∧
      ∀ deeds, Chronicle start deeds t → deeds.map Deed.act = opening ++ acts →
        let calls := deeds.flatMap Deed.calls
        calls.flatMap (·.log) = log ++ acts.flatMap Act.log ∧
        (∀ c ∈ calls, c.IsProper ∧
          c.before.credentials = (Logins.start username password).credentials) ∧
        (∀ past c later, calls = past ++ c :: later →
          (∀ url value, c.before.authorization? url = some value ↔
            ∃ g ∈ past, g.url = url ∧ g.Gains value) ∧
          ∀ value, c.after.authorization? c.url = some value → ∀ d ∈ later, d.url = c.url →
            d.after = d.before ∧ d.IsWork (some value) d.log ∧ ∀ x ∈ d.log, ∀ credentials url,
              Logins.tokenRequest credentials url ≠ .ok x.request) ∧
        (∀ c ∈ calls, ∀ x ∈ c.log,
          (∃ credentials, c.before.credentials = some credentials ∧
            Logins.tokenRequest credentials c.url = .ok x.request ∧
            x.request.authorizations = []) ∨
          (c.purpose.IsRequest c.url (c.after.authorization? c.url) x.request ∧
            x.request.authorizations = (c.after.authorization? c.url).toList)) ∧
        (username = none → ∀ x ∈ log ++ acts.flatMap Act.log, x.request.authorizations = [] ∧
          ∀ credentials url, Logins.tokenRequest credentials url ≠ .ok x.request) := by
  obtain ⟨start, opening, t, hstart, hopening, hcourse⟩ := exists_course_of_runs_connect hconnect hacts
  refine ⟨start, opening, t, hstart, hopening, hcourse, exists_chronicle hcourse, ?_⟩
  intro deeds hdeeds hdone calls
  have hcalls : Calls start.logins calls t.logins := hdeeds.calls
  have hlog : calls.flatMap (·.log) = log ++ acts.flatMap Act.log := by
    rw [← hopening, ← List.flatMap_append, ← hdone, List.flatMap_map, List.flatMap_assoc]
    simp only [Deed.transcript_calls]
  refine ⟨hlog, ?_, ?_, ?_, ?_⟩
  · intro c hc
    obtain ⟨hkeeps, hproper⟩ := hcalls.of_mem hc
    exact ⟨hproper, hkeeps.credentials.trans (congrArg Logins.credentials hstart)⟩
  · intro past c later heq
    rw [heq] at hcalls
    obtain ⟨hpast, hproper, hlater⟩ := hcalls.of_split
    refine ⟨fun url value => ?_, fun value hvalue d hd hurl => ?_⟩
    · have hnone : start.logins.authorization? url ≠ some value := by
        rw [hstart, Logins.authorization?_start]
        simp
      rw [hpast.authorization?_eq_some_iff, or_iff_right hnone]
    · obtain ⟨hafter, hwork⟩ := hlater.isWork_of_authorization? hvalue hd hurl
      exact ⟨hafter, hwork, fun x hx => (hwork.of_mem hx).tokenRequest_ne⟩
  · exact fun c hc x hx => (hcalls.of_mem hc).2.request_cases hx
  · intro hnobody x hx
    rw [← hlog] at hx
    obtain ⟨c, hc, hx⟩ := List.mem_flatMap.1 hx
    have hwork := hcalls.isWork_of_credentials (by rw [hstart, hnobody]; rfl) hc
    have hrequest := hwork.of_mem hx
    rw [hstart, Logins.authorization?_start] at hrequest
    exact ⟨hrequest.authorizations_eq, hrequest.tokenRequest_ne⟩

/-- Somebody logs in to a peer when a tracker is connected, and then looks a port up in vain. -/
theorem tokens_are_kept_apart_after_login : ∃ log t₀ acts,
    (connect ["http://[::1]:80"] (.ofSeconds 1) (.start (some "user") (some "pass")) none 0).Runs log
      (.ok t₀) ∧
    Follows acts (.ok t₀) ∧ acts.map Act.operation = [.resolvePort "in"] ∧
    (t₀.logins.authorization? "http://[::1]:80/nifi-api").map (·.text) = some "Bearer token" ∧
    ∃ calls : List Call, calls.flatMap (·.log) = log ++ acts.flatMap Act.log ∧
      ∀ c ∈ calls, c.IsProper := by
  let token : Response := ⟨.created, [], .ofText "token".toList⟩
  let list : Response := ⟨.ok, [], .ofText (PeerList.print [("::1", 80, 0)])⟩
  let script : Script := [
    { method := some "POST", replies := [(0, .response token)] },
    { replies := [(0, .response list)] }]
  obtain ⟨log, hrun⟩ := exists_runs_perform Script.responder 0 ⟨script, []⟩
    (connect ["http://[::1]:80"] (.ofSeconds 1) (.start (some "user") (some "pass")) none 0)
  have hok : ((connect ["http://[::1]:80"] (.ofSeconds 1) (.start (some "user") (some "pass")) none
      0).perform Script.responder 0 ⟨script, []⟩).2.2.toOption.map (fun t =>
        (t.logins.authorization? "http://[::1]:80/nifi-api").map (·.text)) =
      some (some "Bearer token") := by
    decide +kernel
  generalize (Dialogue.perform _ _ _ _).2.2 = result at hrun hok
  cases result with
  | error failure => contradiction
  | ok t₀ =>
    obtain ⟨log', ⟨t, result⟩, hrun', -⟩ :=
      exists_runs (fun _ _ => .error .noPeers) (t₀.operate (.resolvePort "in") 7)
    have hacts : Follows [⟨.resolvePort "in", 7, log', result⟩] (.ok t₀) := ⟨t, .step .rest hrun'⟩
    obtain ⟨_, _, _, -, -, -, ⟨deeds, hdeeds, hdone⟩, htold⟩ := tokens_are_kept_apart hrun hacts
    obtain ⟨hlog, hproper, -⟩ := htold deeds hdeeds hdone
    exact ⟨log, t₀, _, hrun, hacts, rfl, Option.some.inj hok, _, hlog, fun c hc => (hproper c hc).1⟩

end Tracker

end FlowPeers
